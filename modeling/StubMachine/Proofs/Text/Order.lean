import StubMachine.Proofs.Bytecode.Writing

/-!
# The order of texts

Texts are ordered by their code points: the first character in which two of them differ decides, and
a text comes before its extensions.  **This is the order of their bytes** (`before_iff_bytes`).  In
UTF-8 the smaller of two characters has a smaller byte where their bytes first differ, since the
lead byte tells how many bytes there are and the bits follow from the highest to the lowest.
-/

namespace StubMachine.Text

/-- **A text comes before another one** in the order of code points. -/
def Before (s t : String) : Prop :=
  List.Lex (fun c d : Char => c.toNat < d.toNat) s.toList t.toList

theorem Before.irrefl (s : String) : ¬ Before s s :=
  List.lex_irrefl (fun c => Nat.lt_irrefl c.toNat) s.toList

theorem Before.trans {s t u : String} (h : Before s t) (h' : Before t u) : Before s u :=
  List.lex_trans (fun lt lt' => Nat.lt_trans lt lt') h h'

/-! ## Comparing -/

theorem compare_eq_lt {s t : String} : compare s t = .lt ↔ Before s t :=
  compareOfLessAndEq_eq_lt

theorem compare_eq_eq {s t : String} : compare s t = .eq ↔ s = t := Std.compare_eq_iff_eq

theorem compare_eq_gt {s t : String} : compare s t = .gt ↔ Before t s := by
  rw [Std.OrientedCmp.gt_iff_lt]
  exact compare_eq_lt

theorem before_trichotomy (s t : String) : Before s t ∨ s = t ∨ Before t s := by
  rw [← compare_eq_lt, ← compare_eq_eq, ← compare_eq_gt]
  cases compare s t with
  | lt => exact .inl rfl
  | eq => exact .inr (.inl rfl)
  | gt => exact .inr (.inr rfl)

/-- **The order of texts is total**: of two different texts one comes before the other. -/
theorem before_total : IsStrictTotalOrder String Before where
  trichotomous s t not_before not_after := by
    rcases before_trichotomy s t with before | same | after
    · exact absurd before not_before
    · exact same
    · exact absurd after not_after
  irrefl := Before.irrefl
  trans _ _ _ := Before.trans

/-! ## Bytes -/

/-- The first bytes that differ are there in both, and the first of them is smaller. -/
inductive Diverge : List UInt8 → List UInt8 → Prop
  | here {x y : UInt8} {xs ys : List UInt8} : x < y → Diverge (x :: xs) (y :: ys)
  | later {x : UInt8} {xs ys : List UInt8} : Diverge xs ys → Diverge (x :: xs) (x :: ys)

namespace Diverge
variable {a b : Nat} {xs ys : List UInt8}

theorem lead (lt : a < b) (small : b < 256) :
    Diverge (UInt8.ofNat a :: xs) (UInt8.ofNat b :: ys) := by
  refine .here (UInt8.lt_iff_toNat_lt.mpr ?_)
  rw [UInt8.toNat_ofNat', UInt8.toNat_ofNat']
  omega

/-- A byte that is not greater decides, unless it is the same: then the others do. -/
theorem step (le : a ≤ b) (small : b < 256) (rest : a = b → Diverge xs ys) :
    Diverge (UInt8.ofNat a :: xs) (UInt8.ofNat b :: ys) := by
  rcases Nat.lt_or_eq_of_le le with lt | same
  · exact lead lt small
  · exact same ▸ .later (rest same)

/-- What follows does not matter. -/
theorem lex_append (h : Diverge xs ys) (us vs : List UInt8) :
    List.Lex (· < ·) (xs ++ us) (ys ++ vs) := by
  induction h with
  | here lt => exact .rel lt
  | later _ ih => exact .cons ih

end Diverge

/-- **The bytes of a smaller character diverge downwards.** -/
theorem diverge_utf8 {c d : Char} (lt : c.toNat < d.toNat) :
    Diverge (String.utf8EncodeChar c) (String.utf8EncodeChar d) := by
  have bound : d.toNat < 0x110000 := by
    obtain below | ⟨-, below⟩ := d.valid
    · exact Nat.lt_trans below (by decide)
    · exact below
  have value (c : Char) : c.val.toNat = c.toNat := rfl
  simp only [String.utf8EncodeChar, value]
  generalize c.toNat = v at lt
  generalize d.toNat = w at lt bound
  -- A character that has fewer bytes has a smaller lead byte.  If there are as many, each byte but
  -- the last one decides unless the bits that it holds are the same.
  split
  next =>
    split
    next => exact .lead (by omega) (by omega)
    next =>
      split
      next => exact .lead (by omega) (by omega)
      next =>
        split
        next => exact .lead (by omega) (by omega)
        next => exact .lead (by omega) (by omega)
  next =>
    rw [if_neg (show ¬ w ≤ 0x7f by omega)]
    split
    next =>
      split
      next =>
        exact .step (by omega) (by omega) fun high => .lead (by omega) (by omega)
      next =>
        split
        next => exact .lead (by omega) (by omega)
        next => exact .lead (by omega) (by omega)
    next =>
      rw [if_neg (show ¬ w ≤ 0x7ff by omega)]
      split
      next =>
        split
        next =>
          exact .step (by omega) (by omega) fun high =>
            .step (by omega) (by omega) fun middle => .lead (by omega) (by omega)
        next => exact .lead (by omega) (by omega)
      next =>
        rw [if_neg (show ¬ w ≤ 0xffff by omega)]
        exact .step (by omega) (by omega) fun high =>
          .step (by omega) (by omega) fun upper =>
            .step (by omega) (by omega) fun lower => .lead (by omega) (by omega)

theorem lex_utf8 {cs ds : List Char} (h : List.Lex (fun c d => c.toNat < d.toNat) cs ds) :
    List.Lex (· < ·) (cs.flatMap String.utf8EncodeChar) (ds.flatMap String.utf8EncodeChar) := by
  induction h with
  | @nil d ds =>
    rw [List.flatMap_nil, List.flatMap_cons]
    obtain ⟨b, bs, some⟩ := List.exists_cons_of_ne_nil (String.utf8EncodeChar_ne_nil (c := d))
    rw [some]
    exact .nil
  | @rel c cs d ds lt =>
    rw [List.flatMap_cons, List.flatMap_cons]
    exact (diverge_utf8 lt).lex_append _ _
  | @cons c cs ds _ ih =>
    rw [List.flatMap_cons, List.flatMap_cons]
    exact ih.append_left _ _

/-- **The order of texts is that of their bytes.** -/
theorem before_iff_bytes (s t : String) :
    Before s t ↔ List.Lex (· < ·) s.toUTF8.data.toList t.toUTF8.data.toList := by
  have bytes {s t : String} (h : Before s t) :
      List.Lex (· < ·) s.toUTF8.data.toList t.toUTF8.data.toList := by
    rw [Record.toUTF8_eq_flatMap, Record.toUTF8_eq_flatMap]
    exact lex_utf8 h
  have irrefl (u : String) : ¬ List.Lex (· < ·) u.toUTF8.data.toList u.toUTF8.data.toList :=
    List.lex_irrefl (fun b => UInt8.lt_irrefl b) _
  refine ⟨bytes, fun h => ?_⟩
  rcases before_trichotomy s t with before | rfl | after
  · exact before
  · exact absurd h (irrefl s)
  · have lt_trans : ∀ {a b c : UInt8}, a < b → b < c → a < c := UInt8.lt_trans
    exact (irrefl s (List.lex_trans lt_trans h (bytes after))).elim

end StubMachine.Text
