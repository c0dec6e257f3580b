import StubMachine.Proofs.Text.Searching

/-!
# The native function that fills in a template

A template is a text with placeholders: a dollar sign and as many decimal digits as follow, at least
one.  Everything else stands for itself, a dollar sign without a digit too.  **This is the only way
to read it** (`Reading.unique`), and it is what the scan that has one character of foresight comes
to (`Reading.templateParts`).  So what is filled in is told by the reading alone
(`format_substitutes`): the items that the placeholders name, converted one after the other, each in
the state in which the conversion before it ends.
-/

namespace StubMachine

open StubMachine.Action

/-! ## Reading a template -/

/-- A piece of a template. -/
inductive TemplatePiece
  | char (c : Char)
  /-- A dollar sign and these digits. -/
  | placeholder (digits : List Char)

/-- Whether a text begins with a decimal digit. -/
def DigitFirst (cs : List Char) : Prop := cs.head?.any Char.isDigit = true

instance (cs : List Char) : Decidable (DigitFirst cs) := inferInstanceAs (Decidable (_ = true))

namespace TemplatePiece

/-- **A reading of a template.**  A placeholder has a digit at least, and all that follow; a dollar
sign that is read as a character is followed by none. -/
inductive Reading : List Char → List TemplatePiece → Prop
  | done : Reading [] []
  | char {c : Char} {rest : List Char} {pieces : List TemplatePiece} :
    ¬ (c = '$' ∧ DigitFirst rest) → Reading rest pieces → Reading (c :: rest) (.char c :: pieces)
  | placeholder {digits rest : List Char} {pieces : List TemplatePiece} : digits ≠ [] →
    (∀ d ∈ digits, d.isDigit) → ¬ DigitFirst rest → Reading rest pieces →
    Reading ('$' :: digits ++ rest) (.placeholder digits :: pieces)

/-- The number of a placeholder. -/
def number? : TemplatePiece → Option Nat
  | char _ => none
  | placeholder digits => some (Literal.digitsValue digits)

/-- The numbers of the placeholders, in order. -/
def numbers (pieces : List TemplatePiece) : List Nat := pieces.filterMap number?

/-- The pieces with texts in place of the placeholders, in order. -/
def filled : List TemplatePiece → List String → List Char
  | [], _ => []
  | char c :: pieces, texts => c :: filled pieces texts
  | placeholder _ :: pieces, texts => (texts.headD "").toList ++ filled pieces texts.tail

/-- The piece as the scan hands it on. -/
def part : TemplatePiece → Native.TemplatePart
  | char c => .char c
  | placeholder digits => .item (Literal.digitsValue digits)

/-- Digits are followed by no digit precisely if they are all that there are. -/
theorem takeWhile_digits {digits rest : List Char} (all : ∀ d ∈ digits, d.isDigit)
    (ends : ¬ DigitFirst rest) : (digits ++ rest).takeWhile Char.isDigit = digits := by
  rw [List.takeWhile_append_of_pos all]
  cases rest with
  | nil => exact List.append_nil digits
  | cons c rest =>
    have other : ¬ c.isDigit = true := ends
    rw [List.takeWhile_cons_of_neg other, List.append_nil]

theorem not_digitFirst_dropWhile (cs : List Char) : ¬ DigitFirst (cs.dropWhile Char.isDigit) := by
  induction cs with
  | nil => exact Bool.false_ne_true
  | cons c cs ih =>
    by_cases digit : c.isDigit = true
    · rwa [List.dropWhile_cons_of_pos digit]
    · rwa [List.dropWhile_cons_of_neg digit]

/-- Every template has a reading. -/
theorem Reading.exists (cs : List Char) : ∃ pieces, Reading cs pieces := by
  -- a placeholder takes several characters at once, so the induction is on the length
  induction size : cs.length using Nat.strong_induction_on generalizing cs with
  | _ n ih =>
    cases cs with
    | nil => exact ⟨[], .done⟩
    | cons c cs =>
      subst size
      by_cases starts : c = '$' ∧ DigitFirst cs
      · obtain ⟨rfl, first⟩ := starts
        have split : cs.takeWhile Char.isDigit ++ cs.dropWhile Char.isDigit = cs :=
          List.takeWhile_append_dropWhile
        obtain ⟨pieces, reading⟩ := ih _
          (Nat.lt_succ_of_le (List.dropWhile_sublist _).length_le) (cs.dropWhile Char.isDigit) rfl
        have some : cs.takeWhile Char.isDigit ≠ [] := by
          cases cs with
          | nil => cases first
          | cons d ds =>
            have first : d.isDigit = true := first
            rw [List.takeWhile_cons_of_pos first]
            exact List.cons_ne_nil _ _
        have placed := Reading.placeholder some (fun d mem => List.mem_takeWhile_imp mem)
          (not_digitFirst_dropWhile cs) reading
        rw [List.cons_append, split] at placed
        exact ⟨_, placed⟩
      · obtain ⟨pieces, reading⟩ := ih _ (Nat.lt_succ_self _) cs rfl
        exact ⟨_, .char starts reading⟩

/-- **A template has no other reading**: whether a placeholder begins is told by the next character,
and where it ends by the digits. -/
theorem Reading.unique {cs : List Char} {pieces pieces' : List TemplatePiece}
    (h : Reading cs pieces) (h' : Reading cs pieces') : pieces = pieces' := by
  have begins {digits rest : List Char} (some : digits ≠ []) (all : ∀ d ∈ digits, d.isDigit) :
      DigitFirst (digits ++ rest) := by
    obtain ⟨d, ds, rfl⟩ := List.exists_cons_of_ne_nil some
    exact all d List.mem_cons_self
  induction h generalizing pieces' with
  | done =>
    cases h'
    rfl
  | char plain _ ih =>
    cases h' with
    | char _ h' => rw [ih h']
    | placeholder some all _ _ => exact absurd ⟨rfl, begins some all⟩ plain
  | @placeholder digits rest pieces some all ends _ ih =>
    generalize same : '$' :: digits ++ rest = cs at h'
    cases h' with
    | done => cases same
    | char plain _ =>
      cases same
      exact absurd ⟨rfl, begins some all⟩ plain
    | @placeholder digits' rest' _ _ all' ends' h' =>
      have same : digits ++ rest = digits' ++ rest' := (List.cons.inj same).2
      -- a placeholder has all the digits that follow, so both readings take the same
      have digits_eq : digits = digits' := by
        rw [← takeWhile_digits all ends, same, takeWhile_digits all' ends']
      subst digits_eq
      rw [ih (List.append_cancel_left same ▸ h')]

/-! ## The scan -/

/-- The scan goes on with a placeholder as long as there are digits. -/
theorem templateParts_some {digits rest : List Char} (all : ∀ d ∈ digits, d.isDigit)
    (ends : ¬ DigitFirst rest) (n : Nat) :
    Native.templateParts (some n) (digits ++ rest) =
      .item (digits.foldl (fun n c => n * 10 + (c.toNat - '0'.toNat)) n) ::
        Native.templateParts none rest := by
  induction digits generalizing n with
  | nil =>
    cases rest with
    | nil => rfl
    | cons c rest =>
      have other : ¬ c.isDigit = true := ends
      simp only [List.nil_append, Native.templateParts, if_neg other, List.foldl_nil]
      split
      · rfl
      · rfl
  | cons d digits ih =>
    have first : d.isDigit = true := all d List.mem_cons_self
    rw [List.cons_append, Native.templateParts]
    simp only [if_pos first]
    exact ih (fun d' mem => all d' (List.mem_cons_of_mem d mem)) _

/-- **The scan comes to the reading.** -/
theorem Reading.templateParts {cs : List Char} {pieces : List TemplatePiece}
    (h : Reading cs pieces) : Native.templateParts none cs = pieces.map part := by
  induction h with
  | done => rfl
  | @char c rest pieces plain _ ih =>
    have plain : ¬ (c = '$' ∧ rest.head?.any Char.isDigit = true) := plain
    rw [Native.templateParts]
    simp only [if_neg plain, ih]
    rfl
  | @placeholder digits rest pieces some all ends _ ih =>
    obtain ⟨d, ds, rfl⟩ := List.exists_cons_of_ne_nil some
    have first : d.isDigit = true := all d List.mem_cons_self
    have starts : '$' = '$' ∧ (d :: ds ++ rest).head?.any Char.isDigit = true := ⟨rfl, first⟩
    rw [List.cons_append, Native.templateParts]
    show (if _ then _ else _) = _
    rw [if_pos starts, templateParts_some all ends, ih]
    rfl

/-! ## Filling in -/

/-- **What is filled in for the placeholders**: each names an item, and the items are converted to
texts in turn. -/
structure Supplied (e : Engine) (items : Array Value) (m : Machine) (pieces : List TemplatePiece)
    (texts : List String) (m' : Machine) : Prop where
  inside : ∀ n ∈ numbers pieces, n < items.size
  inTurn : InTurn (asString e) m ((numbers pieces).map fun n => items.getD n .empty) texts m'

/-- **A placeholder that nothing can be filled in for**, after those before it were: it names no
item, or one that does not convert. -/
inductive Spoils (e : Engine) (items : Array Value) (m : Machine) :
    List TemplatePiece → Failure → Machine → Prop
  | missing {before after : List TemplatePiece} {digits : List Char} {texts : List String}
    {m' : Machine} : Supplied e items m before texts m' →
    items.size ≤ Literal.digitsValue digits →
    Spoils e items m (before ++ placeholder digits :: after)
      (.plain (Native.missingItem (Literal.digitsValue digits))) m'
  | unconverted {before after : List TemplatePiece} {digits : List Char} {texts : List String}
    {v : Value} {m₁ m' : Machine} {failure : Failure} : Supplied e items m before texts m₁ →
    items[Literal.digitsValue digits]? = some v → asString e v m₁ = .error failure m' →
    Spoils e items m (before ++ placeholder digits :: after) failure m'

section
variable {e : Engine} {items : Array Value} {m m₁ m' : Machine} {pieces : List TemplatePiece}
variable {digits : List Char} {v : Value} {text : String} {texts : List String} {failure : Failure}

/-! ### One piece more -/

theorem Supplied.char (h : Supplied e items m pieces texts m') (c : Char) :
    Supplied e items m (.char c :: pieces) texts m' := ⟨h.inside, h.inTurn⟩

theorem Supplied.placeholder (named : items[Literal.digitsValue digits]? = some v)
    (converted : asString e v m = .ok text m₁) (h : Supplied e items m₁ pieces texts m') :
    Supplied e items m (.placeholder digits :: pieces) (text :: texts) m' := by
  obtain ⟨inside, same⟩ := Array.getElem?_eq_some_iff.mp named
  have item : asString e (items.getD (Literal.digitsValue digits) .empty) m = .ok text m₁ := by
    rw [Array.getD_eq_getD_getElem?, named]
    exact converted
  refine ⟨fun n mem => ?_, .next item h.inTurn⟩
  rcases List.mem_cons.mp mem with rfl | mem
  · exact inside
  · exact h.inside n mem

/-- Where the first placeholder names an item that converts, the others decide. -/
theorem Supplied.cases_placeholder
    (h : Supplied e items m (.placeholder digits :: pieces) texts m') :
    ∃ v text m₁ rest, items[Literal.digitsValue digits]? = some v ∧
      asString e v m = .ok text m₁ ∧ Supplied e items m₁ pieces rest m' ∧ texts = text :: rest := by
  obtain ⟨inside, inTurn⟩ := h
  have here : Literal.digitsValue digits < items.size := inside _ List.mem_cons_self
  cases inTurn with
  | next converted others =>
    have item : items.getD (Literal.digitsValue digits) .empty =
        items[Literal.digitsValue digits] := by
      rw [Array.getD_eq_getD_getElem?, Array.getElem?_eq_getElem here]
      rfl
    exact ⟨_, _, _, _, Array.getElem?_eq_getElem here, item ▸ converted,
      ⟨fun n mem => inside n (List.mem_cons_of_mem _ mem), others⟩, rfl⟩

theorem Spoils.char (h : Spoils e items m pieces failure m') (c : Char) :
    Spoils e items m (.char c :: pieces) failure m' := by
  cases h with
  | missing supplied outside => exact .missing (supplied.char c) outside
  | unconverted supplied named failed => exact .unconverted (supplied.char c) named failed

theorem Spoils.placeholder (named : items[Literal.digitsValue digits]? = some v)
    (converted : asString e v m = .ok text m₁) (h : Spoils e items m₁ pieces failure m') :
    Spoils e items m (.placeholder digits :: pieces) failure m' := by
  cases h with
  | missing supplied outside => exact .missing (supplied.placeholder named converted) outside
  | unconverted supplied named' failed =>
    exact .unconverted (supplied.placeholder named converted) named' failed

/-! ### All of them -/

/-- Either all placeholders are filled in, or there is a first one that cannot be. -/
theorem supplied_or_spoils (e : Engine) (items : Array Value) (m : Machine)
    (pieces : List TemplatePiece) :
    (∃ texts m', Supplied e items m pieces texts m') ∨
      ∃ failure m', Spoils e items m pieces failure m' := by
  induction pieces generalizing m with
  | nil => exact .inl ⟨[], m, nofun, .done m⟩
  | cons piece pieces ih =>
    cases piece with
    | char c =>
      rcases ih m with ⟨texts, m', supplied⟩ | ⟨failure, m', spoils⟩
      · exact .inl ⟨texts, m', supplied.char c⟩
      · exact .inr ⟨failure, m', spoils.char c⟩
    | placeholder digits =>
      have first : Supplied e items m [] [] m := ⟨nofun, .done m⟩
      cases named : items[Literal.digitsValue digits]? with
      | none =>
        have outside := Array.getElem?_eq_none_iff.mp named
        exact .inr ⟨_, m, @Spoils.missing e items m [] pieces digits [] m first outside⟩
      | some v =>
        cases converted : asString e v m with
        | error failure m' =>
          exact .inr ⟨failure, m',
            @Spoils.unconverted e items m [] pieces digits [] v m m' failure first named converted⟩
        | ok text m₁ =>
          rcases ih m₁ with ⟨texts, m', supplied⟩ | ⟨failure, m', spoils⟩
          · exact .inl ⟨text :: texts, m', supplied.placeholder named converted⟩
          · exact .inr ⟨failure, m', spoils.placeholder named converted⟩

/-- What is filled in is what the parts of the template stand for. -/
theorem Supplied.inTurn_partText (h : Supplied e items m pieces texts m') :
    ∃ chunks, InTurn (Native.partText e items) m (pieces.map part) chunks m' ∧
      chunks.flatten = filled pieces texts := by
  induction pieces generalizing m texts with
  | nil =>
    obtain ⟨-, inTurn⟩ := h
    cases inTurn
    exact ⟨[], .done _, rfl⟩
  | cons piece pieces ih =>
    cases piece with
    | char c =>
      obtain ⟨chunks, inTurn, same⟩ := ih ⟨h.inside, h.inTurn⟩
      exact ⟨[c] :: chunks, .next rfl inTurn, congrArg (c :: ·) same⟩
    | placeholder digits =>
      obtain ⟨v, text, m₁, rest, named, converted, others, rfl⟩ := h.cases_placeholder
      obtain ⟨chunks, inTurn, same⟩ := ih others
      refine ⟨text.toList :: chunks, .next ?_ inTurn, congrArg (text.toList ++ ·) same⟩
      simp only [part, Native.partText, named]
      exact Action.bind_ok converted

theorem Spoils.breaksOff (h : Spoils e items m pieces failure m') :
    BreaksOff (Native.partText e items) m (pieces.map part) failure m' := by
  cases h with
  | @missing before after digits _ m' supplied outside =>
    obtain ⟨chunks, inTurn, -⟩ := supplied.inTurn_partText
    refine ⟨before.map part, .item (Literal.digitsValue digits), after.map part, chunks, _, ?_,
      inTurn, ?_⟩
    · rw [List.map_append]
      rfl
    · rw [Native.partText, Array.getElem?_eq_none outside]
      rfl
  | @unconverted before after digits _ v m₁ _ _ supplied named failed =>
    obtain ⟨chunks, inTurn, -⟩ := supplied.inTurn_partText
    refine ⟨before.map part, .item (Literal.digitsValue digits), after.map part, chunks, m₁, ?_,
      inTurn, ?_⟩
    · rw [List.map_append]
      rfl
    · simp only [Native.partText, named]
      exact Action.bind_error failed

end

end TemplatePiece

namespace Native

open TemplatePiece

section
variable {e : Engine} {args : Array Value} {template : String} {o : ObjectId} {m m' : Machine}
variable {pieces : List TemplatePiece}

/-- Filling in is what is left to do when the template and the items are known. -/
theorem formatText_eq (base : argument args 0 = .string template)
    (given : argument args 1 = .object o) (reading : Reading template.toList pieces) :
    formatText e args m = (do
      let parts ← (pieces.map part).mapM (partText e (m.object o).indices)
      return Value.string (String.ofList parts.flatten)) m := by
  have items : objectArgument args 1 "items" m = .ok o m := by
    rw [objectArgument, given]
    rfl
  have object : objectAt o m = .ok (m.object o) m := rfl
  rw [formatText, Action.bind_ok (baseString_ok base m), Action.bind_ok items,
    Action.bind_ok object, reading.templateParts]

theorem formatText_supplied {texts : List String} (base : argument args 0 = .string template)
    (given : argument args 1 = .object o) (reading : Reading template.toList pieces)
    (supplied : Supplied e (m.object o).indices m pieces texts m') :
    formatText e args m = .ok (.string (String.ofList (filled pieces texts))) m' := by
  obtain ⟨chunks, inTurn, same⟩ := supplied.inTurn_partText
  rw [formatText_eq base given reading, Action.bind_ok (mapM_eq_ok_iff.mpr inTurn), same]
  rfl

theorem formatText_spoils {failure : Failure} (base : argument args 0 = .string template)
    (given : argument args 1 = .object o) (reading : Reading template.toList pieces)
    (spoils : Spoils e (m.object o).indices m pieces failure m') :
    formatText e args m = .error failure m' := by
  rw [formatText_eq base given reading,
    Action.bind_error (mapM_eq_error_iff.mpr spoils.breaksOff)]

end

/-- **Exactly the placeholders are replaced.**  A template has one reading as characters and
placeholders.  Filling it in succeeds precisely if the number of each placeholder is less than that
of the items, and the items that the placeholders name convert to texts, each in the state in which
the one before it has left the machine.  The result is the template with these texts in place of the
placeholders; a text that is put in is not looked at again.  Otherwise filling in fails, at the
first placeholder that names no item or one that does not convert. -/
theorem format_substitutes (e : Engine) {args : Array Value} {template : String} {o : ObjectId}
    (m : Machine) (base : argument args 0 = .string template)
    (given : argument args 1 = .object o) :
    ∃ pieces, (∀ pieces', Reading template.toList pieces' ↔ pieces' = pieces) ∧
      (∀ v m', runQuery e args .format m = .ok v m' ↔
        ∃ texts, Supplied e (m.object o).indices m pieces texts m' ∧
          v = .string (String.ofList (filled pieces texts))) ∧
      (∀ failure m', runQuery e args .format m = .error failure m' ↔
        Spoils e (m.object o).indices m pieces failure m') ∧
      ((∃ texts m', Supplied e (m.object o).indices m pieces texts m') ∨
        ∃ failure m', Spoils e (m.object o).indices m pieces failure m') := by
  obtain ⟨pieces, reading⟩ := Reading.exists template.toList
  have total := supplied_or_spoils e (m.object o).indices m pieces
  refine ⟨pieces, fun pieces' => ⟨fun other => other.unique reading, ?_⟩, fun v m' => ⟨?_, ?_⟩,
    fun failure m' => ⟨?_, formatText_spoils base given reading⟩, total⟩
  · rintro rfl
    exact reading
  · intro ok
    rcases total with ⟨texts, m₁, supplied⟩ | ⟨failure, m₁, spoils⟩
    · cases ok.symm.trans (formatText_supplied base given reading supplied)
      exact ⟨texts, supplied, rfl⟩
    · cases ok.symm.trans (formatText_spoils base given reading spoils)
  · rintro ⟨texts, supplied, rfl⟩
    exact formatText_supplied base given reading supplied
  · intro failed
    rcases total with ⟨texts, m₁, supplied⟩ | ⟨failure, m₁, spoils⟩
    · cases failed.symm.trans (formatText_supplied base given reading supplied)
    · cases failed.symm.trans (formatText_spoils base given reading spoils)
      exact spoils

/-- Leading zeros count for nothing, a dollar sign without a digit is copied, and what is put in
for the second placeholder is no placeholder. -/
theorem format_substitutes_dollars :
    let e : Engine := ⟨0, fun _ => pure .empty⟩
    let m := (Machine.initial .standard).withList #[.string "$1", .boolean true]
    let args := #[Value.string "$1$00$x$", .object ⟨1⟩]
    argument args 0 = .string "$1$00$x$" ∧ argument args 1 = .object ⟨1⟩ ∧
      runQuery e args .format m = .ok (.string "true$1$x$") m := by
  intro e m args
  refine ⟨rfl, rfl, ?_⟩
  obtain ⟨pieces, only, succeeds, -⟩ := @format_substitutes e args _ _ m rfl rfl
  have tail : Reading ['$', 'x', '$'] [.char '$', .char 'x', .char '$'] :=
    .char (by decide) (.char (by decide) (.char (by decide) .done))
  have second : Reading ['$', '0', '0', '$', 'x', '$']
      (.placeholder ['0', '0'] :: [.char '$', .char 'x', .char '$']) :=
    @Reading.placeholder ['0', '0'] _ _ (by decide) (List.all_eq_true.mp rfl) (by decide) tail
  have reading : Reading "$1$00$x$".toList
      (.placeholder ['1'] :: .placeholder ['0', '0'] :: [.char '$', .char 'x', .char '$']) :=
    @Reading.placeholder ['1'] _ _ (by decide) (List.all_eq_true.mp rfl) (by decide) second
  obtain rfl := (only _).mp reading
  exact (succeeds _ _).mpr
    ⟨["true", "$1"], ⟨by decide, .next rfl (.next rfl (.done m))⟩, rfl⟩

end Native

end StubMachine
