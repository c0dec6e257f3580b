import StubMachine.Proofs.Bytecode.Writing

/-!
# Round trips between stubs and files

**Reading undoes writing**: whatever could be written is read back as the same stubs in
the same order, moved to the file that they are read for (`readAll_writeAll`).

**Writing undoes reading up to spelling**: the stubs of a file can be written, what is
written is read as the same stubs, and it is the same file exactly if every record of the
file was spelled canonically (`writeAll_readAll`).  Two things have to be left out.  All
NaNs are one number, so their bits are not kept; and a line that passes four bytes wraps
around, so it can end up too far from the smallest line.
-/

namespace StubMachine.Record

/-! ## Reading undoes writing -/

theorem writeAll_spelled {stubs : List Stub} {bytes : List UInt8}
    (paired : ∀ s ∈ stubs, ∀ i ∈ s.code, i.Paired) (ok : writeAll stubs = .ok bytes) (file : UInt32) :
    ∃ rs : List Spelling, rs.flatMap Spelling.bytes = bytes ∧
      rs.map (Spelling.stub file) = stubs.map (fun s => { s with file }) ∧
      ∀ r ∈ rs, r.Canonical := by
  obtain ⟨parts, written, done⟩ := bind_written.mp ok
  obtain rfl := pure_written.mp done
  exact mapM_spelled _ (fun s member bs ok => record_spelled (paired s member) ok file) written

/-- **Reading undoes writing.**  If each operand has the form that its opcode asks for, then
what is written for stubs is read for any file as the same stubs, with that file for theirs. -/
theorem readAll_writeAll {stubs : List Stub} {bytes : List UInt8}
    (paired : ∀ s ∈ stubs, ∀ i ∈ s.code, i.Paired) (ok : writeAll stubs = .ok bytes) (file : UInt32) :
    readAll file bytes = .ok (stubs.map fun s => { s with file }).toArray := by
  obtain ⟨rs, spelled, meant, -⟩ := writeAll_spelled paired ok file
  exact readAll_eq_ok_iff.mpr ⟨rs, spelled, by rw [meant]⟩

/-- A stub with texts of one to four bytes a character, a closure, a byte that is no opcode,
and lines out of order. -/
def motley : Stub where
  file := 4
  id := 7
  isVararg := true
  parameters := #["a", "$"]
  locals := #["é"]
  strings := #["€😀", ""]
  captures := #[⟨2, 1⟩]
  code := #[⟨70000, 3, .number (Float.ofBits 0x4045000000000000)⟩, ⟨69990, 7, .stub 9⟩,
    ⟨69995, 255, .number (Float.ofBits 0)⟩]

theorem readAll_writeAll_motley :
    ∃ bytes, writeAll [motley] = .ok bytes ∧
      readAll 1 bytes = .ok #[{ motley with file := 1 }] := by
  have paired : ∀ s ∈ [motley], ∀ i ∈ s.code, i.Paired := by
    simp [motley, Instruction.Paired, Opcode.ofByte?, Opcode.all]
  obtain ⟨bytes, ok⟩ : ∃ bytes, writeAll [motley] = .ok bytes := ⟨_, rfl⟩
  exact ⟨bytes, ok, readAll_writeAll paired ok 1⟩

/-! ## Canonical spellings are determined -/

open Float.Model UnpackedFloat in
/-- The bits of a number that is no NaN are kept. -/
theorem toBits_ofBits {bits : UInt64} (number : (Float.ofBits bits).isNaN = false) :
    (Float.ofBits bits).toBits = bits := by
  have packed : (Float.ofBits bits).toBits.toBitVec
      = if @isNaNBits Format.binary64 bits.toBitVec then packedNaN Format.binary64
        else bits.toBitVec :=
    @pack_unpack Format.binary64 bits.toBitVec (by decide)
  by_cases nan : @isNaNBits Format.binary64 bits.toBitVec
  · exfalso
    have looked : (Float.ofBits bits).isNaN
        = (unpack Format.binary64 (Float.ofBits bits).toBits.toBitVec).isNaN := rfl
    rw [looked, packed, if_pos nan] at number
    revert number
    decide
  · rw [if_neg nan] at packed
    exact UInt64.toBitVec_inj.mp packed

/-- Lists are equal if a function that tells their members apart has the same values. -/
theorem eq_of_map_eq {ρ β : Type} {f : ρ → β} {xs ys : List ρ}
    (apart : ∀ x ∈ xs, ∀ y ∈ ys, f x = f y → x = y) (h : xs.map f = ys.map f) : xs = ys := by
  induction xs generalizing ys with
  | nil => exact (List.map_eq_nil_iff.mp h.symm).symm
  | cons x xs ih =>
    cases ys with
    | nil => cases h
    | cons y ys =>
      obtain ⟨heads, tails⟩ := List.cons.inj h
      rw [apart x (by simp) y (by simp) heads,
        ih (fun x hx y hy => apart x (by simp [hx]) y (by simp [hy])) tails]

/-- A text has one standard spelling. -/
theorem TextSpelling.Standard.unique {t u : TextSpelling} (ht : t.Standard) (hu : u.Standard)
    (same : t.text = u.text) : t = u := by
  have bodies : t.body = u.body := by rw [ht, hu, same]
  have lengths : t.chars.length = u.chars.length := by
    have := congrArg String.length same
    simpa [text] using this
  have files : t.chars.flatMap CharSpelling.bytes ++ [] = u.chars.flatMap CharSpelling.bytes ++ [] := by
    simpa [body] using bodies
  exact TextSpelling.ext (CharSpelling.bytes_delimited.flatMap lengths files).1

theorem OperandSpelling.unique {a b : OperandSpelling} (ha : a.reserved = 0) (hb : b.reserved = 0)
    (number : ∀ bits, a = .number bits → (Float.ofBits bits).isNaN = false)
    (same : a.operand = b.operand) : a = b := by
  cases a with
  | number bits =>
    cases b with
    | number bits' =>
      have floats : Float.ofBits bits = Float.ofBits bits' := Operand.number.inj same
      have kept := toBits_ofBits (number bits rfl)
      have kept' := toBits_ofBits (floats ▸ number bits rfl)
      rw [← kept, ← kept', floats]
    | stub => cases same
  | stub id reserved =>
    cases b with
    | number => cases same
    | stub id' reserved' =>
      have ids : id = id' := Operand.stub.inj same
      have zero : reserved = 0 := ha
      have zero' : reserved' = 0 := hb
      rw [ids, zero, zero']

/-- An instruction has one spelling with a given base line, if the reserved word is zero and
the operand is no NaN. -/
theorem InstructionSpelling.unique {base : UInt32} {i j : InstructionSpelling}
    (hi : i.operand.reserved = 0) (hj : j.operand.reserved = 0)
    (number : ∀ bits, i.operand = .number bits → (Float.ofBits bits).isNaN = false)
    (same : i.instruction base = j.instruction base) : i = j := by
  obtain ⟨lines, opcodes, operands⟩ := Instruction.mk.inj same
  have deltas : i.delta = j.delta := by
    have distances := congrArg UInt32.toNat (UInt32.add_right_inj base |>.mp lines)
    have := i.delta.toNat_lt
    have := j.delta.toNat_lt
    simp only [UInt32.toNat_ofNat'] at distances
    exact UInt16.toNat.inj (by omega)
  exact InstructionSpelling.ext deltas opcodes (OperandSpelling.unique hi hj number operands)

/-- **A stub has one canonical spelling.** -/
theorem Spelling.Canonical.unique {file : UInt32} {r s : Spelling} (hr : r.Canonical)
    (hs : s.Canonical) (numbers : r.WithoutNaN) (same : r.stub file = s.stub file) : r = s := by
  obtain ⟨-, ids, flags, parameters, locals, strings, captures, code⟩ := Stub.mk.inj same
  have lines : r.lines = s.lines := by
    have := congrArg (List.map Instruction.line) (List.toArray_inj code)
    rwa [List.map_map, List.map_map] at this
  have bases : r.base = s.base := by rw [hr.base, hs.base, lines]
  have varargs : r.vararg = s.vararg := by
    rcases hr.flag with h | h
    · rcases hs.flag with h' | h'
      · rw [h, h']
      · simp [h, h'] at flags
    · rcases hs.flag with h' | h'
      · simp [h, h'] at flags
      · rw [h, h']
  have texts {ts us : List TextSpelling} (ht : ∀ t ∈ ts, t ∈ r.texts) (hu : ∀ u ∈ us, u ∈ s.texts)
      (same : (ts.map TextSpelling.text).toArray = (us.map TextSpelling.text).toArray) : ts = us :=
    eq_of_map_eq (fun t t_in u u_in => (hr.texts t (ht t t_in)).unique (hs.texts u (hu u u_in)))
      (List.toArray_inj same)
  have instructions : r.code = s.code := by
    rw [bases] at code
    exact eq_of_map_eq (fun i i_in j j_in => InstructionSpelling.unique (hr.reserved i i_in)
      (hs.reserved j j_in) (numbers i i_in)) (List.toArray_inj code)
  refine Spelling.ext ids varargs (texts ?_ ?_ parameters) (texts ?_ ?_ locals)
    (texts ?_ ?_ strings) (List.toArray_inj captures) bases instructions
  all_goals simp +contextual [Spelling.texts]

/-! ## Writing undoes reading up to spelling -/

/-- **Writing undoes reading up to spelling.**  A file that is read is the bytes of exactly one
sequence of records, of which the stubs are read.  If none of its operands is a NaN and none
of its lines passes four bytes, then the stubs can be written, what is written is read as the
same stubs, and it is the same file exactly if every record was spelled canonically. -/
theorem writeAll_readAll {file : UInt32} {bytes : List UInt8} {stubs : Array Stub}
    (accepted : readAll file bytes = .ok stubs) :
    ∃ rs : List Spelling, rs.flatMap Spelling.bytes = bytes ∧
      (∀ ss : List Spelling, ss.flatMap Spelling.bytes = bytes → ss = rs) ∧
      rs.map (Spelling.stub file) = stubs.toList ∧
      ((∀ r ∈ rs, r.WithoutNaN) → (∀ r ∈ rs, r.LinesFit) →
        ∃ out, writeAll stubs.toList = .ok out ∧ readAll file out = .ok stubs ∧
          (out = bytes ↔ ∀ r ∈ rs, r.Canonical)) := by
  obtain ⟨rs, spelled, rfl⟩ := readAll_eq_ok_iff.mp accepted
  refine ⟨rs, spelled, fun ss other => Spelling.files_delimited (other.trans spelled.symm), rfl, ?_⟩
  intro numbers fit
  obtain ⟨parts, written⟩ : ∃ parts, (rs.map (Spelling.stub file)).mapM Stub.record = .ok parts := by
    refine mapM_written fun s member => ?_
    obtain ⟨r, r_in, rfl⟩ := List.mem_map.mp member
    exact r.record_written file (fit r r_in)
  have ok : writeAll (rs.map (Spelling.stub file)) = .ok parts.flatten :=
    bind_written.mpr ⟨parts, written, rfl⟩
  have paired : ∀ s ∈ rs.map (Spelling.stub file), ∀ i ∈ s.code, i.Paired := by
    intro s member i inside
    obtain ⟨r, -, rfl⟩ := List.mem_map.mp member
    obtain ⟨x, -, rfl⟩ := List.mem_map.mp (List.mem_toArray.mp inside)
    exact x.instruction_paired r.base
  obtain ⟨ss, respelled, meant, canonical⟩ := writeAll_spelled paired ok file
  have meant : ss.map (Spelling.stub file) = rs.map (Spelling.stub file) := by
    rw [meant, List.map_map]
    rfl
  refine ⟨parts.flatten, ok, readAll_eq_ok_iff.mpr ⟨ss, respelled, by rw [meant]⟩, ?_⟩
  constructor
  · intro same
    -- the file has only one sequence of spellings, and the one just written is canonical
    obtain rfl := Spelling.files_delimited (spelled.trans (same.symm.trans respelled.symm))
    exact canonical
  · intro canonical'
    have rs_eq : rs = ss := eq_of_map_eq (fun r r_in s s_in =>
      (canonical' r r_in).unique (canonical s s_in) (numbers r r_in)) meant.symm
    rw [← respelled, ← spelled, rs_eq]

/-- A record that is canonical in nothing: a flag of seven, an overlong `A`, a base line below
all lines, and a word after the stub id. -/
def careless : Spelling where
  id := 5
  vararg := 7
  parameters := []
  locals := []
  strings := [⟨[⟨0xc1, [0x81], rfl⟩], by decide⟩]
  captures := []
  base := 5
  code := [⟨3, 7, .stub 1 9, rfl⟩]
  parametersCounted := by decide
  localsCounted := by decide
  stringsCounted := by decide
  capturesCounted := by decide
  codeCounted := by decide

theorem writeAll_readAll_careless :
    ∃ out, writeAll [careless.stub 3] = .ok out ∧ readAll 3 out = .ok #[careless.stub 3] ∧
      out ≠ careless.bytes := by
  have accepted : readAll 3 careless.bytes = .ok #[careless.stub 3] := rfl
  obtain ⟨rs, -, only, -, again⟩ := writeAll_readAll accepted
  obtain rfl := only [careless] (by simp)
  have numbers : ∀ r ∈ [careless], r.WithoutNaN := by simp [Spelling.WithoutNaN, careless]
  have fit : ∀ r ∈ [careless], r.LinesFit := by
    simp [Spelling.LinesFit, careless, UInt32.size]
  obtain ⟨out, written, read, same⟩ := again numbers fit
  refine ⟨out, written, read, fun equal => ?_⟩
  have flag := (same.mp (by simpa using equal) careless (by simp)).flag
  simp [careless] at flag

end StubMachine.Record
