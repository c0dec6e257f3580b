import StubMachine.Proofs.Bytecode.Spelling

/-!
# The reader accepts the spellings and nothing else

Two questions are asked of each reader: whether it reads a given spelling back from
exactly its bytes, wherever they stand in a file (`Reads`), and whether all that it
accepts is the bytes of a spelling (`Accepts`).  The second has one exception.  A
continuation byte that is missing at the end of a file counts as zero, so a text there
need not be spelled out; but no record ends with a text, and so a text counts only where
a byte is left after it.

**A file is read exactly if it is the bytes of a sequence of spellings, and the result is
the stubs that these stand for** (`readAll_eq_ok_iff`).
-/

namespace StubMachine.Record

variable {α β ρ : Type}

/-! ## The two questions -/

/-- The reader reads exactly these bytes, wherever they stand, and gives this value. -/
def Reads (read : Reader α) (bytes : List UInt8) (a : α) : Prop :=
  ∀ offset rest, read ⟨offset, bytes ++ rest⟩ = .ok (a, ⟨offset + bytes.length, rest⟩)

/-- Whatever the reader accepts with `spare` bytes left after it is the bytes of one of `ρ`. -/
def Accepts (read : Reader α) (bytes : ρ → List UInt8) (spare : Nat) : Prop :=
  ∀ ⦃c : Cursor⦄ ⦃a : α⦄ ⦃c' : Cursor⦄, read c = .ok (a, c') → spare ≤ c'.rest.length →
    ∃ x, c.rest = bytes x ++ c'.rest

/-- A sequence succeeds if its two parts do. -/
theorem bind_eq_ok {read : Reader α} {k : α → Reader β} {c : Cursor} {p : β × Cursor} :
    (read >>= k) c = .ok p ↔ ∃ a c', read c = .ok (a, c') ∧ k a c' = .ok p := by
  change Except.bind (read c) (fun q => k q.1 q.2) = .ok p ↔ _
  cases read c with
  | error e => simp [Except.bind]
  | ok q => simp [Except.bind, Prod.ext_iff, and_assoc]

theorem pure_eq_ok {a : α} {c : Cursor} {p : α × Cursor} :
    (pure a : Reader α) c = .ok p ↔ (a, c) = p :=
  ⟨Except.ok.inj, congrArg Except.ok⟩

namespace Reads

theorem bind {read : Reader α} {k : α → Reader β} {bs bs' : List UInt8} {a : α} {b : β}
    (first : Reads read bs a) (second : Reads (k a) bs' b) : Reads (read >>= k) (bs ++ bs') b := by
  intro offset rest
  rw [List.append_assoc]
  refine bind_eq_ok.mpr ⟨a, _, first offset (bs' ++ rest), ?_⟩
  rw [second, List.length_append, Nat.add_assoc]

theorem pure (a : α) : Reads (Pure.pure a) [] a := fun _ _ => rfl

/-- A last step that reads nothing. -/
theorem map {read : Reader α} {bs : List UInt8} {a : α} (f : α → β) (h : Reads read bs a) :
    Reads (read >>= fun a => Pure.pure (f a)) bs (f a) := by
  have both := h.bind (k := fun a => Pure.pure (f a)) (pure (f a))
  rwa [List.append_nil] at both

/-- Things in a row, each with its bytes and its value. -/
theorem times {read : Reader α} {bytes : ρ → List UInt8} {value : ρ → α}
    (h : ∀ x, Reads read (bytes x) (value x)) (xs : List ρ) (done : Array α) :
    Reads (readTimes read xs.length done) (xs.flatMap bytes)
      (done ++ (xs.map value).toArray) := by
  induction xs generalizing done with
  | nil => intro offset rest; simp [readTimes]
  | cons x xs ih =>
    intro offset rest
    have head := h x offset (xs.flatMap bytes ++ rest)
    have tail := ih (done.push (value x)) (offset + (bytes x).length) rest
    simp [readTimes, head, tail, Nat.add_assoc]

end Reads

/-- Things in a row, as many as asked for. -/
theorem Accepts.times {read : Reader α} {bytes : ρ → List UInt8} {spare : Nat}
    (h : Accepts read bytes spare) {n : Nat} {done as : Array α} {c c' : Cursor}
    (ok : readTimes read n done c = .ok (as, c')) (left : spare ≤ c'.rest.length) :
    ∃ xs : List ρ, xs.length = n ∧ c.rest = xs.flatMap bytes ++ c'.rest := by
  induction n generalizing done c with
  | zero =>
    simp only [readTimes, Except.ok.injEq, Prod.mk.injEq] at ok
    obtain ⟨-, rfl⟩ := ok
    exact ⟨[], rfl, rfl⟩
  | succ n ih =>
    simp only [readTimes] at ok
    split at ok
    next a c₁ first =>
      obtain ⟨xs, length, rest⟩ := ih ok
      -- what is left after the first is at least what is left after all of them
      obtain ⟨x, front⟩ := h first (by rw [rest, List.length_append]; omega)
      exact ⟨x :: xs, by simp [length], by simp [front, rest]⟩
    next => cases ok

/-! ## Numbers -/

theorem readByte_reads (b : UInt8) : Reads readByte [b] b := fun _ _ => rfl

theorem readByte_eq_ok {c c' : Cursor} {b : UInt8} (h : readByte c = .ok (b, c')) :
    c.rest = b :: c'.rest := by
  unfold readByte at h
  split at h
  next b' rest shape =>
    obtain ⟨rfl, rfl⟩ := Prod.mk.inj (Except.ok.inj h)
    exact shape
  next => cases h

theorem readNumber_reads (width : Nat) {n : Nat} (small : n < capacity width) :
    Reads (readNumber width) (bytesOf width n) n := by
  intro offset rest
  have front : (bytesOf width n ++ rest).take width = bytesOf width n :=
    List.take_left' (length_bytesOf width n)
  have back : (bytesOf width n ++ rest).drop width = rest :=
    List.drop_left' (length_bytesOf width n)
  simp [readNumber, front, back, numberOf_bytesOf, Nat.mod_eq_of_lt small]

theorem readNumber_eq_ok {width n : Nat} {c c' : Cursor} (h : readNumber width c = .ok (n, c')) :
    n < capacity width ∧ c.rest = bytesOf width n ++ c'.rest := by
  simp only [readNumber] at h
  split at h
  next full =>
    obtain ⟨rfl, rfl⟩ := Prod.mk.inj (Except.ok.inj h)
    have small := numberOf_lt (c.rest.take width)
    have bytes := bytesOf_numberOf (c.rest.take width)
    rw [full] at small bytes
    exact ⟨small, by rw [bytes, List.take_append_drop]⟩
  next => cases h

theorem readWord_reads (w : UInt32) : Reads readWord (bytesOf 4 w.toNat) w := by
  simpa [readWord] using (readNumber_reads 4 w.toNat_lt).map UInt32.ofNat

theorem readWord_eq_ok {c c' : Cursor} {w : UInt32} (h : readWord c = .ok (w, c')) :
    c.rest = bytesOf 4 w.toNat ++ c'.rest := by
  obtain ⟨n, c₁, number, done⟩ := bind_eq_ok.mp h
  obtain ⟨small, rest⟩ := readNumber_eq_ok number
  obtain ⟨rfl, rfl⟩ := Prod.mk.inj (pure_eq_ok.mp done)
  rw [rest, UInt32.toNat_ofNat_of_lt' small]

/-- A count of one byte. -/
theorem bytesOf_one (n : Nat) : bytesOf 1 n = [UInt8.ofNat n] := rfl

/-! ## Texts -/

/-- **Continuation bytes are taken as they come**, and those that are missing are zeros. -/
theorem continuations_eq (n point offset : Nat) (rest : List UInt8) :
    continuations n point ⟨offset, rest⟩ =
      (CharSpelling.extend point (rest.take n ++ List.replicate (n - (rest.take n).length) 0),
        ⟨offset + (rest.take n).length, rest.drop n⟩) := by
  induction n generalizing point offset rest with
  | zero => rfl
  | succ n ih =>
    cases rest with
    | nil =>
      have missing := ih (point * 64) offset []
      rw [List.take_nil, List.drop_nil] at missing ⊢
      exact missing
    | cons b rest =>
      have others := ih (point * 64 + (b &&& 0x3f).toNat) (offset + 1) rest
      rw [List.take_succ_cons, List.drop_succ_cons, List.length_cons, Nat.add_sub_add_right,
        Nat.add_comm (rest.take n).length, ← Nat.add_assoc offset]
      exact others

/-- **A character is read from a leading byte and what there is of the bytes that it asks for.** -/
theorem readChar_eq (lead : UInt8) (rest : List UInt8) (offset : Nat) :
    readChar ⟨offset, lead :: rest⟩ =
      .ok (charOf (CharSpelling.extend (leadPart lead).1 (rest.take (leadPart lead).2 ++
          List.replicate ((leadPart lead).2 - (rest.take (leadPart lead).2).length) 0)),
        ⟨offset + 1 + (rest.take (leadPart lead).2).length, rest.drop (leadPart lead).2⟩) := by
  simp only [readChar, readByte, continuations_eq]

theorem readChar_reads (c : CharSpelling) : Reads readChar c.bytes c.char := by
  intro offset rest
  rw [CharSpelling.bytes, List.cons_append, readChar_eq, List.take_left' c.complete,
    List.drop_left' c.complete, c.complete, Nat.sub_self, List.replicate_zero, List.append_nil,
    List.length_cons, c.complete, Nat.add_assoc, Nat.add_comm 1]
  rfl

/-- If a byte is left after a character, then none of its own was missing. -/
theorem readChar_accepts : Accepts readChar CharSpelling.bytes 1 := by
  rintro ⟨offset, rest⟩ a c' ok left
  cases rest with
  | nil => cases ok
  | cons lead rest =>
    rw [readChar_eq] at ok
    obtain ⟨-, rfl⟩ := Prod.mk.inj (Except.ok.inj ok)
    have enough : (leadPart lead).2 ≤ rest.length := by
      rw [List.length_drop] at left
      omega
    refine ⟨⟨lead, rest.take (leadPart lead).2, List.length_take_of_le enough⟩, ?_⟩
    rw [CharSpelling.bytes, List.cons_append, List.take_append_drop]

theorem readText_reads (t : TextSpelling) : Reads readText t.bytes t.text := by
  have count := readNumber_reads 4 t.counted
  have chars := (Reads.times readChar_reads t.chars #[]).map fun cs => String.ofList cs.toList
  rw [Array.empty_append, List.toList_toArray] at chars
  exact count.bind chars

theorem readText_accepts : Accepts readText TextSpelling.bytes 1 := by
  intro c a c' ok left
  obtain ⟨n, c₁, count, ok⟩ := bind_eq_ok.mp ok
  obtain ⟨cs, c₂, chars, done⟩ := bind_eq_ok.mp ok
  obtain ⟨-, rfl⟩ := Prod.mk.inj (pure_eq_ok.mp done)
  obtain ⟨small, front⟩ := readNumber_eq_ok count
  obtain ⟨xs, rfl, rest⟩ := readChar_accepts.times chars left
  exact ⟨⟨xs, small⟩, by simp [TextSpelling.bytes, countedBytes, front, rest]⟩

/-! ## Capture sites and instructions -/

theorem readCapture_reads (c : CaptureSite) : Reads readCapture (captureBytes c) c :=
  (readWord_reads c.stub).bind ((readWord_reads c.slot).map (CaptureSite.mk c.stub))

theorem readCapture_accepts : Accepts readCapture captureBytes 0 := by
  intro c a c' ok _
  obtain ⟨stub, c₁, first, ok⟩ := bind_eq_ok.mp ok
  obtain ⟨slot, c₂, second, done⟩ := bind_eq_ok.mp ok
  obtain ⟨-, rfl⟩ := Prod.mk.inj (pure_eq_ok.mp done)
  exact ⟨⟨stub, slot⟩, by simp [captureBytes, readWord_eq_ok first, readWord_eq_ok second]⟩

theorem readOperand_reads {opcode : UInt8} {o : OperandSpelling}
    (paired : o.isStub = Opcode.takesStub opcode) : Reads (readOperand opcode) o.bytes o.operand := by
  unfold readOperand
  cases o with
  | number bits =>
    rw [← paired, if_neg (by simp [OperandSpelling.isStub])]
    have value := (readNumber_reads 8 bits.toNat_lt).map fun bits =>
      Operand.number (Float.ofBits (UInt64.ofNat bits))
    rwa [UInt64.ofNat_toNat] at value
  | stub id reserved =>
    rw [← paired, if_pos (by rfl)]
    exact (readWord_reads id).bind ((readWord_reads reserved).map fun _ => Operand.stub id)

theorem readOperand_spelled {opcode : UInt8} {c c' : Cursor} {a : Operand}
    (ok : readOperand opcode c = .ok (a, c')) :
    ∃ o : OperandSpelling, o.isStub = Opcode.takesStub opcode ∧ c.rest = o.bytes ++ c'.rest := by
  unfold readOperand at ok
  split at ok
  next stub =>
    obtain ⟨id, c₁, first, ok⟩ := bind_eq_ok.mp ok
    obtain ⟨reserved, c₂, second, done⟩ := bind_eq_ok.mp ok
    obtain ⟨-, rfl⟩ := Prod.mk.inj (pure_eq_ok.mp done)
    exact ⟨.stub id reserved, stub.symm, by
      simp [OperandSpelling.bytes, readWord_eq_ok first, readWord_eq_ok second]⟩
  next number =>
    obtain ⟨bits, c₁, first, done⟩ := bind_eq_ok.mp ok
    obtain ⟨-, rfl⟩ := Prod.mk.inj (pure_eq_ok.mp done)
    obtain ⟨small, rest⟩ := readNumber_eq_ok first
    exact ⟨.number (.ofNat bits), by simp [OperandSpelling.isStub, number], by
      rw [rest, OperandSpelling.bytes, UInt64.toNat_ofNat_of_lt' small]⟩

theorem readInstruction_reads (base : UInt32) (i : InstructionSpelling) :
    Reads (readInstruction base) i.bytes (i.instruction base) := by
  have delta := readNumber_reads 2 i.delta.toNat_lt
  have operand := (readOperand_reads i.paired).map
    (Instruction.mk (base + UInt32.ofNat i.delta.toNat) i.opcode)
  exact delta.bind ((readByte_reads i.opcode).bind operand)

theorem readInstruction_accepts (base : UInt32) :
    Accepts (readInstruction base) InstructionSpelling.bytes 0 := by
  intro c a c' ok _
  obtain ⟨delta, c₁, first, ok⟩ := bind_eq_ok.mp ok
  obtain ⟨opcode, c₂, second, ok⟩ := bind_eq_ok.mp ok
  obtain ⟨operand, c₃, third, done⟩ := bind_eq_ok.mp ok
  obtain ⟨-, rfl⟩ := Prod.mk.inj (pure_eq_ok.mp done)
  obtain ⟨small, rest⟩ := readNumber_eq_ok first
  obtain ⟨o, paired, bytes⟩ := readOperand_spelled third
  exact ⟨⟨.ofNat delta, opcode, o, paired⟩, by
    simp [InstructionSpelling.bytes, rest, readByte_eq_ok second, bytes,
      UInt16.toNat_ofNat_of_lt' small]⟩

/-! ## Records -/

theorem readHeader_reads : Reads readHeader (magic ++ [version]) () := fun _ _ => rfl

theorem readHeader_eq_ok {c c' : Cursor} (h : readHeader c = .ok ((), c')) :
    c.rest = magic ++ [version] ++ c'.rest := by
  unfold readHeader at h
  split at h
  next => cases h
  next found rest shape =>
    split at h
    · cases h
    next known =>
      split at h
      · cases h
      next current =>
        obtain ⟨-, rfl⟩ := Prod.mk.inj (Except.ok.inj h)
        have whole := List.take_append_drop magic.length c.rest
        rw [shape, Decidable.not_not.mp known, Decidable.not_not.mp current] at whole
        simpa using whole.symm

/-- **A record is read back from its bytes.** -/
theorem readStub_reads (file : UInt32) (r : Spelling) :
    Reads (readStub file) r.bytes (r.stub file) := by
  have nameCount (names : List TextSpelling) (counted : names.length < capacity 1) :
      Reads readByte (bytesOf 1 names.length) (UInt8.ofNat names.length) ∧
        (UInt8.ofNat names.length).toNat = names.length :=
    ⟨readByte_reads _, UInt8.toNat_ofNat_of_lt' counted⟩
  obtain ⟨parameterCount, parameterNumber⟩ := nameCount r.parameters r.parametersCounted
  obtain ⟨localCount, localNumber⟩ := nameCount r.locals r.localsCounted
  have parameters := Reads.times readText_reads r.parameters #[]
  have locals := Reads.times readText_reads r.locals #[]
  have strings := Reads.times readText_reads r.strings #[]
  have captures := Reads.times readCapture_reads r.captures #[]
  have code := Reads.times (readInstruction_reads r.base) r.code #[]
  rw [Array.empty_append] at parameters locals strings captures code
  rw [List.map_id'] at captures
  rw [← parameterNumber] at parameters
  rw [← localNumber] at locals
  have split : r.bytes = magic ++ [version] ++ (bytesOf 4 r.id.toNat ++ ([r.vararg]
      ++ (bytesOf 1 r.parameters.length ++ (r.parameters.flatMap TextSpelling.bytes
      ++ (bytesOf 1 r.locals.length ++ (r.locals.flatMap TextSpelling.bytes
      ++ (bytesOf 4 r.strings.length ++ (r.strings.flatMap TextSpelling.bytes
      ++ (bytesOf 2 r.captures.length ++ (r.captures.flatMap captureBytes
      ++ (bytesOf 4 r.code.length ++ (bytesOf 4 r.base.toNat
      ++ r.code.flatMap InstructionSpelling.bytes)))))))))))) := by
    simp [Spelling.bytes, countedBytes]
  rw [split]
  refine readHeader_reads.bind <| (readWord_reads r.id).bind <| (readByte_reads r.vararg).bind <|
    parameterCount.bind <| parameters.bind <| localCount.bind <| locals.bind <|
    (readNumber_reads 4 r.stringsCounted).bind <| strings.bind <|
    (readNumber_reads 2 r.capturesCounted).bind <| captures.bind <|
    (readNumber_reads 4 r.codeCounted).bind <| (readWord_reads r.base).bind ?_
  exact code.map (Stub.mk file r.id _ _ _ _ _)

/-- **A record that is accepted is the bytes of a spelling.** -/
theorem readStub_accepts (file : UInt32) : Accepts (readStub file) Spelling.bytes 0 := by
  intro c s c' ok _
  obtain ⟨⟨⟩, c₀, header, ok⟩ := bind_eq_ok.mp ok
  obtain ⟨id, c₁, idWord, ok⟩ := bind_eq_ok.mp ok
  obtain ⟨vararg, c₂, varargByte, ok⟩ := bind_eq_ok.mp ok
  obtain ⟨parameterCount, c₃, parameterByte, ok⟩ := bind_eq_ok.mp ok
  obtain ⟨_, c₄, parameterTexts, ok⟩ := bind_eq_ok.mp ok
  obtain ⟨localCount, c₅, localByte, ok⟩ := bind_eq_ok.mp ok
  obtain ⟨_, c₆, localTexts, ok⟩ := bind_eq_ok.mp ok
  obtain ⟨stringCount, c₇, stringNumber, ok⟩ := bind_eq_ok.mp ok
  obtain ⟨_, c₈, stringTexts, ok⟩ := bind_eq_ok.mp ok
  obtain ⟨captureCount, c₉, captureNumber, ok⟩ := bind_eq_ok.mp ok
  obtain ⟨_, c₁₀, captureSites, ok⟩ := bind_eq_ok.mp ok
  obtain ⟨codeCount, c₁₁, codeNumber, ok⟩ := bind_eq_ok.mp ok
  obtain ⟨base, c₁₂, baseWord, ok⟩ := bind_eq_ok.mp ok
  obtain ⟨_, c₁₃, instructions, done⟩ := bind_eq_ok.mp ok
  obtain ⟨-, rfl⟩ := Prod.mk.inj (pure_eq_ok.mp done)
  -- from the end to the start: what was read after a text shows that bytes were left
  obtain ⟨code, rfl, codeBytes⟩ := (readInstruction_accepts base).times instructions (Nat.zero_le _)
  have baseBytes := readWord_eq_ok baseWord
  obtain ⟨codeCounted, codeCountBytes⟩ := readNumber_eq_ok codeNumber
  obtain ⟨captures, rfl, captureBytes⟩ := readCapture_accepts.times captureSites (Nat.zero_le _)
  obtain ⟨capturesCounted, captureCountBytes⟩ := readNumber_eq_ok captureNumber
  obtain ⟨strings, rfl, stringBytes⟩ := readText_accepts.times stringTexts (by
    simp [captureCountBytes]; omega)
  obtain ⟨stringsCounted, stringCountBytes⟩ := readNumber_eq_ok stringNumber
  obtain ⟨locals, localsNumber, localBytes⟩ := readText_accepts.times localTexts (by
    simp [stringCountBytes]; omega)
  obtain ⟨parameters, parametersNumber, parameterBytes⟩ := readText_accepts.times parameterTexts (by
    simp [readByte_eq_ok localByte])
  refine ⟨⟨id, vararg, parameters, locals, strings, captures, base, code,
    parametersNumber ▸ parameterCount.toNat_lt, localsNumber ▸ localCount.toNat_lt,
    stringsCounted, capturesCounted, codeCounted⟩, ?_⟩
  simp [Spelling.bytes, countedBytes, readHeader_eq_ok header, readWord_eq_ok idWord,
    readByte_eq_ok varargByte, readByte_eq_ok parameterByte, readByte_eq_ok localByte,
    parameterBytes, localBytes, stringCountBytes, stringBytes, captureCountBytes, captureBytes,
    codeCountBytes, baseBytes, codeBytes, parametersNumber, localsNumber, bytesOf_one]

/-- **What reading a record comes to.** -/
theorem readStub_eq_ok_iff {file : UInt32} {c c' : Cursor} {s : Stub} :
    readStub file c = .ok (s, c') ↔
      ∃ r : Spelling, c.rest = r.bytes ++ c'.rest ∧ c'.offset = c.offset + r.bytes.length ∧
        s = r.stub file := by
  have cut (r : Spelling) (front : c.rest = r.bytes ++ c'.rest) :
      readStub file c = .ok (r.stub file, ⟨c.offset + r.bytes.length, c'.rest⟩) := by
    rw [← readStub_reads file r, ← front]
  constructor
  · intro ok
    obtain ⟨r, front⟩ := readStub_accepts file ok (Nat.zero_le _)
    rw [cut r front] at ok
    obtain ⟨stub, place⟩ := Prod.mk.inj (Except.ok.inj ok)
    exact ⟨r, front, (congrArg Cursor.offset place).symm, stub.symm⟩
  · rintro ⟨r, front, offset, rfl⟩
    rw [cut r front, ← offset]

/-! ## Files -/

theorem Spelling.files_eq_nil {rs : List Spelling} : rs.flatMap bytes = [] ↔ rs = [] := by
  cases rs with
  | nil => simp
  | cons r rs => simp [r.bytes_ne_nil]

/-- All records from a place on, if the fuel is at least the number of bytes left. -/
theorem readFrom_eq_ok_iff {file : UInt32} {fuel : Nat} {c : Cursor} {done stubs : Array Stub}
    (enough : c.rest.length ≤ fuel) :
    readFrom file fuel c done = .ok stubs ↔
      ∃ rs : List Spelling, rs.flatMap Spelling.bytes = c.rest ∧
        stubs = done ++ (rs.map (Spelling.stub file)).toArray := by
  induction fuel generalizing c done with
  | zero =>
    have used : c.rest = [] := List.length_eq_zero_iff.mp (Nat.le_zero.mp enough)
    simp only [readFrom, used, Spelling.files_eq_nil, exists_eq_left]
    simp [eq_comm]
  | succ fuel ih =>
    by_cases used : c.rest = []
    · simp only [readFrom, used, List.isEmpty_nil, if_true, Spelling.files_eq_nil, exists_eq_left]
      simp [eq_comm]
    have shorter (r : Spelling) (rest : List UInt8) (front : c.rest = r.bytes ++ rest) :
        rest.length ≤ fuel := by
      have := List.length_pos_iff.mpr r.bytes_ne_nil
      rw [front, List.length_append] at enough
      omega
    simp only [readFrom, List.isEmpty_iff, used, if_false]
    constructor
    · intro ok
      split at ok
      next s c' first =>
        obtain ⟨r, front, -, rfl⟩ := readStub_eq_ok_iff.mp first
        obtain ⟨rs, bytes, rfl⟩ := (ih (shorter r c'.rest front)).mp ok
        exact ⟨r :: rs, by simp [front, bytes], by simp⟩
      next => cases ok
    · rintro ⟨rs, bytes, rfl⟩
      cases rs with
      | nil => exact absurd bytes.symm used
      | cons r rs =>
        rw [List.flatMap_cons] at bytes
        have first : readStub file c = .ok (r.stub file, ⟨_, _⟩) :=
          readStub_eq_ok_iff.mpr ⟨r, bytes.symm, rfl, rfl⟩
        rw [first]
        exact (ih (shorter r _ bytes.symm)).mpr ⟨rs, rfl, by simp⟩

/-- **A file is read exactly if it is the bytes of a sequence of spellings.** -/
theorem readAll_eq_ok_iff {file : UInt32} {bytes : List UInt8} {stubs : Array Stub} :
    readAll file bytes = .ok stubs ↔
      ∃ rs : List Spelling, rs.flatMap Spelling.bytes = bytes ∧
        stubs = (rs.map (Spelling.stub file)).toArray := by
  simp [readAll, readFrom_eq_ok_iff (c := ⟨0, bytes⟩) (Nat.le_refl _)]

/-- The stubs that are read belong to the file that they are read for. -/
theorem readAll_file {file : UInt32} {bytes : List UInt8} {stubs : Array Stub}
    (ok : readAll file bytes = .ok stubs) : ∀ s ∈ stubs, s.file = file := by
  obtain ⟨rs, -, rfl⟩ := readAll_eq_ok_iff.mp ok
  intro s member
  obtain ⟨r, -, rfl⟩ := List.mem_map.mp (List.mem_toArray.mp member)
  rfl

end StubMachine.Record
