import Mathlib
import StubMachine.Proofs.Bytecode.Reading

/-!
# The writer writes canonical spellings

**What is written for a stub is the bytes of a canonical spelling of it**
(`record_spelled`), provided that each operand has the form that its opcode asks for:
the writer chooses the form by the operand, the reader by the opcode.

**A stub that was read can be written**, if no line of its record passes four bytes
(`Spelling.record_written`): its counts fit their fields because they were read from them,
and its lines are no further from the smallest than they were from the base line.
-/

namespace StubMachine

/-- The form of the operand is the one that the opcode asks for: a stub id exactly if the
instruction makes a closure. -/
def Instruction.Paired (i : Instruction) : Prop :=
  (∃ id, i.operand = .stub id) ↔
    Opcode.ofByte? i.opcode = some .closure ∨ Opcode.ofByte? i.opcode = some .typedClosure

theorem Opcode.takesStub_iff {b : UInt8} :
    takesStub b ↔ ofByte? b = some closure ∨ ofByte? b = some typedClosure := by
  unfold takesStub
  split
  next h => simp [h]
  next h => simp [h]
  next other other' =>
    simp only [Bool.false_eq_true, false_iff, not_or]
    exact ⟨other, other'⟩

namespace Record

variable {α β ρ : Type}

/-! ## Writing in sequence -/

theorem bind_written {x : Except WriteFault α} {k : α → Except WriteFault β} {b : β} :
    (x >>= k) = .ok b ↔ ∃ a, x = .ok a ∧ k a = .ok b := by
  change Except.bind x k = .ok b ↔ _
  cases x with
  | error e => simp [Except.bind]
  | ok a => simp [Except.bind]

theorem pure_written {a b : α} : (pure a : Except WriteFault α) = .ok b ↔ a = b :=
  ⟨Except.ok.inj, congrArg Except.ok⟩

/-- If each of several things is written as a spelling of it, then so are all of them. -/
theorem mapM_spelled {write : α → Except WriteFault (List UInt8)} {bytes : ρ → List UInt8}
    {value : ρ → β} (meant : α → β) {good : ρ → Prop} {xs : List α} {parts : List (List UInt8)}
    (each : ∀ x ∈ xs, ∀ bs, write x = .ok bs → ∃ y, bytes y = bs ∧ value y = meant x ∧ good y)
    (ok : xs.mapM write = .ok parts) :
    ∃ ys : List ρ, ys.flatMap bytes = parts.flatten ∧ ys.map value = xs.map meant ∧ ∀ y ∈ ys, good y := by
  induction xs generalizing parts with
  | nil =>
    obtain rfl := pure_written.mp ok
    exact ⟨[], rfl, rfl, by simp⟩
  | cons x xs ih =>
    rw [List.mapM_cons] at ok
    obtain ⟨bs, first, ok⟩ := bind_written.mp ok
    obtain ⟨others, rest, done⟩ := bind_written.mp ok
    obtain rfl := pure_written.mp done
    obtain ⟨y, rfl, head, yGood⟩ := each x (by simp) bs first
    obtain ⟨ys, spelled, tail, ysGood⟩ := ih (fun x hx => each x (by simp [hx])) rest
    exact ⟨y :: ys, by simp [spelled], by simp [head, tail], by simpa [yGood] using ysGood⟩

/-- If each of several things can be written, then all of them can. -/
theorem mapM_written {write : α → Except WriteFault β} {xs : List α}
    (each : ∀ x ∈ xs, ∃ b, write x = .ok b) : ∃ parts, xs.mapM write = .ok parts := by
  induction xs with
  | nil => exact ⟨[], rfl⟩
  | cons x xs ih =>
    obtain ⟨b, first⟩ := each x (by simp)
    obtain ⟨bs, rest⟩ := ih fun x hx => each x (by simp [hx])
    refine ⟨b :: bs, ?_⟩
    rw [List.mapM_cons]
    exact bind_written.mpr ⟨b, first, bind_written.mpr ⟨bs, rest, rfl⟩⟩

theorem countBytes_eq_ok {width count : Nat} {tooLarge : WriteFault} {bs : List UInt8} :
    countBytes width count tooLarge = .ok bs ↔ count < capacity width ∧ bytesOf width count = bs := by
  unfold countBytes
  change (if count < capacity width then _ else _) = _ ↔ _
  by_cases small : count < capacity width
  · simp [small]
  · simp [small]

/-! ## Characters and texts -/

theorem charOf_toNat (c : Char) : charOf c.toNat = c := by
  have valid : c.toNat.isValidChar := c.valid
  simp [charOf, valid]

/-- The low six bits of a continuation byte. -/
theorem continuation_bits (n : Nat) : (UInt8.ofNat (n % 64 + 128) &&& 0x3f).toNat = n % 64 := by
  have mask := Nat.and_two_pow_sub_one_eq_mod ((n % 64 + 128) % 256) 6
  simp only [UInt8.toNat_and, UInt8.toNat_ofNat']
  change (n % 64 + 128) % 256 &&& 63 = _ at mask ⊢
  omega

theorem leadPart_one : ∀ n < 128, leadPart (UInt8.ofNat n) = (n, 0) := by decide

theorem leadPart_two : ∀ n < 32, leadPart (UInt8.ofNat (n + 192)) = (n, 1) := by decide

theorem leadPart_three : ∀ n < 16, leadPart (UInt8.ofNat (n + 224)) = (n, 2) := by decide

theorem leadPart_four : ∀ n < 8, leadPart (UInt8.ofNat (n + 240)) = (n, 3) := by decide

/-- **The UTF-8 of a character is read as that character.** -/
theorem utf8_spelled (c : Char) :
    ∃ x : CharSpelling, x.bytes = String.utf8EncodeChar c ∧ x.char = c := by
  have bound : c.toNat < 0x110000 := by
    obtain below | ⟨-, below⟩ := c.valid
    · exact Nat.lt_trans below (by decide)
    · exact below
  -- it is enough to find the bytes and to see that they carry the code point
  suffices ∃ lead more, String.utf8EncodeChar c = lead :: more ∧
      more.length = (leadPart lead).2 ∧ CharSpelling.extend (leadPart lead).1 more = c.toNat by
    obtain ⟨lead, more, bytes, complete, point⟩ := this
    exact ⟨⟨lead, more, complete⟩, bytes.symm, by rw [CharSpelling.char, point, charOf_toNat]⟩
  have extend (initial : Nat) (more : List UInt8) : CharSpelling.extend initial more
      = more.foldl (fun point b => point * 64 + (b &&& 0x3f).toNat) initial := rfl
  have value : c.val.toNat = c.toNat := rfl
  simp only [String.utf8EncodeChar, value]
  generalize c.toNat = v at bound
  -- one, two, three and four bytes
  split
  next small =>
    have lead := leadPart_one v (by omega)
    exact ⟨_, [], rfl, by rw [lead]; rfl, by rw [lead]; rfl⟩
  next =>
    split
    next small =>
      have lead := leadPart_two (v / 64 % 32) (by omega)
      refine ⟨_, [_], rfl, by rw [lead]; rfl, ?_⟩
      rw [lead, extend, List.foldl_cons, List.foldl_nil, continuation_bits]
      omega
    next =>
      split
      next small =>
        have lead := leadPart_three (v / 4096 % 16) (by omega)
        refine ⟨_, [_, _], rfl, by rw [lead]; rfl, ?_⟩
        rw [lead, extend, List.foldl_cons, List.foldl_cons, List.foldl_nil, continuation_bits,
          continuation_bits]
        omega
      next =>
        have lead := leadPart_four (v / 262144 % 8) (by omega)
        refine ⟨_, [_, _, _], rfl, by rw [lead]; rfl, ?_⟩
        rw [lead, extend, List.foldl_cons, List.foldl_cons, List.foldl_cons, List.foldl_nil,
          continuation_bits, continuation_bits, continuation_bits]
        omega

theorem toUTF8_eq_flatMap (s : String) :
    s.toUTF8.data.toList = s.toList.flatMap String.utf8EncodeChar := by
  obtain ⟨cs, rfl⟩ : ∃ cs, s = String.ofList cs := ⟨s.toList, String.ofList_toList.symm⟩
  simp [String.toUTF8, List.utf8Encode]

/-- **A text is written as standard UTF-8 of it.** -/
theorem textBytes_spelled {s : String} {bs : List UInt8} (ok : textBytes s = .ok bs) :
    ∃ t : TextSpelling, t.bytes = bs ∧ t.text = s ∧ t.Standard := by
  obtain ⟨count, counted, done⟩ := bind_written.mp ok
  obtain rfl := pure_written.mp done
  obtain ⟨small, rfl⟩ := countBytes_eq_ok.mp counted
  have spelled (cs : List Char) : ∃ xs : List CharSpelling,
      xs.flatMap CharSpelling.bytes = cs.flatMap String.utf8EncodeChar ∧
        xs.map CharSpelling.char = cs := by
    induction cs with
    | nil => exact ⟨[], rfl, rfl⟩
    | cons c cs ih =>
      obtain ⟨x, bytes, char⟩ := utf8_spelled c
      obtain ⟨xs, rest, chars⟩ := ih
      exact ⟨x :: xs, by simp [bytes, rest], by simp [char, chars]⟩
  obtain ⟨xs, bytes, chars⟩ := spelled s.toList
  have length : xs.length = s.length := by
    rw [← String.length_toList, ← chars, List.length_map]
  have text : String.ofList (xs.map CharSpelling.char) = s := by rw [chars, String.ofList_toList]
  refine ⟨⟨xs, length ▸ small⟩, ?_, text, ?_⟩
  · simp only [TextSpelling.bytes, countedBytes, length, bytes, toUTF8_eq_flatMap]
  · rw [TextSpelling.Standard, TextSpelling.body, TextSpelling.text, text, bytes,
      toUTF8_eq_flatMap]

/-- What a text was read from is no longer than its count allows. -/
theorem TextSpelling.text_written (t : TextSpelling) : ∃ bs, textBytes t.text = .ok bs := by
  have small : t.text.length < capacity 4 := by simpa [text, ← String.length_toList] using t.counted
  exact ⟨_, bind_written.mpr ⟨_, countBytes_eq_ok.mpr ⟨small, rfl⟩, rfl⟩⟩

theorem textsBytes_spelled {texts : List String} {bs : List UInt8} (ok : textsBytes texts = .ok bs) :
    ∃ ts : List TextSpelling, ts.flatMap TextSpelling.bytes = bs ∧
      ts.map TextSpelling.text = texts ∧ ∀ t ∈ ts, t.Standard := by
  obtain ⟨parts, written, done⟩ := bind_written.mp ok
  obtain rfl := pure_written.mp done
  have spelled := mapM_spelled id (fun s _ bs => textBytes_spelled) written
  simpa using spelled

theorem textsBytes_written (ts : List TextSpelling) :
    ∃ bs, textsBytes (ts.map TextSpelling.text) = .ok bs := by
  have each : ∀ s ∈ ts.map TextSpelling.text, ∃ bs, textBytes s = .ok bs := by
    intro s member
    obtain ⟨t, -, rfl⟩ := List.mem_map.mp member
    exact t.text_written
  obtain ⟨parts, written⟩ := mapM_written each
  exact ⟨_, bind_written.mpr ⟨parts, written, rfl⟩⟩

/-- Texts after their count, one byte for names and four for the pool. -/
theorem counted_texts_spelled {width : Nat} {texts : List String} {count bs : List UInt8}
    {tooLarge : WriteFault} (counted : countBytes width texts.length tooLarge = .ok count)
    (ok : textsBytes texts = .ok bs) :
    ∃ ts : List TextSpelling, ts.length < capacity width ∧
      countedBytes width TextSpelling.bytes ts = count ++ bs ∧
      ts.map TextSpelling.text = texts ∧ ∀ t ∈ ts, t.Standard := by
  obtain ⟨small, rfl⟩ := countBytes_eq_ok.mp counted
  obtain ⟨ts, rfl, rfl, standard⟩ := textsBytes_spelled ok
  rw [List.length_map] at small
  exact ⟨ts, small, by simp [countedBytes], rfl, standard⟩

theorem namesBytes_spelled {what : String} {names : Array String} {bs : List UInt8}
    (ok : namesBytes what names = .ok bs) :
    ∃ ts : List TextSpelling, ts.length < capacity 1 ∧ countedBytes 1 TextSpelling.bytes ts = bs ∧
      (ts.map TextSpelling.text).toArray = names ∧ ∀ t ∈ ts, t.Standard := by
  obtain ⟨count, counted, ok⟩ := bind_written.mp ok
  obtain ⟨texts, written, done⟩ := bind_written.mp ok
  obtain rfl := pure_written.mp done
  obtain ⟨ts, small, bytes, meant, standard⟩ := counted_texts_spelled counted written
  exact ⟨ts, small, bytes, by simp [meant], standard⟩

theorem namesBytes_written (what : String) {ts : List TextSpelling} (small : ts.length < capacity 1) :
    ∃ bs, namesBytes what (ts.map TextSpelling.text).toArray = .ok bs := by
  obtain ⟨bs, written⟩ := textsBytes_written ts
  refine ⟨_, bind_written.mpr ⟨_, countBytes_eq_ok.mpr ⟨?_, rfl⟩, bind_written.mpr ⟨bs, written, rfl⟩⟩⟩
  simpa using small

/-! ## Instructions -/

theorem OperandSpelling.isStub_iff (o : OperandSpelling) :
    o.isStub ↔ ∃ id, o.operand = .stub id := by
  cases o with
  | number => simp [isStub, operand]
  | stub => simp [isStub, operand]

/-- What was read has the form that its opcode asks for. -/
theorem InstructionSpelling.instruction_paired (base : UInt32) (i : InstructionSpelling) :
    (i.instruction base).Paired := by
  have asked := i.operand.isStub_iff
  rw [i.paired, Opcode.takesStub_iff] at asked
  exact asked.symm

theorem operandBytes_spelled (a : Operand) :
    ∃ o : OperandSpelling, o.bytes = operandBytes a ∧ o.operand = a ∧ o.reserved = 0 := by
  cases a with
  | number n => exact ⟨.number n.toBits, rfl, congrArg Operand.number (Float.ofBits_toBits n), rfl⟩
  | stub id => exact ⟨.stub id 0, rfl, rfl, rfl⟩

theorem instructionBytes_spelled {stub base : UInt32} {i : Instruction} {bs : List UInt8}
    (paired : i.Paired) (ok : instructionBytes stub base i = .ok bs) :
    ∃ x : InstructionSpelling, x.bytes = bs ∧ x.instruction base = i ∧ x.operand.reserved = 0 := by
  simp only [instructionBytes] at ok
  split at ok
  next near =>
    obtain rfl := Except.ok.inj ok
    obtain ⟨o, bytes, operand, reserved⟩ := operandBytes_spelled i.operand
    have form : o.isStub = Opcode.takesStub i.opcode := by
      have asked : (∃ id, i.operand = .stub id) ↔ _ := paired
      rw [Bool.eq_iff_iff, Opcode.takesStub_iff, ← asked, ← operand, o.isStub_iff]
    have distance : (UInt16.ofNat (i.line - base).toNat).toNat = (i.line - base).toNat :=
      UInt16.toNat_ofNat_of_lt' near
    refine ⟨⟨UInt16.ofNat (i.line - base).toNat, i.opcode, o, form⟩, ?_, ?_, reserved⟩
    · simp only [InstructionSpelling.bytes, distance, bytes]
    · have line : base + UInt32.ofNat (i.line - base).toNat = i.line := by
        rw [UInt32.ofNat_toNat, UInt32.add_comm, UInt32.sub_add_cancel]
      simp only [InstructionSpelling.instruction, InstructionSpelling.line, distance, line, operand]
  next => cases ok

/-! ## The base line -/

theorem baseLine_eq (code : Array Instruction) :
    baseLine code = (code.toList.map (·.line)).min?.getD 0 := by
  unfold baseLine
  cases code.toList.map (·.line) with
  | nil => rfl
  | cons line lines => rfl

/-- The base line of instructions is the least of the lines that their spellings have. -/
theorem baseLine_spelled {code : Array Instruction} {spelled : List InstructionSpelling}
    {base : UInt32} (meant : spelled.map (InstructionSpelling.instruction base) = code.toList) :
    baseLine code = (spelled.map (InstructionSpelling.line base)).min?.getD 0 := by
  rw [baseLine_eq, ← meant, List.map_map]
  rfl

/-- Lines counted from one base are near the smallest of them. -/
theorem near_baseLine {r : Spelling} (fit : r.LinesFit) {i : InstructionSpelling}
    (member : i ∈ r.code) : (i.line r.base - r.lines.min?.getD 0).toNat < 65536 := by
  have value (j : InstructionSpelling) (hj : j ∈ r.code) :
      (j.line r.base).toNat = r.base.toNat + j.delta.toNat := by
    have small : r.base.toNat + j.delta.toNat < 4294967296 := fit j hj
    simp only [InstructionSpelling.line, UInt32.toNat_add, UInt32.toNat_ofNat']
    omega
  have inside : i.line r.base ∈ r.lines := List.mem_map_of_mem member
  cases smallest : r.lines.min? with
  | none => simp [List.min?_eq_none_iff.mp smallest] at inside
  | some least =>
    obtain ⟨attained, below⟩ := List.min?_eq_some_iff.mp smallest
    obtain ⟨j, hj, rfl⟩ := List.mem_map.mp attained
    have order := below _ inside
    rw [Option.getD_some, UInt32.toNat_sub_of_le _ _ order, value i member, value j hj]
    have := i.delta.toNat_lt
    omega

/-! ## Records -/

/-- The byte of a flag is not zero if the flag is set. -/
theorem flag_spelled (b : Bool) : ((if b then 1 else 0 : UInt8) ≠ 0 : Bool) = b := by
  cases b with
  | false => rfl
  | true => rfl

/-- **What is written for a stub is the bytes of a canonical spelling of it.** -/
theorem record_spelled {s : Stub} {bs : List UInt8} (paired : ∀ i ∈ s.code, i.Paired)
    (ok : s.record = .ok bs) (file : UInt32) :
    ∃ r : Spelling, r.bytes = bs ∧ r.stub file = { s with file } ∧ r.Canonical := by
  -- the bytes of each part, in the order in which they are written
  obtain ⟨parameterBytes, parameterNames, ok⟩ := bind_written.mp ok
  obtain ⟨localBytes, localNames, ok⟩ := bind_written.mp ok
  obtain ⟨stringCount, stringsCounted, ok⟩ := bind_written.mp ok
  obtain ⟨stringBytes, stringTexts, ok⟩ := bind_written.mp ok
  obtain ⟨captureCount, capturesCounted, ok⟩ := bind_written.mp ok
  obtain ⟨codeCount, codeCounted, ok⟩ := bind_written.mp ok
  obtain ⟨instructions, written, done⟩ := bind_written.mp ok
  obtain rfl := pure_written.mp done
  -- what each part spells
  obtain ⟨parameters, parametersSmall, rfl, parametersMeant, parametersStandard⟩ :=
    namesBytes_spelled parameterNames
  obtain ⟨locals, localsSmall, rfl, localsMeant, localsStandard⟩ := namesBytes_spelled localNames
  obtain ⟨strings, stringsSmall, stringsBytes, stringsMeant, stringsStandard⟩ :=
    counted_texts_spelled stringsCounted stringTexts
  obtain ⟨capturesSmall, rfl⟩ := countBytes_eq_ok.mp capturesCounted
  obtain ⟨codeSmall, rfl⟩ := countBytes_eq_ok.mp codeCounted
  obtain ⟨code, codeBytes, codeMeant, codeReserved⟩ := mapM_spelled id
    (fun i member bs => instructionBytes_spelled (paired i (by simpa using member))) written
  rw [List.map_id] at codeMeant
  have codeLength : code.length = s.code.size := by
    rw [← Array.length_toList, ← codeMeant, List.length_map]
  refine ⟨⟨s.id, if s.isVararg then 1 else 0, parameters, locals, strings, s.captures.toList,
    baseLine s.code, code, parametersSmall, localsSmall, stringsSmall, capturesSmall,
    codeLength ▸ codeSmall⟩, ?_, ?_, ?_⟩
  · have captures : countedBytes 2 captureBytes s.captures.toList
        = bytesOf 2 s.captures.size ++ s.captures.toList.flatMap captureBytes := rfl
    simp only [Spelling.bytes, stringsBytes, captures, codeLength, codeBytes,
      List.append_assoc]
    rfl
  · simp only [Spelling.stub, parametersMeant, localsMeant, stringsMeant, codeMeant, flag_spelled]
  · refine ⟨?_, ?_, codeReserved, baseLine_spelled codeMeant⟩
    · cases s.isVararg with
      | false => exact .inl rfl
      | true => exact .inr rfl
    · intro t member
      rcases List.mem_append.mp member with names | pool
      · rcases List.mem_append.mp names with parameter | own
        · exact parametersStandard t parameter
        · exact localsStandard t own
      · exact stringsStandard t pool

/-- **A stub that was read can be written.** -/
theorem Spelling.record_written (file : UInt32) {r : Spelling} (fit : r.LinesFit) :
    ∃ bs, (r.stub file).record = .ok bs := by
  obtain ⟨parameterBytes, parameters⟩ := namesBytes_written "argument" r.parametersCounted
  obtain ⟨localBytes, locals⟩ := namesBytes_written "local" r.localsCounted
  obtain ⟨stringBytes, strings⟩ := textsBytes_written r.strings
  have base : baseLine (r.stub file).code = r.lines.min?.getD 0 := by
    rw [baseLine_eq]
    simp [stub, lines, InstructionSpelling.instruction, Function.comp_def]
  have each : ∀ i ∈ (r.stub file).code.toList, ∃ bs,
      instructionBytes r.id (baseLine (r.stub file).code) i = .ok bs := by
    intro i member
    obtain ⟨x, inside, rfl⟩ := List.mem_map.mp member
    have near := near_baseLine fit inside
    rw [base]
    exact ⟨_, if_pos near⟩
  obtain ⟨code, instructions⟩ := mapM_written each
  have stringsSmall : (r.stub file).strings.size < capacity 4 := by
    simpa [stub] using r.stringsCounted
  have capturesSmall : (r.stub file).captures.size < capacity 2 := by
    simpa [stub] using r.capturesCounted
  have codeSmall : (r.stub file).code.size < capacity 4 := by
    simpa [stub] using r.codeCounted
  exact ⟨_, bind_written.mpr ⟨_, parameters, bind_written.mpr ⟨_, locals,
    bind_written.mpr ⟨_, countBytes_eq_ok.mpr ⟨stringsSmall, rfl⟩,
    bind_written.mpr ⟨_, strings, bind_written.mpr ⟨_, countBytes_eq_ok.mpr ⟨capturesSmall, rfl⟩,
    bind_written.mpr ⟨_, countBytes_eq_ok.mpr ⟨codeSmall, rfl⟩,
    bind_written.mpr ⟨_, instructions, rfl⟩⟩⟩⟩⟩⟩⟩⟩

end Record

end StubMachine
