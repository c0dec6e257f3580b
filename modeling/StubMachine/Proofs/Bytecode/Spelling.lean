import StubMachine.Bytecode.Record

/-!
# How a file of records can be spelled

The reader of records is lenient, so one stub can stand in a file in several ways.  A
`Record.Spelling` is one of them, written out: the vararg byte, each character with the
bytes it was read from, the base line and the distances from it, and the words that are
reserved.  It carries the proofs that its counts fit their fields and that each operand
has the form its opcode asks for, so **every spelling has bytes (`Spelling.bytes`) and a
stub that it stands for (`Spelling.stub`)**.

Four choices are free in a spelling, and the canonical one makes each of them in one way
(`Spelling.Canonical`): the flag is zero or one, texts are standard UTF-8, reserved words
are zero, and the base line is the smallest line.

Spellings need no separators: **what starts with the bytes of one starts with the bytes
of no other** (`Spelling.bytes_delimited`), and so a file has at most one sequence of
spellings (`Spelling.files_delimited`).
-/

namespace StubMachine.Record

/-- How many numbers there are of `width` bytes. -/
def capacity (width : Nat) : Nat := Nat.pow 256 width

/-- A count in `width` bytes, then as many things in a row. -/
def countedBytes {ρ : Type} (width : Nat) (bytes : ρ → List UInt8) (xs : List ρ) : List UInt8 :=
  bytesOf width xs.length ++ xs.flatMap bytes

/-! ## Characters and texts -/

/-- A character as it stands in a file: its leading byte, and as many bytes after it as
the leading byte asks for. -/
@[ext] structure CharSpelling where
  lead : UInt8
  more : List UInt8
  complete : more.length = (leadPart lead).2

namespace CharSpelling

def bytes (c : CharSpelling) : List UInt8 := c.lead :: c.more

/-- A code point carried on through continuation bytes, six bits from each. -/
def extend (point : Nat) (more : List UInt8) : Nat :=
  more.foldl (fun point b => point * 64 + (b &&& 0x3f).toNat) point

/-- The character that is read from the bytes. -/
def char (c : CharSpelling) : Char := charOf (extend (leadPart c.lead).1 c.more)

end CharSpelling

/-- A text as it stands in a file. -/
@[ext] structure TextSpelling where
  chars : List CharSpelling
  counted : chars.length < capacity 4

namespace TextSpelling

/-- The bytes of the characters. -/
def body (t : TextSpelling) : List UInt8 := t.chars.flatMap CharSpelling.bytes

def bytes (t : TextSpelling) : List UInt8 := countedBytes 4 CharSpelling.bytes t.chars

def text (t : TextSpelling) : String := String.ofList (t.chars.map CharSpelling.char)

/-- The body is the UTF-8 of the characters that are read from it. -/
def Standard (t : TextSpelling) : Prop := t.body = t.text.toUTF8.data.toList

end TextSpelling

/-! ## Instructions -/

/-- The eight bytes of an operand: the bits of a number, or a stub id and a word that
nobody looks at. -/
inductive OperandSpelling
  | number (bits : UInt64)
  | stub (id reserved : UInt32)

namespace OperandSpelling

def isStub : OperandSpelling → Bool
  | number _ => false
  | stub _ _ => true

def bytes : OperandSpelling → List UInt8
  | number bits => bytesOf 8 bits.toNat
  | stub id reserved => bytesOf 4 id.toNat ++ bytesOf 4 reserved.toNat

def operand : OperandSpelling → Operand
  | number bits => .number (Float.ofBits bits)
  | stub id _ => .stub id

/-- The word after a stub id; a number has none. -/
def reserved : OperandSpelling → UInt32
  | number _ => 0
  | stub _ reserved => reserved

end OperandSpelling

/-- An instruction as it stands in a file, its line as a distance from the base line. -/
@[ext] structure InstructionSpelling where
  delta : UInt16
  opcode : UInt8
  operand : OperandSpelling
  paired : operand.isStub = Opcode.takesStub opcode

namespace InstructionSpelling

def bytes (i : InstructionSpelling) : List UInt8 :=
  bytesOf 2 i.delta.toNat ++ i.opcode :: i.operand.bytes

def line (base : UInt32) (i : InstructionSpelling) : UInt32 := base + UInt32.ofNat i.delta.toNat

def instruction (base : UInt32) (i : InstructionSpelling) : Instruction :=
  ⟨i.line base, i.opcode, i.operand.operand⟩

end InstructionSpelling

/-! ## Records -/

/-- The two words of a capture site. -/
def captureBytes (c : CaptureSite) : List UInt8 :=
  bytesOf 4 c.stub.toNat ++ bytesOf 4 c.slot.toNat

/-- **One record as it stands in a file.** -/
@[ext] structure Spelling where
  id : UInt32
  vararg : UInt8
  parameters : List TextSpelling
  locals : List TextSpelling
  strings : List TextSpelling
  captures : List CaptureSite
  base : UInt32
  code : List InstructionSpelling
  parametersCounted : parameters.length < capacity 1
  localsCounted : locals.length < capacity 1
  stringsCounted : strings.length < capacity 4
  capturesCounted : captures.length < capacity 2
  codeCounted : code.length < capacity 4

namespace Spelling

def texts (r : Spelling) : List TextSpelling := r.parameters ++ r.locals ++ r.strings

/-- The bytes of a record, from the magic bytes to the last instruction. -/
def bytes (r : Spelling) : List UInt8 :=
  magic ++ [version] ++ bytesOf 4 r.id.toNat ++ [r.vararg]
    ++ countedBytes 1 TextSpelling.bytes r.parameters ++ countedBytes 1 TextSpelling.bytes r.locals
    ++ countedBytes 4 TextSpelling.bytes r.strings ++ countedBytes 2 captureBytes r.captures
    ++ bytesOf 4 r.code.length ++ bytesOf 4 r.base.toNat
    ++ r.code.flatMap InstructionSpelling.bytes

/-- The stub that a record stands for in a file. -/
def stub (file : UInt32) (r : Spelling) : Stub where
  file
  id := r.id
  isVararg := r.vararg ≠ 0
  parameters := (r.parameters.map TextSpelling.text).toArray
  locals := (r.locals.map TextSpelling.text).toArray
  strings := (r.strings.map TextSpelling.text).toArray
  captures := r.captures.toArray
  code := (r.code.map (InstructionSpelling.instruction r.base)).toArray

/-- The lines of the instructions. -/
def lines (r : Spelling) : List UInt32 := r.code.map (InstructionSpelling.line r.base)

/-- No line passes the largest number of four bytes. -/
def LinesFit (r : Spelling) : Prop := ∀ i ∈ r.code, r.base.toNat + i.delta.toNat < UInt32.size

/-- No operand is a NaN. -/
def WithoutNaN (r : Spelling) : Prop :=
  ∀ i ∈ r.code, ∀ bits, i.operand = .number bits → (Float.ofBits bits).isNaN = false

/-- **The one spelling of a stub that is canonical.** -/
structure Canonical (r : Spelling) : Prop where
  flag : r.vararg = 0 ∨ r.vararg = 1
  texts : ∀ t ∈ r.texts, t.Standard
  reserved : ∀ i ∈ r.code, i.operand.reserved = 0
  base : r.base = r.lines.min?.getD 0

end Spelling

/-! ## Numbers in bytes -/

theorem capacity_succ (width : Nat) : capacity (width + 1) = 256 * capacity width :=
  Nat.mul_comm _ _

@[simp] theorem length_bytesOf (width n : Nat) : (bytesOf width n).length = width := by
  induction width generalizing n with
  | zero => rfl
  | succ width ih => simp [bytesOf, ih]

theorem numberOf_bytesOf (width n : Nat) : numberOf (bytesOf width n) = n % capacity width := by
  induction width generalizing n with
  | zero => exact (Nat.mod_one n).symm
  | succ width ih =>
    have split : n % capacity (width + 1) = n % 256 + 256 * (n / 256 % capacity width) := by
      rw [capacity_succ, Nat.mod_mul]
    simp [bytesOf, numberOf, ih, split]

theorem numberOf_lt (bs : List UInt8) : numberOf bs < capacity bs.length := by
  induction bs with
  | nil => exact Nat.one_pos
  | cons b bs ih =>
    have low := b.toNat_lt
    rw [numberOf, List.length_cons, capacity_succ]
    omega

theorem bytesOf_numberOf (bs : List UInt8) : bytesOf bs.length (numberOf bs) = bs := by
  induction bs with
  | nil => rfl
  | cons b bs ih =>
    have low := b.toNat_lt
    have high : (b.toNat + 256 * numberOf bs) / 256 = numberOf bs := by omega
    have byte : UInt8.ofNat (b.toNat + 256 * numberOf bs) = b := by
      apply UInt8.toNat.inj
      rw [UInt8.toNat_ofNat']
      omega
    simp [bytesOf, numberOf, high, byte, ih]

/-! ## Spellings need no separators -/

/-- What starts with the bytes of one starts with the bytes of no other. -/
def Delimited {ρ : Type} (bytes : ρ → List UInt8) : Prop :=
  ∀ ⦃x y : ρ⦄ ⦃rest rest' : List UInt8⦄, bytes x ++ rest = bytes y ++ rest' → x = y ∧ rest = rest'

theorem bytesOf_delimited {width m n : Nat} {rest rest' : List UInt8} (hm : m < capacity width)
    (hn : n < capacity width) (h : bytesOf width m ++ rest = bytesOf width n ++ rest') :
    m = n ∧ rest = rest' := by
  obtain ⟨same, rests⟩ := List.append_inj h (by simp)
  have numbers := congrArg numberOf same
  simp only [numberOf_bytesOf, Nat.mod_eq_of_lt hm, Nat.mod_eq_of_lt hn] at numbers
  exact ⟨numbers, rests⟩

/-- Words of four bytes. -/
theorem word_delimited : Delimited fun w : UInt32 => bytesOf 4 w.toNat := by
  intro v w rest rest' h
  obtain ⟨same, rests⟩ := bytesOf_delimited v.toNat_lt w.toNat_lt h
  exact ⟨UInt32.toNat.inj same, rests⟩

namespace Delimited

variable {ρ : Type} {bytes : ρ → List UInt8} (h : Delimited bytes)
include h

/-- As many things in a row, if both rows are equally long. -/
theorem flatMap {xs ys : List ρ} {rest rest' : List UInt8} (lengths : xs.length = ys.length)
    (same : xs.flatMap bytes ++ rest = ys.flatMap bytes ++ rest') : xs = ys ∧ rest = rest' := by
  induction xs generalizing ys with
  | nil =>
    obtain rfl : ys = [] := List.length_eq_zero_iff.mp lengths.symm
    exact ⟨rfl, same⟩
  | cons x xs ih =>
    obtain ⟨y, ys, rfl⟩ := List.exists_cons_of_length_eq_add_one lengths.symm
    simp only [List.flatMap_cons, List.append_assoc] at same
    obtain ⟨heads, tails⟩ := h same
    obtain ⟨others, rests⟩ := ih (by simpa using lengths) tails
    exact ⟨by rw [heads, others], rests⟩

/-- Things in a row after their count. -/
theorem counted {width : Nat} {xs ys : List ρ} {rest rest' : List UInt8}
    (hx : xs.length < capacity width) (hy : ys.length < capacity width)
    (same : countedBytes width bytes xs ++ rest = countedBytes width bytes ys ++ rest') :
    xs = ys ∧ rest = rest' := by
  simp only [countedBytes, List.append_assoc] at same
  obtain ⟨lengths, same⟩ := bytesOf_delimited hx hy same
  exact h.flatMap lengths same

end Delimited

theorem CharSpelling.bytes_delimited : Delimited CharSpelling.bytes := by
  intro c d rest rest' h
  simp only [bytes, List.cons_append, List.cons.injEq] at h
  obtain ⟨lead, h⟩ := h
  obtain ⟨more, rests⟩ := List.append_inj h (by rw [c.complete, d.complete, lead])
  exact ⟨CharSpelling.ext lead more, rests⟩

theorem TextSpelling.bytes_delimited : Delimited TextSpelling.bytes := by
  intro s t rest rest' h
  obtain ⟨chars, rests⟩ := CharSpelling.bytes_delimited.counted s.counted t.counted h
  exact ⟨TextSpelling.ext chars, rests⟩

theorem captureBytes_delimited : Delimited captureBytes := by
  intro c d rest rest' h
  simp only [captureBytes, List.append_assoc] at h
  obtain ⟨stubs, h⟩ := word_delimited h
  obtain ⟨slots, rests⟩ := word_delimited h
  cases c
  cases d
  exact ⟨by simp_all, rests⟩

/-- Operands of one form, which their opcode tells. -/
theorem OperandSpelling.bytes_delimited {a b : OperandSpelling} {rest rest' : List UInt8}
    (form : a.isStub = b.isStub) (h : a.bytes ++ rest = b.bytes ++ rest') :
    a = b ∧ rest = rest' := by
  cases a with
  | number bits =>
    cases b with
    | number bits' =>
      obtain ⟨same, rests⟩ := bytesOf_delimited bits.toNat_lt bits'.toNat_lt h
      exact ⟨congrArg number (UInt64.toNat.inj same), rests⟩
    | stub => cases form
  | stub id reserved =>
    cases b with
    | number => cases form
    | stub id' reserved' =>
      simp only [bytes, List.append_assoc] at h
      obtain ⟨ids, h⟩ := word_delimited h
      obtain ⟨words, rests⟩ := word_delimited h
      exact ⟨by rw [ids, words], rests⟩

theorem InstructionSpelling.bytes_delimited : Delimited InstructionSpelling.bytes := by
  intro i j rest rest' h
  simp only [bytes, List.append_assoc, List.cons_append] at h
  obtain ⟨deltas, h⟩ := bytesOf_delimited i.delta.toNat_lt j.delta.toNat_lt h
  obtain ⟨opcodes, h⟩ := List.cons.inj h
  have form : i.operand.isStub = j.operand.isStub := by rw [i.paired, j.paired, opcodes]
  obtain ⟨operands, rests⟩ := OperandSpelling.bytes_delimited form h
  exact ⟨InstructionSpelling.ext (UInt16.toNat.inj deltas) opcodes operands, rests⟩

/-- **What starts with one record starts with no other.** -/
theorem Spelling.bytes_delimited : Delimited Spelling.bytes := by
  intro r s rest rest' h
  simp only [bytes, List.append_assoc, List.append_cancel_left_eq, List.cons_append,
    List.nil_append, List.cons.injEq, true_and] at h
  obtain ⟨ids, h⟩ := word_delimited h
  obtain ⟨varargs, h⟩ := List.cons.inj h
  obtain ⟨parameters, h⟩ :=
    TextSpelling.bytes_delimited.counted r.parametersCounted s.parametersCounted h
  obtain ⟨locals, h⟩ := TextSpelling.bytes_delimited.counted r.localsCounted s.localsCounted h
  obtain ⟨strings, h⟩ := TextSpelling.bytes_delimited.counted r.stringsCounted s.stringsCounted h
  obtain ⟨captures, h⟩ := captureBytes_delimited.counted r.capturesCounted s.capturesCounted h
  obtain ⟨count, h⟩ := bytesOf_delimited r.codeCounted s.codeCounted h
  obtain ⟨bases, h⟩ := word_delimited h
  obtain ⟨code, rests⟩ := InstructionSpelling.bytes_delimited.flatMap count h
  exact ⟨Spelling.ext ids varargs parameters locals strings captures bases code, rests⟩

theorem Spelling.bytes_ne_nil (r : Spelling) : r.bytes ≠ [] := by
  simp [bytes, magic]

/-- **A file is the bytes of at most one sequence of records.** -/
theorem Spelling.files_delimited {rs ss : List Spelling}
    (h : rs.flatMap bytes = ss.flatMap bytes) : rs = ss := by
  induction rs generalizing ss with
  | nil =>
    cases ss with
    | nil => rfl
    | cons s ss => simp [s.bytes_ne_nil] at h
  | cons r rs ih =>
    cases ss with
    | nil => simp [r.bytes_ne_nil] at h
    | cons s ss =>
      simp only [List.flatMap_cons] at h
      obtain ⟨heads, tails⟩ := bytes_delimited h
      rw [heads, ih tails]

end StubMachine.Record
