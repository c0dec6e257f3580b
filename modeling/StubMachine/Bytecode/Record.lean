import StubMachine.Bytecode.Stub

/-!
# Stub records

A bytecode file is a sequence of stub records.  A record is a header (six magic bytes
and a version), the stub's id and vararg flag, the names of its parameters and locals,
its string pool, its capture sites, and its instructions, all numbers little-endian.

`Stub.record` writes one record and `Record.readAll` reads a whole file.  A record
carries its own lengths, so reading needs no separators: **a file is read back to
back until its bytes are used up**.

Texts are stored as a count of characters followed by UTF-8.  The reader is lenient:
it walks each character by its leading byte alone, takes a leading byte that starts no
UTF-8 sequence as a character of its own, reads a continuation byte missing at the end
of the file as zero, and puts the replacement character for a code point that is no
character.
-/

namespace StubMachine

/-! ## Faults -/

/-- Why a record could not be written. -/
inductive WriteFault
  /-- More parameter or local names than one byte counts. -/
  | tooManyNames (what : String) (count : Nat)
  | tooManyCaptures (stub : UInt32)
  /-- An instruction's line is 65536 or more lines after the first. -/
  | lineTooFar (line base stub : UInt32)
  /-- A pool, a text or the code has more entries than four bytes count. -/
  | countTooLarge
deriving DecidableEq, Repr

/-- The words for a fault in writing. -/
def WriteFault.message : WriteFault → String
  | tooManyNames what count => s!"too many {what} names ({count})"
  | tooManyCaptures stub => s!"stub {stub} has too many captures"
  | lineTooFar line base stub => s!"line {line} is too far from base line {base} in stub {stub}"
  | countTooLarge => "out of range integral type conversion attempted"

/-- Why a record could not be read; offsets count from the start of the file. -/
inductive ReadFault
  /-- Fewer bytes are left than a header has. -/
  | missingHeader (offset : Nat)
  | wrongMagic (offset : Nat)
  | wrongVersion (found : UInt8)
  /-- The file ends where a byte was expected. -/
  | missingByte (offset : Nat)
  /-- The file ends inside a number of several bytes. -/
  | missingBytes (offset need : Nat)
deriving DecidableEq, Repr

/-- The words for a fault in reading. -/
def ReadFault.message : ReadFault → String
  | missingHeader offset => s!"missing stub header at offset {offset}"
  | wrongMagic offset => s!"invalid stub magic at offset {offset}"
  | wrongVersion found => s!"unsupported stub version {found} (reader supports 1)"
  | missingByte offset => s!"unexpected end of bytecode at offset {offset}"
  | missingBytes offset need =>
    s!"unexpected end of bytecode at offset {offset} (need {need} bytes)"

/-- A fault in reading together with the record and the file in which it arose. -/
structure RecordFault where
  record : Nat
  file : UInt32
  fault : ReadFault
deriving DecidableEq, Repr

/-- The words for a fault in a record. -/
def RecordFault.message (f : RecordFault) : String :=
  s!"decoding stub record #{f.record} of file {f.file}: " ++ f.fault.message

/-! ## Numbers -/

namespace Record

/-- The six bytes that open every record. -/
def magic : List UInt8 := [0x4d, 0x41, 0x54, 0x01, 0x06, 0x42]

/-- The version of the format. -/
def version : UInt8 := 1

/-- The `width` low bytes of a number, the lowest first. -/
def bytesOf : Nat → Nat → List UInt8
  | 0, _ => []
  | width + 1, n => UInt8.ofNat n :: bytesOf width (n / 256)

/-- The number that bytes stand for, the lowest first. -/
def numberOf : List UInt8 → Nat
  | [] => 0
  | b :: bs => b.toNat + 256 * numberOf bs

/-! ## Writing -/

/-- A count in `width` bytes. -/
def countBytes (width count : Nat) (tooLarge : WriteFault) : Except WriteFault (List UInt8) :=
  if count < Nat.pow 256 width then .ok (bytesOf width count) else .error tooLarge

/-- A text: the number of its characters, then its UTF-8. -/
def textBytes (s : String) : Except WriteFault (List UInt8) := do
  let count ← countBytes 4 s.length .countTooLarge
  return count ++ s.toUTF8.data.toList

/-- Several texts, one after the other. -/
def textsBytes (texts : List String) : Except WriteFault (List UInt8) := do
  let parts ← texts.mapM textBytes
  return parts.flatten

/-- A list of names, counted by one byte. -/
def namesBytes (what : String) (names : Array String) : Except WriteFault (List UInt8) := do
  let count ← countBytes 1 names.size (.tooManyNames what names.size)
  return count ++ (← textsBytes names.toList)

/-- The eight bytes of an operand. -/
def operandBytes : Operand → List UInt8
  | .number n => bytesOf 8 n.toBits.toNat
  | .stub id => bytesOf 4 id.toNat ++ bytesOf 4 0

/-- An instruction, its line relative to `base`. -/
def instructionBytes (stub base : UInt32) (i : Instruction) : Except WriteFault (List UInt8) :=
  let delta := (i.line - base).toNat
  if delta < 65536 then .ok (bytesOf 2 delta ++ i.opcode :: operandBytes i.operand)
  else .error (.lineTooFar i.line base stub)

/-- The smallest line of the instructions, zero if there are none. -/
def baseLine (code : Array Instruction) : UInt32 :=
  match code.toList.map (·.line) with
  | [] => 0
  | line :: lines => lines.foldl min line

end Record

/-- **The record of a stub.** -/
def Stub.record (s : Stub) : Except WriteFault (List UInt8) := do
  let parameters ← Record.namesBytes "argument" s.parameters
  let locals ← Record.namesBytes "local" s.locals
  let stringCount ← Record.countBytes 4 s.strings.size .countTooLarge
  let strings ← Record.textsBytes s.strings.toList
  let captureCount ← Record.countBytes 2 s.captures.size (.tooManyCaptures s.id)
  let captures := s.captures.toList.flatMap fun c =>
    Record.bytesOf 4 c.stub.toNat ++ Record.bytesOf 4 c.slot.toNat
  let codeCount ← Record.countBytes 4 s.code.size .countTooLarge
  let base := Record.baseLine s.code
  let code ← s.code.toList.mapM (Record.instructionBytes s.id base)
  return Record.magic ++ [Record.version] ++ Record.bytesOf 4 s.id.toNat
    ++ [if s.isVararg then 1 else 0] ++ parameters ++ locals ++ stringCount ++ strings
    ++ captureCount ++ captures ++ codeCount ++ Record.bytesOf 4 base.toNat ++ code.flatten

namespace Record

/-- The records of several stubs, one after the other. -/
def writeAll (stubs : List Stub) : Except WriteFault (List UInt8) := do
  let parts ← stubs.mapM Stub.record
  return parts.flatten

/-! ## Reading -/

/-- A place in a file: the bytes before it are counted, those after it are at hand. -/
structure Cursor where
  offset : Nat
  rest : List UInt8

/-- Something that reads from a place in a file and moves on. -/
abbrev Reader (α : Type) := StateT Cursor (Except ReadFault) α

/-- The next byte. -/
def readByte : Reader UInt8 := fun c =>
  match c.rest with
  | b :: rest => .ok (b, ⟨c.offset + 1, rest⟩)
  | [] => .error (.missingByte c.offset)

/-- The next `width` bytes as a number. -/
def readNumber (width : Nat) : Reader Nat := fun c =>
  let front := c.rest.take width
  if front.length = width then
    .ok (numberOf front, ⟨c.offset + width, c.rest.drop width⟩)
  else .error (.missingBytes c.offset width)

/-- The next four bytes. -/
def readWord : Reader UInt32 := do return UInt32.ofNat (← readNumber 4)

/-- `n` things in a row, after those already read. -/
def readTimes {α : Type} (read : Reader α) : Nat → Array α → Reader (Array α)
  | 0, done => fun c => .ok (done, c)
  | n + 1, done => fun c =>
    match read c with
    | .ok (x, c) => readTimes read n (done.push x) c
    | .error e => .error e

/-- The leading byte's share of a code point, and how many continuation bytes follow. -/
def leadPart (lead : UInt8) : Nat × Nat :=
  if lead < 0x80 then (lead.toNat, 0)
  else if lead &&& 0xe0 == 0xc0 then ((lead &&& 0x1f).toNat, 1)
  else if lead &&& 0xf0 == 0xe0 then ((lead &&& 0x0f).toNat, 2)
  else if lead &&& 0xf8 == 0xf0 then ((lead &&& 0x07).toNat, 3)
  else (lead.toNat, 0)

/-- Extend a code point by `n` continuation bytes; one that is missing counts as zero. -/
def continuations : Nat → Nat → Cursor → Nat × Cursor
  | 0, point, c => (point, c)
  | n + 1, point, c =>
    match c.rest with
    | b :: rest => continuations n (point * 64 + (b &&& 0x3f).toNat) ⟨c.offset + 1, rest⟩
    | [] => continuations n (point * 64) c

/-- The character of a code point, or the replacement character. -/
def charOf (point : Nat) : Char :=
  if point.isValidChar then Char.ofNat point else '\ufffd'

/-- One character of a text. -/
def readChar : Reader Char := fun c =>
  match readByte c with
  | .ok (lead, c) =>
    let (initial, n) := leadPart lead
    let (point, c) := continuations n initial c
    .ok (charOf point, c)
  | .error e => .error e

/-- A text: a count of characters and that many characters. -/
def readText : Reader String := do
  let count ← readNumber 4
  let chars ← readTimes readChar count #[]
  return String.ofList chars.toList

/-- A capture site. -/
def readCapture : Reader CaptureSite := do
  let stub ← readWord
  let slot ← readWord
  return ⟨stub, slot⟩

/-- The operand that goes with an opcode byte; the word after a stub id is reserved. -/
def readOperand (opcode : UInt8) : Reader Operand := do
  if Opcode.takesStub opcode then
    let id ← readWord
    let _ ← readWord
    return .stub id
  else
    let bits ← readNumber 8
    return .number (Float.ofBits (UInt64.ofNat bits))

/-- An instruction, its line relative to `base`. -/
def readInstruction (base : UInt32) : Reader Instruction := do
  let delta ← readNumber 2
  let opcode ← readByte
  let operand ← readOperand opcode
  return ⟨base + UInt32.ofNat delta, opcode, operand⟩

/-- The magic bytes and the version. -/
def readHeader : Reader Unit := fun c =>
  match c.rest.drop magic.length with
  | [] => .error (.missingHeader c.offset)
  | found :: rest =>
    if c.rest.take magic.length ≠ magic then .error (.wrongMagic c.offset)
    else if found ≠ version then .error (.wrongVersion found)
    else .ok ((), ⟨c.offset + magic.length + 1, rest⟩)

/-- **One record**, as a stub of the given file. -/
def readStub (file : UInt32) : Reader Stub := do
  readHeader
  let id ← readWord
  let vararg ← readByte
  let parameterCount ← readByte
  let parameters ← readTimes readText parameterCount.toNat #[]
  let localCount ← readByte
  let locals ← readTimes readText localCount.toNat #[]
  let stringCount ← readNumber 4
  let strings ← readTimes readText stringCount #[]
  let captureCount ← readNumber 2
  let captures ← readTimes readCapture captureCount #[]
  let codeCount ← readNumber 4
  let base ← readWord
  let code ← readTimes (readInstruction base) codeCount #[]
  return ⟨file, id, vararg ≠ 0, parameters, locals, strings, captures, code⟩

/-- The records from a place on; `fuel` bounds their number. -/
def readFrom (file : UInt32) : Nat → Cursor → Array Stub → Except RecordFault (Array Stub)
  | 0, _, done => .ok done
  | fuel + 1, c, done =>
    if c.rest.isEmpty then .ok done
    else
      match readStub file c with
      | .ok (stub, c) => readFrom file fuel c (done.push stub)
      | .error e => .error ⟨done.size, file, e⟩

/-- **All records of a file.**  Each takes at least one byte, so the length of the file
bounds their number. -/
def readAll (file : UInt32) (bytes : List UInt8) : Except RecordFault (Array Stub) :=
  readFrom file bytes.length ⟨0, bytes⟩ #[]

end Record

end StubMachine
