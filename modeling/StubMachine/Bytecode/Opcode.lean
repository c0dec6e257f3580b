/-!
# Opcodes

Every instruction has one opcode byte.  `Opcode.all` lists the opcodes in the order of
their bytes, from zero on without gaps; a byte past the end of the list is no opcode.
-/

namespace StubMachine

/-- What an instruction does. -/
inductive Opcode
  /-- Nothing. -/
  | nop
  /-- Push a referrable: own slots first, then captures. -/
  | pushReferrable
  | pushEmpty
  | pushNumber
  | pushBoolean
  /-- Push a text of the stub's string pool. -/
  | pushString
  /-- Push a new object without entries. -/
  | newObject
  /-- Push a closure of a stub. -/
  | closure
  /-- Pop the argument types and the return type, push a type-checked closure. -/
  | typedClosure
  /-- Collect values into an object under the indices from zero on. -/
  | collectValues
  /-- Collect pairs of key and value into an object. -/
  | collectPairs
  /-- Push a builtin type. -/
  | pushType
  /-- Call a function with named arguments. -/
  | call
  /-- Assign to a referrable. -/
  | assignReferrable
  /-- Assign to a member of an object. -/
  | assignMember
  /-- Look up a member of an object. -/
  | lookUpMember
  /-- Apply an operator. -/
  | operate
  /-- Push a native function. -/
  | pushNative
  /-- Pop values. -/
  | discard
  /-- Push the top value once more. -/
  | duplicate
  /-- End the activation with the top value. -/
  | return_
  | skip
  /-- Pop a condition and skip if it is false. -/
  | skipIfFalse
  /-- Skip with the condition kept if it is false, else pop it. -/
  | skipUnlessTrue
  /-- Skip with the condition kept if it is true, else pop it. -/
  | skipUnlessFalse
  /-- Run a body for each number of a range. -/
  | countLoop
  /-- Run a body until it returns. -/
  | foreverLoop
  /-- Run a body for each entry of an object. -/
  | entryLoop
  /-- Ask a value a query. -/
  | query
  /-- Call a function and intercept what it raises. -/
  | listen
deriving DecidableEq, Repr

namespace Opcode

/-- The opcodes in the order of their bytes. -/
def all : Array Opcode := #[
  nop, pushReferrable, pushEmpty, pushNumber, pushBoolean, pushString, newObject, closure,
  typedClosure, collectValues, collectPairs, pushType, call, assignReferrable, assignMember,
  lookUpMember, operate, pushNative, discard, duplicate, return_, skip, skipIfFalse,
  skipUnlessTrue, skipUnlessFalse, countLoop, foreverLoop, entryLoop, query, listen]

/-- The opcode of a byte. -/
def ofByte? (b : UInt8) : Option Opcode := all[b.toNat]?

/-- The three letters that listings show. -/
def mnemonic : Opcode → String
  | nop => "NOP"
  | pushReferrable => "PRF"
  | pushEmpty => "NEM"
  | pushNumber => "NNM"
  | pushBoolean => "NBL"
  | pushString => "NST"
  | newObject => "NOB"
  | closure => "NFN"
  | typedClosure => "NSF"
  | collectValues => "CAA"
  | collectPairs => "CAS"
  | pushType => "PTO"
  | call => "CAL"
  | assignReferrable => "ARF"
  | assignMember => "OSN"
  | lookUpMember => "OLK"
  | operate => "OPR"
  | pushNative => "EXT"
  | discard => "POP"
  | duplicate => "CPY"
  | return_ => "RET"
  | skip => "SKP"
  | skipIfFalse => "SKF"
  | skipUnlessTrue => "SCA"
  | skipUnlessFalse => "SCO"
  | countLoop => "LOP"
  | foreverLoop => "FVR"
  | entryLoop => "FCH"
  | query => "QRY"
  | listen => "LST"

/-- Whether instructions with this opcode byte carry a stub id instead of a number. -/
def takesStub (b : UInt8) : Bool :=
  match ofByte? b with
  | some closure | some typedClosure => true
  | _ => false

/-- The opcode with a mnemonic. -/
def ofMnemonic? (name : String) : Option Opcode := all.find? fun op => op.mnemonic == name

/-- The byte of an opcode. -/
def toByte (op : Opcode) : UInt8 := UInt8.ofNat (all.toList.idxOf op)

end Opcode

end StubMachine
