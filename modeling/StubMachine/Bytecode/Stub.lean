import StubMachine.Bytecode.Opcode
import StubMachine.Numeral.Binary64

/-!
# Stubs

A **stub** is the immutable prototype of a function: the names of its parameters and
locals, its string pool, the places of the variables it captures, and its
instructions.  Stubs are created once, when a module is loaded, and shared by all
functions made from them.

Parameters and locals together are the stub's **referrables**, numbered from zero,
parameters first.  One parameter name is special: `$` cannot be bound by a caller and
receives the private binding of the interface through which the function is called.
-/

namespace StubMachine

/-- The operand of an instruction. -/
inductive Operand
  | number (n : Float)
  | stub (id : UInt32)

/-- The numeric view of an operand; a stub id counts as its number. -/
def Operand.toNumber : Operand → Float
  | number n => n
  | stub id => Binary64.ofInteger id.toNat

/-- One instruction.  The opcode stays a byte, so that a byte without meaning is found
when it is executed and not when it is read. -/
structure Instruction where
  line : UInt32
  opcode : UInt8
  operand : Operand

/-- Where a captured variable lives: the stub that owns it and its number there. -/
structure CaptureSite where
  stub : UInt32
  slot : UInt32
deriving DecidableEq, Repr

/-- The prototype of a function. -/
structure Stub where
  /-- The file the stub belongs to; zero for native functions. -/
  file : UInt32
  /-- The number of the stub within its file. -/
  id : UInt32
  /-- Whether all arguments are collected into one object. -/
  isVararg : Bool
  parameters : Array String
  locals : Array String
  strings : Array String
  captures : Array CaptureSite
  code : Array Instruction

namespace Stub

/-- The file id of native functions. -/
def nativeFile : UInt32 := 0

/-- The parameter name that receives the private binding. -/
def privateName : String := "$"

/-- A stub without names, pool, captures and code. -/
def blank (file id : UInt32) : Stub := ⟨file, id, false, #[], #[], #[], #[], #[]⟩

instance : Inhabited Stub := ⟨blank 0 0⟩

/-- The stub of a native function. -/
def native (id : UInt32) (parameters : Array String) : Stub :=
  { blank nativeFile id with parameters }

/-- Whether the stub belongs to a native function. -/
def isNative (s : Stub) : Bool := s.file == nativeFile

/-- The number of parameters. -/
def arity (s : Stub) : Nat := s.parameters.size

/-- The number of own referrables. -/
def referrableCount (s : Stub) : Nat := s.parameters.size + s.locals.size

/-- The first parameter with a name. -/
def parameterIndex? (s : Stub) (name : String) : Option Nat := s.parameters.idxOf? name

/-- The parameters that callers may bind. -/
def bindableNames (s : Stub) : List String := s.parameters.toList.filter (· != privateName)

/-- The source line of an instruction, zero past the end. -/
def lineAt (s : Stub) (pc : Nat) : UInt32 := (s.code[pc]?.map (·.line)).getD 0

end Stub

end StubMachine
