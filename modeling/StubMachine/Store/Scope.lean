import StubMachine.Bytecode.Stub

/-!
# Scopes and captures

Each activation of a function has an array of referrables, which outlives it: closures
made during the activation refer to the array by its number.  A **scope** is the chain
of activations that a piece of code can capture from, innermost first — the lexical
nesting, not the call stack.
-/

namespace StubMachine

/-- The number of an array of referrables. -/
structure SlotsId where
  serial : Nat
deriving DecidableEq, Hashable, Repr

/-- One activation of a stub and the referrables it owns. -/
structure Activation where
  file : UInt32
  stub : UInt32
  slots : SlotsId
deriving DecidableEq, Repr

/-- The activations that code can capture from, innermost first. -/
abbrev Scope := List Activation

/-- The nearest activation of a stub. -/
def Scope.find? (scope : Scope) (file stub : UInt32) : Option Activation :=
  List.find? (fun a => a.file == file && a.stub == stub) scope

/-- A captured variable: one slot of an array of referrables. -/
structure Capture where
  slots : SlotsId
  index : Nat
deriving DecidableEq, Repr

end StubMachine
