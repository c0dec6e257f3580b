import StubMachine.Machine.Conversion

/-!
# Arguments of native functions

A native function finds its arguments by position, in the order of its parameters; one
that was not supplied is Empty.  What it needs of an argument it checks itself, and a
value of the wrong kind is a fault that names the parameter.
-/

namespace StubMachine.Native

open StubMachine.Action

/-- The argument at a position. -/
def argument (args : Array Value) (i : Nat) : Value := args.getD i .empty

/-- An argument that must be an object. -/
def objectArgument (args : Array Value) (i : Nat) (what : String) : Action ObjectId :=
  match argument args i with
  | .object o => return o
  | v => fail (.objectExpected what v.kind)

/-- An argument that must be a string. -/
def stringArgument (args : Array Value) (i : Nat) (what : String) : Action String :=
  match argument args i with
  | .string s => return s
  | v => fail (.stringExpected what v.kind)

/-- An argument that must be an index: a finite number that is not negative, cut to a
whole number of 64 bits. -/
def indexArgument (args : Array Value) (i : Nat) (what : String) : Action Nat :=
  match argument args i with
  | .number n =>
    if n ≥ 0.0 && Binary64.isFinite n then return Binary64.toUnsigned 64 n
    else fail (.indexExpected what n)
  | v => fail (.numberExpected what v.kind)

/-- An argument that must be a function. -/
def functionArgument (args : Array Value) (i : Nat) (what : String) : Action Value := do
  let v := argument args i
  if ← isFunction v then return v else fail (.functionExpected what v.kind)

/-- The base of a function on objects: an object with entries, so no function. -/
def baseObject (args : Array Value) : Action ObjectId := do
  let o ← objectArgument args 0 "base"
  if (← objectAt o).isFunction then fail .functionMembers
  return o

/-- The base of a function on texts. -/
def baseString (args : Array Value) : Action String := stringArgument args 0 "base"

end StubMachine.Native
