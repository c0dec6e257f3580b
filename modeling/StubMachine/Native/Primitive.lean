import StubMachine.Json.Exchange
import StubMachine.Machine.Module
import StubMachine.Native.Argument
import StubMachine.Text.Blank

/-!
# Primitives

The native functions that answer no query: importing and printing, raising errors and
signals, numbers and texts, creating types and objects, and documents.
-/

namespace StubMachine.Native

open StubMachine.Action

/-- Print a value's text. -/
def print (e : Engine) (args : Array Value) : Action Value := do
  let text ← asString e (argument args 0)
  update fun m => { m with events := m.events.push (.printed text) }
  return .empty

/-- **Hand out a function of the embedder**; each name works once. -/
def externalFunction (args : Array Value) : Action Value := do
  let name ← stringArgument args 0 "name"
  match ← read fun m => m.externals[name]? with
  | none => fail (.externalMissing name)
  | some id =>
    update fun m => { m with externals := m.externals.erase name }
    nativeValue id

/-- The number that a text stands for, blanks around it aside. -/
def parseNumber (e : Engine) (args : Array Value) : Action Value := do
  let text ← asString e (argument args 0)
  match Literal.read? (Text.trim text) with
  | some n => return .number n
  | none => fail (.numberText text)

/-- The number nearest to the ratio of a circle's circumference to its diameter. -/
def pi : Float := Float.ofBits 0x400921fb54442d18

/-- The next random number. -/
def random (host : Host) : Action Value := fun m =>
  .ok (.number (host.random m.draws)) { m with draws := m.draws + 1 }

/-- The texts of an object's values, one after the other. -/
def combine (e : Engine) (args : Array Value) : Action Value := do
  let o ← objectArgument args 0 "strings"
  let texts ← (← objectValues e o).mapM (asString e)
  return .string (String.join texts)

/-! ## Types and instances -/

/-- A parent of a new type. -/
def parentOf : Value → Action TypeId
  | .type t => return t
  | v => fail (.parentKind v.kind)

/-- The parents of a new type, if any are given. -/
def parentsOf (e : Engine) (v : Value) : Action (Option (List TypeId)) := do
  match v with
  | .empty => return none
  | .object o => return some (← (← objectValues e o).mapM parentOf)
  | v => fail (.parentsKind v.kind)

/-- An entry of a new type's own layout. -/
def layoutEntryOf (entry : String × Value) : Action (String × TypeId) :=
  match entry.2 with
  | .type t => return (entry.1, t)
  | v => fail (.layoutEntry entry.1 v.kind)

/-- The own layout of a new type, if one is given. -/
def layoutOf (v : Value) : Action (Option Layout) := do
  match v with
  | .empty => return none
  | .object o =>
    let entries ← (← objectAt o).strings.toList.mapM layoutEntryOf
    return some (OrderedMap.ofList entries)
  | v => fail (.layoutKind v.kind)

/-- **Create a type** with a name, parents and a layout. -/
def newType (e : Engine) (args : Array Value) : Action Value := do
  let name ← match argument args 0 with
    | .empty => pure "Unnamed"
    | v => asString e v
  let parents ← parentsOf e (argument args 1)
  let layout ← layoutOf (argument args 2)
  match ← read fun m => m.types.create name parents layout with
  | .error f => fail (.type f)
  | .ok (t, types) =>
    update fun m => { m with types }
    return .type t

/-- **Create an object of a type**; it is a record if the type has a layout.  Of the
builtin types only that of objects has instances. -/
def instantiate (args : Array Value) : Action Value := do
  match argument args 0 with
  | .type t =>
    match BuiltinType.ofId? t with
    | some .object | none =>
      let facet ← read fun m => (m.types.layout? t).elim Facet.plain Facet.record
      return .object (← newObject (Object.ofType t facet))
    | some builtin => fail (.builtinInstance builtin.name)
  | v => fail (.instanceType v.kind)

/-! ## The table -/

/-- **What a primitive does** with its arguments. -/
def runPrimitive (host : Host) (e : Engine) (args : Array Value) : Primitive → Action Value
  | .noop | .freeze | .thaw | .collect => return .empty
  | .importModule => do importModule host e (← stringArgument args 0 "module")
  | .print => print e args
  | .send => raiseSend (argument args 0)
  | .error => raiseError (argument args 0)
  | .externalFunction => externalFunction args
  | .parseNumber => parseNumber e args
  | .pi => return .number pi
  | .random => random host
  | .combine => combine e args
  | .newType => newType e args
  | .instantiate => instantiate args
  | .encode => do return .string (← encodeJson e (argument args 0))
  | .decode => do decodeJson (← stringArgument args 0 "string")

end StubMachine.Native
