import StubMachine.Machine.State

/-!
# Actions

An `Action` is something the machine does: it may change the state, and it ends with a
result or with a failure.  The state is kept in both cases.

This module has the elementary actions, each a read or a write of one part of the
state, and the raising of errors and signals.  **Raising an error makes an error
object** with three entries: a `summary`, which is the detail itself if that is a
string, else the detail's own string `summary`, else the words `Unknown error`; the
`detail`; and the `callstack`, a list of objects that name the file and the line of
each active frame, innermost first.
-/

namespace StubMachine

/-- Something a machine does. -/
abbrev Action (α : Type) := EStateM Failure Machine α

namespace Action

/-- What the state says. -/
@[inline] def read {α : Type} (f : Machine → α) : Action α := fun m => .ok (f m) m

/-- Change the state. -/
@[inline] def update (f : Machine → Machine) : Action Unit := fun m => .ok () (f m)

/-- Run an action, then change the state in either case. -/
@[inline] def finally_ {α : Type} (x : Action α) (f : Machine → Machine) : Action α := fun m =>
  match x m with
  | .ok a m => .ok a (f m)
  | .error e m => .error e (f m)

/-- End with a fault that the caller has to deal with. -/
def fail {α : Type} (f : Fault) : Action α := throw (.plain f)

/-! ## The store -/

/-- The object with a number. -/
def objectAt (o : ObjectId) : Action Object := read fun m => m.object o

/-- Change an object. -/
def updateObject (o : ObjectId) (f : Object → Object) : Action Unit :=
  update fun m => { m with objects := m.objects.modify (o.serial - 1) f }

/-- Take an object into the store. -/
def newObject (o : Object) : Action ObjectId := fun m =>
  .ok ⟨m.objects.size + 1⟩ { m with objects := m.objects.push o }

/-- A new plain object without entries. -/
def newBlank : Action ObjectId := newObject Object.blank

/-- A new plain object with values under the indices from zero on. -/
def newList (values : Array Value) : Action Value := do
  let o ← newObject { Object.blank with indices := values }
  return .object o

/-- A new function object. -/
def newFunction (f : FunctionFacet) : Action Value := do
  let o ← newObject (Object.ofType BuiltinType.function.id (.function f))
  return .object o

/-- Whether a value is a function. -/
def isFunction (v : Value) : Action Bool := read fun m => m.isFunction v

/-- The name of the type of a value. -/
def typeName (v : Value) : Action String := read fun m => m.types.name (m.typeOf v)

/-! ## Frames -/

/-- What a frame says. -/
@[inline] def readFrame {α : Type} (i : Nat) (f : Frame → α) : Action α :=
  read fun m => f (m.frame i)

/-- Change a frame. -/
@[inline] def updateFrame (i : Nat) (f : Frame → Frame) : Action Unit :=
  update fun m => { m with frames := m.frames.modify i f }

/-! ## Raising -/

/-- Make an error or a signal pending, raised where the machine is. -/
def signal (kind : CatchableKind) (payload : Value) : Action Unit :=
  update fun m =>
    let (file, line) := m.location
    let c : Catchable := ⟨kind, payload, file, line⟩
    { m with pending := some c, raised := ⟨c, m.pending⟩ :: m.raised }

/-- The string that sums up what an error is about. -/
def summaryOf (m : Machine) (detail : Value) : String :=
  match detail with
  | .string s => s
  | .object o =>
    match (m.object o).text? "summary" with
    | some (.string s) => s
    | _ => "Unknown error"
  | _ => "Unknown error"

/-- A new object that names a file and a line. -/
def newPlace (place : String × UInt32) : Action Value := do
  let o ← newObject ((Object.blank.setText "file" (.string place.1)).setText "line"
    (.ofNat place.2.toNat))
  return .object o

/-- The call stack as a new list of places. -/
def newCallStack : Action Value := do
  let places ← (← read Machine.callStack).mapM newPlace
  newList places.toArray

/-- Make an error pending; its payload is a new error object. -/
def signalError (detail : Value) : Action Unit := do
  let summary ← read fun m => summaryOf m detail
  let stack ← newCallStack
  let o ← newObject (((Object.blank.setText "summary" (.string summary)).setText "detail"
    detail).setText "callstack" stack)
  signal .error (.object o)

/-- **Raise an error** about a value. -/
def raiseError {α : Type} (detail : Value) : Action α := do
  signalError detail
  throw .unwinding

/-- Raise an error about a fault. -/
def raise {α : Type} (f : Fault) : Action α := raiseError (.string f.message)

/-- **Raise a signal** that carries a value. -/
def raiseSend {α : Type} (payload : Value) : Action α := do
  signal .send payload
  throw .unwinding

end Action

end StubMachine
