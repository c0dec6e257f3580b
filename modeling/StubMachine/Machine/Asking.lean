import StubMachine.Machine.Access
import StubMachine.Machine.Module
import StubMachine.Text.Blank
import StubMachine.Text.Casing

/-!
# Asking queries

An immediate query is answered from the base alone and insists on a base of the right
kind; a parameterized one is answered with a native function that has the base bound.
-/

namespace StubMachine

open StubMachine.Action

/-- The queries that take a number and give a number. -/
def Query.numeric? : Query → Option (Float → Float)
  | .cos => some Float.cos
  | .sin => some Float.sin
  | .tan => some Float.tan
  | .acos => some Float.acos
  | .asin => some Float.asin
  | .atan => some Float.atan
  | .sqrt => some Float.sqrt
  | .abs => some Float.abs
  | .floor => some Float.floor
  | .ceil => some Float.ceil
  | .round => some Float.round
  | .toRadians => some fun n => n * (Float.ofBits 0x400921fb54442d18 / 180.0)
  | .toDegrees => some fun n => n * (180.0 / Float.ofBits 0x400921fb54442d18)
  | _ => none

/-- The queries that take a text and give a text. -/
def Query.textual? : Query → Option (String → String)
  | .toUpper => some Text.toUpper
  | .toLower => some Text.toLower
  | .trim => some Text.trim
  | _ => none

/-- Raise the error about a base of the wrong kind. -/
def raiseBase (q : Query) (wanted : String) (base : Value) : Action Value :=
  raise (.queryBase q wanted base.kind)

/-- The answer to a query about an object. -/
def askObject (e : Engine) (q : Query) (o : ObjectId) : Action Value := do
  match q with
  | .keyCount => return .ofNat (← objectKeys e o).length
  | .keys => newList (← objectKeys e o).toArray
  | .values => newList (← objectValues e o).toArray
  | .pop =>
    let last := (← objectAt o).indices.back?
    updateObject o fun object => { object with indices := object.indices.pop }
    return .ofOption last
  | .attributes => return .ofOption ((← objectAt o).attributes.map .object)
  | _ => raise (.queryImmediate q)

/-- The answer to an immediate query. -/
def askImmediate (e : Engine) (q : Query) (base : Value) : Action Value := do
  match q, base with
  | .type, _ => return .type (← read fun m => m.typeOf base)
  | .isNaN, .number n => return .boolean (Binary64.isNaN n)
  | .isNaN, _ => raiseBase q "Number" base
  | .length, .string s => return .ofNat s.length
  | .length, .object o => return .ofNat (← objectAt o).indices.size
  | .length, _ => raiseBase q "String or Object" base
  | .name, .type t => return .string (← read fun m => m.types.name t)
  | .name, _ => raiseBase q "Type" base
  | _, _ =>
    match q.numeric?, q.textual? with
    | some f, _ =>
      match base with
      | .number n => return .number (f n)
      | _ => raiseBase q "Number" base
    | none, some f =>
      match base with
      | .string s => return .string (f s)
      | _ => raiseBase q "String" base
    | none, none =>
      match base with
      | .object o => askObject e q o
      | _ => raiseBase q "Object" base

/-- **Ask a value a query by number.** -/
def ask (e : Engine) (base : Value) (id : Nat) : Action Value := do
  match Query.ofId? id with
  | none => raise (.unknownQuery id)
  | some q =>
    match q.parameterizedIndex? with
    | some i => boundNative (Native.queryBase + i) base
    | none => askImmediate e q base

end StubMachine
