import StubMachine.Json.Reader
import StubMachine.Machine.Access

/-!
# Values as documents

**Writing.**  Empty and functions become `null`, types their names, an object whose only
keys are its indices an array, any other object a JSON object with the keys as text; an
object-keyed entry cannot be written, nor an object inside itself.  Keys and values are
enumerated the way scripts see them, so hooks and getters run.

**Reading** is the inverse as far as there is one: arrays become objects with indices,
JSON objects become objects with string keys, `null` becomes Empty.
-/

namespace StubMachine

open StubMachine.Action

/-- A number in a document: negative zero is zero, and what is not finite is `null`. -/
def Json.ofNumber (n : Float) : Json :=
  if !Binary64.isFinite n then .null
  else if Style.json.writesInteger n then .number (Binary64.ofInteger (Binary64.truncate n))
  else .number n

/-- The name under which an entry is written. -/
def Json.memberName (m : Machine) : Value → Except Fault String
  | .string s => .ok s
  | .number n => .ok (Style.canonical.text n)
  | .boolean b => .ok (if b then "true" else "false")
  | .type t => .ok (m.types.name t)
  | v => .error (.documentKey v.kind)

/-- Whether a value is a number. -/
def Value.isNumber : Value → Bool
  | .number _ => true
  | _ => false

/-- **The document of a value.**  `visiting` holds the objects around the value; `fuel`
bounds the nesting. -/
def Json.ofValue (e : Engine) : Nat → List ObjectId → Value → Action Json
  | 0, _, _ => throw .exhausted
  | fuel + 1, visiting, v => do
    match v with
    | .empty => return .null
    | .boolean b => return .boolean b
    | .number n => return Json.ofNumber n
    | .string s => return .string s
    | .type t => return .string (← Action.read fun m => m.types.name t)
    | .object o =>
      if (← objectAt o).isFunction then return .null
      if visiting.contains o then fail .cyclicDocument
      let keys ← objectKeys e o
      let values ← objectValues e o
      let count := (← objectAt o).indices.size
      if keys.length = count ∧ keys.all Value.isNumber then
        return .array (← values.mapM (Json.ofValue e fuel (o :: visiting)))
      else
        let members ← (keys.zip values).mapM fun (key, value) => do
          match ← Action.read fun m => Json.memberName m key with
          | .error f => fail f
          | .ok name => return (name, ← Json.ofValue e fuel (o :: visiting) value)
        return .object (OrderedMap.ofList members).toList

/-- The text of a value's document. -/
def encodeJson (e : Engine) (v : Value) : Action String := do
  return (← Json.ofValue e e.fuel [] v).text

mutual

/-- **The value of a document**, made of new objects.  The objects of an array's items
come before its own, those of a JSON object's members after it. -/
def Json.toValue : Json → Action Value
  | .null => return .empty
  | .boolean b => return .boolean b
  | .number n => return .number n
  | .string s => return .string s
  | .array items => do
    let values ← Json.itemValues items #[]
    newList values
  | .object members => do
    let o ← newBlank
    Json.storeMembers o members
    return .object o

/-- The values of an array's items, after those already made. -/
def Json.itemValues : List Json → Array Value → Action (Array Value)
  | [], done => return done
  | j :: rest, done => do
    let v ← Json.toValue j
    Json.itemValues rest (done.push v)

/-- Store the members of a JSON object. -/
def Json.storeMembers (o : ObjectId) : List (String × Json) → Action Unit
  | [] => return ()
  | (name, j) :: rest => do
    let v ← Json.toValue j
    updateObject o (·.setText name v)
    Json.storeMembers o rest

end

/-- The value of the document that a text is. -/
def decodeJson (text : String) : Action Value :=
  match Json.read text with
  | .ok j => j.toValue
  | .error detail => fail (.documentSyntax detail)

end StubMachine
