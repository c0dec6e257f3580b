import StubMachine.Machine.Engine

/-!
# Members

Reading and writing a member of an object takes one of three ways, tried in this order.

* **An interface** answers for its members and for nothing else: a method is handed out,
  an accessor's getter or setter is called, with the private binding at hand.
* **An accessor attribute**, under `[]` or `.` in the attribute set, takes over the
  access if it has a part for it.  A plain function there is a getter.
* Otherwise the entries are read and written directly; a record admits only the keys of
  its layout and values of their types.

A function has no members at all.
-/

namespace StubMachine

open StubMachine.Action

/-- The two ways to write an access, each with an attribute of its own. -/
inductive Accessor
  | bracket
  | dot
deriving DecidableEq, Repr

namespace Accessor

/-- The accessor with a number; everything but one is a bracket. -/
def ofId (id : Nat) : Accessor := if id = 1 then dot else bracket

/-- The attribute that takes over accesses of this form. -/
def symbol : Accessor → String
  | bracket => "[]"
  | dot => "."

end Accessor

/-- The way an access takes. -/
inductive Route
  | member (name : String) (member : Option Member) (binding : Option Value)
  /-- A record, with the type that the layout gives the key. -/
  | record (declared : Option TypeId)
  | plain

/-- The object that an access goes to, and the way it takes. -/
def routeTo (target key : Value) (write : Bool) : Action (ObjectId × Route) := do
  match target with
  | .object o =>
    let object ← objectAt o
    match object.facet with
    | .function _ => raise .functionMembers
    | .interface members binding =>
      match key with
      | .string name => return (o, .member name (members.get? name) binding)
      | _ => raise .interfaceKey
    | .record layout => return (o, .record (key.text?.bind layout.get?))
    | .plain => return (o, .plain)
  | v => raise (.noMembers write v.kind)

/-- The function that takes over reads of an object, if there is one. -/
def Machine.getterOf? (m : Machine) (o : ObjectId) (a : Accessor) : Option Value :=
  match m.attribute? o a.symbol with
  | some (.object p) =>
    if (m.object p).isFunction then some (.object p)
    else ((m.object p).text? "get").filter m.isFunction
  | _ => none

/-- The function that takes over writes of an object, if there is one. -/
def Machine.setterOf? (m : Machine) (o : ObjectId) (a : Accessor) : Option Value :=
  match m.attribute? o a.symbol with
  | some (.object p) =>
    if (m.object p).isFunction then none
    else ((m.object p).text? "set").filter m.isFunction
  | _ => none

/-- Raise the error about a key that a record does not have. -/
def raiseRecordKey {α : Type} (o : ObjectId) (key : Value) : Action α := do
  let owner ← read fun m => m.types.name (m.object o).type
  let shown := match key with
    | .string s => "'" ++ s ++ "'"
    | v => v.kind.name
  raise (.recordKey shown owner)

/-- The value an object stores under a key, Empty if there is none or no such key. -/
def readEntry (o : ObjectId) (key : Value) : Action Value := do
  match Key.ofValue key with
  | .ok k => return .ofOption ((← objectAt o).get? k)
  | .error _ => return .empty

/-- Store a value under a key, unless the key may not be written. -/
def writeEntry (o : ObjectId) (key v : Value) : Action Unit := do
  match Key.ofValue key with
  | .error f => raise (.key f)
  | .ok k =>
    match (← objectAt o).writeFault? k with
    | some f => raise (.key f)
    | none => updateObject o (·.set k v)

/-- **Read a member.** -/
def getMember (e : Engine) (target key : Value) (a : Accessor) : Action Value := do
  match ← routeTo target key false with
  | (_, .member name member binding) =>
    match member with
    | some (.method function) => return function
    | some (.accessor (some getter) _) => e.callBound getter [] binding
    | some (.accessor none _) => raise (.memberUnreadable name)
    | none => raise (.memberMissing name)
  | (o, route) =>
    match ← read fun m => m.getterOf? o a with
    | some getter => e.call getter [("key", key)]
    | none =>
      match route with
      | .record none => raiseRecordKey o key
      | .record (some _) => readEntry o key
      | _ =>
        match key with
        | .empty => raise (.key .emptyKey)
        | _ => readEntry o key

/-- **Write a member**; the result is the value written. -/
def setMember (e : Engine) (target key v : Value) (a : Accessor) : Action Value := do
  match ← routeTo target key true with
  | (_, .member name member binding) =>
    match member with
    | some (.accessor _ (some setter)) =>
      let _ ← e.callBound setter [("value", v)] binding
      return v
    | some _ => raise (.memberUnwritable name)
    | none => raise (.memberMissing name)
  | (o, route) =>
    match ← read fun m => m.setterOf? o a with
    | some setter =>
      let _ ← e.call setter [("key", key), ("value", v)]
      return v
    | none =>
      match route with
      | .record none => raiseRecordKey o key
      | .record (some t) =>
        if ← read fun m => m.isA v t then
          writeEntry o key v
          return v
        else
          let wanted ← read fun m => m.types.name t
          raise (.recordType (key.text?.getD "") wanted (← typeName v))
      | _ =>
        writeEntry o key v
        return v

/-! ## Enumeration -/

/-- The values that an attribute supplies in place of the keys or values of an object:
those of the object it is or, if it is a function, returns. -/
def enumerationOverride (e : Engine) (hook : Value) (what : String) : Action (List Value) := do
  let result ← if ← isFunction hook then e.call hook [] else pure hook
  match result with
  | .object o => return (← objectAt o).indices.toList
  | v => raise (.enumerationHook what v.kind)

/-- **The keys of an object**, or what its attribute `keys` supplies. -/
def objectKeys (e : Engine) (o : ObjectId) : Action (List Value) := do
  match ← read fun m => m.attribute? o "keys" with
  | some hook => enumerationOverride e hook "keys"
  | none => return (← objectAt o).keys

/-- The value under one key of an interface: a member is read, anything else is looked
up. -/
def interfaceValue (e : Engine) (o : ObjectId) (key : Value) : Action Value :=
  match key with
  | .string _ => getMember e (.object o) key .dot
  | _ => readEntry o key

/-- **The values of an object** in the order of its keys, or what its attribute `values`
supplies. -/
def objectValues (e : Engine) (o : ObjectId) : Action (List Value) := do
  match ← read fun m => m.attribute? o "values" with
  | some hook => enumerationOverride e hook "values"
  | none =>
    let object ← objectAt o
    if object.interface?.isNone then return object.values
    object.keys.mapM (interfaceValue e o)

end StubMachine
