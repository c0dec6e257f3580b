import StubMachine.Machine.Access
import StubMachine.Native.Argument

/-!
# Native functions on objects

The functions that change an object write to its entries directly.  Those that take a
function call it on the values under the indices, in order, as they were when the
function started: **what the calls do to the object does not change what they see**.

Sorting is a stable merge sort.  It writes the object once, after all comparisons.
-/

namespace StubMachine.Native

open StubMachine.Action

/-! ## Writing -/

/-- Append a value; the result is the object. -/
def push (args : Array Value) : Action Value := do
  let o ← baseObject args
  updateObject o (·.push (argument args 1))
  return .object o

/-- Insert a value before the one at a position, or at the end. -/
def insert (args : Array Value) : Action Value := do
  let o ← baseObject args
  let position ← indexArgument args 1 "at"
  let size := (← objectAt o).indices.size
  if size < position then fail (.insertPosition position size)
  updateObject o fun object =>
    { object with indices := object.indices.insertIdxIfInBounds position (argument args 2) }
  return .object o

/-- Remove a key; the result is the value it had. -/
def remove (args : Array Value) : Action Value := do
  let o ← baseObject args
  match Key.ofValue (argument args 1) with
  | .error f => fail (.key f)
  | .ok k =>
    let removed := (← objectAt o).get? k
    updateObject o (·.remove k)
    return .ofOption removed

/-- Give an object an attribute set, or take it away. -/
def setAttributes (args : Array Value) : Action Value := do
  let o ← baseObject args
  let attributes ← match argument args 1 with
    | .empty => pure none
    | .object a => pure (some a)
    | v => fail (.objectExpected "attributes" v.kind)
  updateObject o fun object => { object with attributes }
  return .object o

/-- Cut the indices to a size or extend them. -/
def setSize (args : Array Value) : Action Value := do
  let o ← baseObject args
  let size ← indexArgument args 1 "size"
  if Object.maxIndex + 1 < size then fail (.sizeTooLarge size)
  updateObject o (·.resize size)
  return .object o

/-! ## Sorting -/

/-- Merge two runs; an element of the first goes before one of the second unless `order`
says otherwise. -/
def mergeRuns (order : Value → Value → Action Bool) :
    List Value → List Value → Action (List Value)
  | [], right => return right
  | left, [] => return left
  | a :: left, b :: right => do
    if ← order a b then return a :: (← mergeRuns order left (b :: right))
    else return b :: (← mergeRuns order (a :: left) right)
termination_by left right => left.length + right.length

/-- Sort values: halve, sort both halves, merge. -/
def mergeSort (order : Value → Value → Action Bool) (values : List Value) :
    Action (List Value) := do
  if h : values.length < 2 then return values
  else
    let middle := values.length / 2
    let left ← mergeSort order (values.take middle)
    let right ← mergeSort order (values.drop middle)
    mergeRuns order left right
termination_by values.length
decreasing_by
  all_goals simp only [List.length_take, List.length_drop]; omega

/-- Whether a comparator puts the first value before the second or leaves them be. -/
def inOrder (e : Engine) (comparator a b : Value) : Action Bool := do
  let verdict ← e.call comparator [("a", a), ("b", b)]
  return (← asNumber e verdict) ≤ 0.0

/-- **Sort the values under the indices** by a comparator. -/
def sort (e : Engine) (args : Array Value) : Action Value := do
  let o ← baseObject args
  let comparator ← functionArgument args 1 "comparator"
  let values := (← objectAt o).indices.toList
  let sorted ← mergeSort (inOrder e comparator) values
  updateObject o fun object => { object with indices := sorted.toArray }
  return .object o

/-! ## Calling a function on the values -/

/-- The values under the indices of the base, and the function to call on them. -/
def snapshot (args : Array Value) (what : String) : Action (List Value × Value) := do
  let o ← baseObject args
  let function ← functionArgument args 1 what
  return ((← objectAt o).indices.toList, function)

/-- The values for which the function's result counts as true, as a new list. -/
def filter (e : Engine) (args : Array Value) : Action Value := do
  let (values, by_) ← snapshot args "by"
  let kept ← values.filterM fun v => do asBoolean e (← e.call by_ [("value", v)])
  newList kept.toArray

/-- The function's results, as a new list. -/
def map (e : Engine) (args : Array Value) : Action Value := do
  let (values, function) ← snapshot args "to"
  let mapped ← values.mapM fun v => e.call function [("value", v)]
  newList mapped.toArray

/-- The values folded by the function, starting from Empty. -/
def reduce (e : Engine) (args : Array Value) : Action Value := do
  let (values, function) ← snapshot args "to"
  values.foldlM (fun previous v => e.call function [("previous", previous), ("value", v)]) .empty

/-- Whether the function's result is `wanted` for one of the values; the first such value
ends the search. -/
def search (e : Engine) (condition : Value) (wanted : Bool) : List Value → Action Bool
  | [] => return false
  | v :: rest => do
    let verdict ← e.call condition [("value", v)]
    if (← asBoolean e verdict) == wanted then return true
    else search e condition wanted rest

/-- Whether the function's result counts as true for some value. -/
def any (e : Engine) (args : Array Value) : Action Value := do
  let (values, condition) ← snapshot args "condition"
  return .boolean (← search e condition true values)

/-- Whether the function's result counts as true for all values. -/
def all (e : Engine) (args : Array Value) : Action Value := do
  let (values, condition) ← snapshot args "condition"
  return .boolean (!(← search e condition false values))

/-- Call a function on every key and its value. -/
def foreach (e : Engine) (args : Array Value) : Action Value := do
  let o ← baseObject args
  let body ← functionArgument args 1 "do"
  let keys ← objectKeys e o
  let values ← objectValues e o
  for (key, value) in keys.zip values do
    let _ ← e.call body [("key", key), ("value", value)]
  return .object o

/-! ## Looking -/

/-- The first index of a value, or minus one. -/
def findIndex (args : Array Value) : Action Value := do
  let o ← baseObject args
  let wanted := argument args 1
  match (← objectAt o).indices.findIdx? (·.same wanted) with
  | some i => return .ofNat i
  | none => return .number (-1.0)

/-- The part of a text or of an object's indices from one position to another, both
included. -/
def subset (args : Array Value) : Action Value := do
  let low ← indexArgument args 1 "from"
  let high ← indexArgument args 2 "to"
  if high < low then fail (.subsetReversed low high)
  match argument args 0 with
  | .string s =>
    if s.length ≤ high then fail (.subsetText high s.length)
    return .string (String.ofList ((s.toList.drop low).take (high - low + 1)))
  | .object o =>
    let values := (← objectAt o).indices
    if values.size ≤ high then fail (.subsetIndices high values.size)
    newList (values.extract low (high + 1))
  | v => fail (.subsetBase v.kind)

/-! ## Interfaces -/

/-- The member that a string entry becomes. -/
def memberOf (m : Machine) (name : String) (v : Value) : Except Fault Member :=
  if m.isFunction v then .ok (.method v)
  else
    match v with
    | .object pair =>
      let getter := ((m.object pair).text? "get").bind Value.nonEmpty?
      let setter := ((m.object pair).text? "set").bind Value.nonEmpty?
      if getter.isNone && setter.isNone then .error (.accessorNeeded name)
      else .ok (.accessor getter setter)
    | v => .error (.memberKind name v.kind)

/-- The members that string entries become, in order. -/
def membersOf (m : Machine) (entries : List (String × Value)) :
    Except Fault (List (String × Member)) :=
  entries.mapM fun (name, v) => do return (name, ← memberOf m name v)

/-- The value that a member turns back into: an accessor becomes a new object. -/
def memberValue : Member → Action Value
  | .method function => return function
  | .accessor getter setter => do
    let o ← newObject ((Object.blank.setText "get" (.ofOption getter)).setText "set"
      (.ofOption setter))
    return .object o

/-- Turn the members of an interface back into entries. -/
def dropInterface (o : ObjectId) (members : List (String × Member)) : Action Unit := do
  updateObject o fun object => { object with facet := .plain }
  for (name, member) in members do
    let v ← memberValue member
    updateObject o (·.setText name v)

/-- Turn the string entries of an object into members, with a private binding. -/
def raiseInterface (o : ObjectId) (binding : Option Value) : Action Unit := do
  let entries := (← objectAt o).strings.toList
  match ← read fun m => membersOf m entries with
  | .error f => fail f
  | .ok members =>
    updateObject o fun object =>
      { object with
        strings := members.foldl (fun strings e => strings.erase e.1) object.strings
        facet := .interface (OrderedMap.ofList members) binding }

/-- **Turn an object into an interface or back.**  An object that already is an interface
keeps its members; only a private binding that is given replaces the old one. -/
def setIsInterface (e : Engine) (args : Array Value) : Action Value := do
  let o ← baseObject args
  let enabled ← asBoolean e (argument args 1)
  let binding := (argument args 2).nonEmpty?
  match (← objectAt o).facet with
  | .record _ => fail .recordInterface
  | .interface members current =>
    if enabled then
      updateObject o fun object =>
        { object with facet := .interface members (binding.or current) }
    else dropInterface o members.toList
  | _ => if enabled then raiseInterface o binding
  return .object o

end StubMachine.Native
