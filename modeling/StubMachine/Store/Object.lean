import StubMachine.Store.Scope
import StubMachine.Store.TypeTable

/-!
# Objects

An object is an ordered map whose keys may be of any kind.  Its entries are kept in one
partition for each kind of key: strings, indices from zero on without gaps, booleans,
objects, types.

An object may have a **facet**, which changes what it is: a function can be called and
has no entries; a record has exactly the string keys of its layout; an interface has
members in place of string entries.  Apart from the facet an object may have an
**attribute set**, another object that holds overloads and hooks.
-/

namespace StubMachine

/-- What makes an object callable. -/
structure FunctionFacet where
  stub : Stub
  captures : Array Capture
  /-- The types of the parameters, then that of the result. -/
  types : Option (Array TypeId)
  /-- The scope in which the function was made. -/
  origin : Scope
  /-- A value handed on as the argument `base`. -/
  boundBase : Option Value

/-- A function of a stub that captures nothing. -/
def FunctionFacet.ofStub (stub : Stub) : FunctionFacet := ⟨stub, #[], none, [], none⟩

/-- A member of an interface. -/
inductive Member
  /-- A function that is handed out as it is. -/
  | method (function : Value)
  /-- Functions that answer reads and writes. -/
  | accessor (getter setter : Option Value)

/-- What an object is besides a map. -/
inductive Facet
  | plain
  | function (f : FunctionFacet)
  | record (layout : Layout)
  /-- The members, and the private binding that accessors are called with. -/
  | interface (members : OrderedMap String Member) (binding : Option Value)

/-- An object. -/
structure Object where
  type : TypeId
  strings : OrderedMap String Value
  indices : Array Value
  booleans : List (Bool × Value)
  objects : OrderedMap ObjectId Value
  types : OrderedMap TypeId Value
  facet : Facet
  attributes : Option ObjectId

namespace Object

/-- The largest index to which a write may extend the indices. -/
def maxIndex : Nat := Nat.pow 2 24 - 1

/-- An object of a type, without entries. -/
def ofType (type : TypeId) (facet : Facet) : Object :=
  ⟨type, OrderedMap.empty, #[], [], OrderedMap.empty, OrderedMap.empty, facet, none⟩

/-- An object without entries and facet. -/
def blank : Object := ofType BuiltinType.object.id .plain

instance : Inhabited Object := ⟨blank⟩

/-! ## Facets -/

/-- The function facet, if the object is a function. -/
def function? (o : Object) : Option FunctionFacet :=
  match o.facet with
  | .function f => some f
  | _ => none

/-- Whether the object is a function. -/
def isFunction (o : Object) : Bool := o.function?.isSome

/-- The layout, if the object is a record. -/
def layout? (o : Object) : Option Layout :=
  match o.facet with
  | .record layout => some layout
  | _ => none

/-- The members and the private binding, if the object is an interface. -/
def interface? (o : Object) : Option (OrderedMap String Member × Option Value) :=
  match o.facet with
  | .interface members binding => some (members, binding)
  | _ => none

/-- Whether the indices do not count as keys. -/
def hidesIndices (o : Object) : Bool :=
  match o.facet with
  | .record _ | .interface _ _ => true
  | _ => false

/-! ## Entries -/

/-- The value stored under a key, whatever the facet and the attributes say. -/
def get? (o : Object) : Key → Option Value
  | .string s => o.strings.get? s
  | .index i => o.indices[i]?
  | .boolean b => (o.booleans.find? (·.1 == b)).map Prod.snd
  | .object k => o.objects.get? k
  | .type t => o.types.get? t

/-- The value stored under a string key. -/
def text? (o : Object) (name : String) : Option Value := o.strings.get? name

/-- A value stored under an index; a gap before it is filled with Empty. -/
def setIndex (values : Array Value) (i : Nat) (v : Value) : Array Value :=
  if i < values.size then values.setIfInBounds i v
  else (values ++ Array.replicate (i - values.size) Value.empty).push v

/-- A value stored under a boolean key, at its old place if it has one. -/
def setBoolean (b : Bool) (v : Value) : List (Bool × Value) → List (Bool × Value)
  | [] => [(b, v)]
  | (k, w) :: rest => if k == b then (k, v) :: rest else (k, w) :: setBoolean b v rest

/-- Store a value under a key. -/
def set (o : Object) (k : Key) (v : Value) : Object :=
  match k with
  | .string s => { o with strings := o.strings.insert s v }
  | .index i => { o with indices := setIndex o.indices i v }
  | .boolean b => { o with booleans := setBoolean b v o.booleans }
  | .object k => { o with objects := o.objects.insert k v }
  | .type t => { o with types := o.types.insert t v }

/-- Why a key may not be written, if it may not: an index past the end must not exceed
`maxIndex`. -/
def writeFault? (o : Object) : Key → Option KeyFault
  | .index i =>
    if o.indices.size ≤ i ∧ maxIndex < i then some (.invalidIndex (Binary64.ofInteger i)) else none
  | _ => none

/-- Store a value under a string key. -/
def setText (o : Object) (name : String) (v : Value) : Object :=
  { o with strings := o.strings.insert name v }

/-- Remove a key; removing an index moves the later ones down. -/
def remove (o : Object) : Key → Object
  | .string s => { o with strings := o.strings.erase s }
  | .index i => { o with indices := o.indices.eraseIdxIfInBounds i }
  | .boolean b => { o with booleans := o.booleans.eraseP (·.1 == b) }
  | .object k => { o with objects := o.objects.erase k }
  | .type t => { o with types := o.types.erase t }

/-- Append a value to the indices. -/
def push (o : Object) (v : Value) : Object := { o with indices := o.indices.push v }

/-- Cut the indices to a size, or extend them with Empty. -/
def resize (o : Object) (size : Nat) : Object :=
  { o with
    indices :=
      if size ≤ o.indices.size then o.indices.take size
      else o.indices ++ Array.replicate (size - o.indices.size) Value.empty }

/-! ## Enumeration -/

/-- The string keys: for an interface, the names of its members. -/
def textKeys (o : Object) : List String :=
  match o.facet with
  | .interface members _ => members.keys
  | _ => o.strings.keys

/-- The indices that count as keys. -/
def shownIndices (o : Object) : Array Value := if o.hidesIndices then #[] else o.indices

/-- The number of keys. -/
def keyCount (o : Object) : Nat :=
  o.textKeys.length + o.shownIndices.size + o.objects.size + o.booleans.length + o.types.size

/-- **The keys in order**: strings, indices, objects, booleans, types. -/
def keys (o : Object) : List Value :=
  o.textKeys.map .string ++ (List.range o.shownIndices.size).map .ofNat
    ++ o.objects.keys.map .object ++ o.booleans.map (fun e => .boolean e.1)
    ++ o.types.keys.map .type

/-- The stored values, in the order of `keys`.  The members of an interface are not
among them: what they hold is known only when they are asked. -/
def values (o : Object) : List Value :=
  o.strings.values ++ o.shownIndices.toList ++ o.objects.values
    ++ o.booleans.map Prod.snd ++ o.types.values

end Object

end StubMachine
