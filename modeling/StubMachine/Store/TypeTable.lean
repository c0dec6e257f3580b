import StubMachine.OrderedMap
import StubMachine.Store.Value

/-!
# Types

Types are nominal: each creation makes a new type, with a number of its own.  A type
may name several parents.  **Its ancestry is flattened when it is created**: every
parent followed by that parent's ancestry, each type once, so that whether an object is
an instance of a type is a look-up in one list.

A type may carry a **layout**, a fixed list of string keys with the type that each
entry must have.  The layout of a new type is what it declares itself, followed by what
its ancestors declare; declaring one key with two types is a fault.
-/

namespace StubMachine

/-- The types that exist in every machine. -/
inductive BuiltinType
  | empty
  | boolean
  | number
  | string
  | object
  | function
  | type
  /-- The type of everything. -/
  | any
  /-- The type of Empty and of every object. -/
  | nullable
deriving DecidableEq, Repr

namespace BuiltinType

/-- The builtin types in the order of their numbers, which start at one. -/
def all : Array BuiltinType :=
  #[empty, boolean, number, string, object, function, type, any, nullable]

/-- The number of a builtin type. -/
def id : BuiltinType → TypeId
  | empty => ⟨1⟩
  | boolean => ⟨2⟩
  | number => ⟨3⟩
  | string => ⟨4⟩
  | object => ⟨5⟩
  | function => ⟨6⟩
  | type => ⟨7⟩
  | any => ⟨8⟩
  | nullable => ⟨9⟩

/-- The builtin type with a number. -/
def ofId? (t : TypeId) : Option BuiltinType := all.find? fun b => b.id == t

/-- The name of a builtin type. -/
def name : BuiltinType → String
  | empty => "Empty"
  | boolean => "Boolean"
  | number => "Number"
  | string => "String"
  | object => "Object"
  | function => "Function"
  | type => "Type"
  | any => "Any"
  | nullable => "Nullable"

end BuiltinType

/-- The string keys that records of a type have, each with the type of its entry. -/
abbrev Layout := OrderedMap String TypeId

/-- What the type table knows of a type. -/
structure TypeRecord where
  name : String
  /-- All types it descends from, nearest first, each once. -/
  ancestry : List TypeId
  layout : Option Layout
deriving Inhabited

/-- Why a type could not be created. -/
inductive TypeFault
  /-- A list of parents was given but has no members. -/
  | noParents (name : String)
  /-- A key is declared with two types; the types are given by name. -/
  | conflict (name key existing inherited : String)
deriving DecidableEq, Repr

/-- The words for a refused creation. -/
def TypeFault.message : TypeFault → String
  | noParents name => "Type '" ++ name ++ "' has an empty inherits list"
  | conflict name key existing inherited =>
    "Type '" ++ name ++ "' inherits conflicting layout entry '" ++ key ++ "' (" ++ existing
      ++ " vs " ++ inherited ++ ")"

/-- All types of a machine; the type with number `n` stands at place `n - 1`. -/
structure TypeTable where
  records : Array TypeRecord

namespace TypeTable

/-- The table of the builtin types. -/
def initial : TypeTable := ⟨BuiltinType.all.map fun b => ⟨b.name, [], none⟩⟩

/-- What is known of a type. -/
def record? (table : TypeTable) (t : TypeId) : Option TypeRecord :=
  match t.number with
  | 0 => none
  | n + 1 => table.records[n]?

/-- The name of a type. -/
def name (table : TypeTable) (t : TypeId) : String :=
  ((table.record? t).map TypeRecord.name).getD ""

/-- The ancestry of a type. -/
def ancestry (table : TypeTable) (t : TypeId) : List TypeId :=
  ((table.record? t).map TypeRecord.ancestry).getD []

/-- The layout of a type. -/
def layout? (table : TypeTable) (t : TypeId) : Option Layout :=
  (table.record? t).bind TypeRecord.layout

/-! ## Creation -/

/-- A list of types with a type added unless it is there. -/
def addOnce (types : List TypeId) (t : TypeId) : List TypeId :=
  if types.contains t then types else types ++ [t]

/-- The ancestry that a list of parents gives. -/
def ancestryOf (table : TypeTable) (parents : List TypeId) : List TypeId :=
  (parents.flatMap fun p => p :: table.ancestry p).foldl addOnce []

/-- Take one inherited entry into a layout. -/
def mergeEntry (table : TypeTable) (name : String) (target : Layout) (entry : String × TypeId) :
    Except TypeFault Layout :=
  match target.get? entry.1 with
  | none => .ok (target.insert entry.1 entry.2)
  | some existing =>
    if existing = entry.2 then .ok target
    else .error (.conflict name entry.1 (table.name existing) (table.name entry.2))

/-- Take the layout of one ancestor, if it has one, into what is declared so far. -/
def mergeAncestor (table : TypeTable) (name : String) (merged : Option Layout) (t : TypeId) :
    Except TypeFault (Option Layout) :=
  match table.layout? t with
  | none => .ok merged
  | some inherited => do
    let target ← inherited.toList.foldlM (table.mergeEntry name) (merged.getD OrderedMap.empty)
    return some target

/-- **Create a type** with the given parents and own layout.  A refused creation leaves
no trace. -/
def create (table : TypeTable) (name : String) (parents : Option (List TypeId))
    (layout : Option Layout) : Except TypeFault (TypeId × TypeTable) := do
  if parents.any List.isEmpty then throw (.noParents name)
  let ancestry := table.ancestryOf (parents.getD [])
  let merged ← ancestry.foldlM (table.mergeAncestor name) layout
  return (⟨table.records.size + 1⟩, ⟨table.records.push ⟨name, ancestry, merged⟩⟩)

/-! ## Instances -/

/-- The type of a value that is not an object. -/
def plainType : Value → BuiltinType
  | .empty => .empty
  | .boolean _ => .boolean
  | .number _ => .number
  | .string _ => .string
  | .type _ => .type
  | .object _ => .object

/-- Whether a value that is not an object is an instance of a type. -/
def plainIsA (v : Value) (t : TypeId) : Bool :=
  t == BuiltinType.any.id || t == (plainType v).id ||
    (v.isEmpty && t == BuiltinType.nullable.id)

/-- Whether an object of type `own` is an instance of a type. -/
def objectIsA (table : TypeTable) (own : TypeId) (isFunction : Bool) (t : TypeId) : Bool :=
  if t = BuiltinType.any.id ∨ t = BuiltinType.nullable.id ∨ t = BuiltinType.object.id then true
  else if t = BuiltinType.function.id then isFunction
  else own == t || (table.ancestry own).contains t

end TypeTable

end StubMachine
