import StubMachine.Numeral.Style
import StubMachine.Text.Quoted

/-!
# Values

A value is one of six kinds of thing.  Empty, booleans, numbers and strings are plain
data.  Objects and types have identity: a value holds only their number, and what they
are is looked up in the store and in the type table.  Object numbers are given out in
the order of creation and never reused, so two object values are the same object
precisely when their numbers agree.
-/

namespace StubMachine

/-- The number of an object, counted from one in the order of creation. -/
structure ObjectId where
  serial : Nat
deriving DecidableEq, Hashable, Repr

instance lawfulHashableObjectId : LawfulHashable ObjectId := inferInstance

/-- The number of a type; one to nine are the builtin types. -/
structure TypeId where
  number : Nat
deriving DecidableEq, Hashable, Repr

instance lawfulHashableTypeId : LawfulHashable TypeId := inferInstance

/-- The six kinds of value. -/
inductive Kind
  | empty
  | boolean
  | number
  | string
  | object
  | type
deriving DecidableEq, Repr

/-- The name of a kind, as messages show it. -/
def Kind.name : Kind → String
  | empty => "Empty"
  | boolean => "Boolean"
  | number => "Number"
  | string => "String"
  | object => "Object"
  | type => "Type"

/-- A value of the machine. -/
inductive Value
  | empty
  | boolean (b : Bool)
  | number (n : Float)
  | string (s : String)
  | object (o : ObjectId)
  | type (t : TypeId)
deriving Inhabited

namespace Value

/-- The kind of a value. -/
def kind : Value → Kind
  | empty => .empty
  | boolean _ => .boolean
  | number _ => .number
  | string _ => .string
  | object _ => .object
  | type _ => .type

/-- Whether the value is Empty. -/
def isEmpty : Value → Bool
  | empty => true
  | _ => false

/-- The text of a string value. -/
def text? : Value → Option String
  | string s => some s
  | _ => none

/-- **Identity of values**: equal data, the same object, the same type.  As numbers go,
the two zeros are one and a NaN is not itself. -/
def same : Value → Value → Bool
  | empty, empty => true
  | boolean a, boolean b => a == b
  | number a, number b => a == b
  | string a, string b => a == b
  | object a, object b => a == b
  | type a, type b => a == b
  | _, _ => false

/-- A natural number as a value. -/
def ofNat (n : Nat) : Value := number (Binary64.ofInteger n)

/-- An optional value, Empty if there is none. -/
def ofOption (v : Option Value) : Value := v.getD empty

/-- A value unless it is Empty. -/
def nonEmpty? : Value → Option Value
  | empty => none
  | v => some v

end Value

/-! ## Keys -/

/-- What an entry of an object is stored under. -/
inductive Key
  | string (s : String)
  | index (i : Nat)
  | boolean (b : Bool)
  | object (o : ObjectId)
  | type (t : TypeId)

/-- Why a value cannot serve as a key. -/
inductive KeyFault
  | emptyKey
  /-- A number that is negative, infinite or a NaN, or an index out of bounds. -/
  | invalidIndex (n : Float)

/-- The words for an unusable key. -/
def KeyFault.message : KeyFault → String
  | emptyKey => "Empty cannot be used as an object key"
  | invalidIndex n => "Invalid index " ++ Style.canonical.text n

namespace Key

/-- The key a value stands for.  Numbers are cut toward zero, so a number just below
zero is the index zero. -/
def ofValue : Value → Except KeyFault Key
  | .empty => .error .emptyKey
  | .boolean b => .ok (boolean b)
  | .number n =>
    if !Binary64.isFinite n || Binary64.truncate n < 0 then .error (.invalidIndex n)
    else .ok (index (Binary64.toUnsigned 64 n))
  | .string s => .ok (string s)
  | .object o => .ok (object o)
  | .type t => .ok (type t)

/-- The value that a key is listed as. -/
def toValue : Key → Value
  | string s => .string s
  | index i => .ofNat i
  | boolean b => .boolean b
  | object o => .object o
  | type t => .type t

end Key

end StubMachine
