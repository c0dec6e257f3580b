/-!
# Queries

A query asks something of a base value.  An **immediate** query is answered on the
spot; a **parameterized** one needs arguments, and asking it yields a native function
to which the base is already bound.  Queries are numbered in the order of their list.
-/

namespace StubMachine

/-- A question about a value. -/
inductive Query
  | type
  | cos
  | sin
  | tan
  | acos
  | asin
  | atan
  | atan2
  | sqrt
  | abs
  | isNaN
  | floor
  | ceil
  | round
  | toRadians
  | toDegrees
  | length
  | search
  | searchAll
  | contains
  | replace
  | count
  | charCodeAt
  | charAt
  | setCharCodeAt
  | setCharAt
  | removeChar
  | split
  | format
  | toUpper
  | toLower
  | trim
  | keyCount
  | keys
  | values
  | pop
  | attributes
  | push
  | insert
  | remove
  | setAttributes
  | sort
  | subset
  | filter
  | findIndex
  | isA
  | map
  | reduce
  | any
  | all
  | foreach
  | setSize
  | setIsInterface
  | name
deriving DecidableEq, Repr

namespace Query

/-- The queries in the order of their numbers. -/
def catalog : Array Query := #[
  type, cos, sin, tan, acos, asin, atan, atan2, sqrt, abs, isNaN, floor, ceil, round, toRadians,
  toDegrees, length, search, searchAll, contains, replace, count, charCodeAt, charAt,
  setCharCodeAt, setCharAt, removeChar, split, format, toUpper, toLower, trim, keyCount, keys,
  values, pop, attributes, push, insert, remove, setAttributes, sort, subset, filter, findIndex,
  isA, map, reduce, any, all, foreach, setSize, setIsInterface, name]

/-- The query with a number. -/
def ofId? (id : Nat) : Option Query := catalog[id]?

/-- The parameters of a parameterized query, the base first; none for an immediate
query. -/
def parameters? : Query → Option (List String)
  | atan2 => some ["base", "y"]
  | search | searchAll | contains | count | remove => some ["base", "key"]
  | replace => some ["base", "key", "with", "keys"]
  | charCodeAt | charAt | removeChar => some ["base", "index"]
  | setCharCodeAt | setCharAt => some ["base", "index", "value"]
  | split => some ["base", "token"]
  | format => some ["base", "items"]
  | push | findIndex => some ["base", "value"]
  | insert => some ["base", "at", "value"]
  | setAttributes => some ["base", "attributes"]
  | sort => some ["base", "comparator"]
  | subset => some ["base", "from", "to"]
  | filter => some ["base", "by"]
  | isA => some ["base", "type"]
  | map | reduce => some ["base", "to"]
  | any | all => some ["base", "condition"]
  | foreach => some ["base", "do"]
  | setSize => some ["base", "size"]
  | setIsInterface => some ["base", "enabled", "private"]
  | _ => none

/-- The parameterized queries in the order of their numbers. -/
def parameterized : List Query := catalog.toList.filter fun q => q.parameters?.isSome

/-- The position of a query among the parameterized ones. -/
def parameterizedIndex? (q : Query) : Option Nat := parameterized.idxOf? q

/-- The name of a query. -/
def title : Query → String
  | type => "type"
  | cos => "cos"
  | sin => "sin"
  | tan => "tan"
  | acos => "acos"
  | asin => "asin"
  | atan => "atan"
  | atan2 => "atan2"
  | sqrt => "sqrt"
  | abs => "abs"
  | isNaN => "isNaN"
  | floor => "floor"
  | ceil => "ceil"
  | round => "round"
  | toRadians => "toRadians"
  | toDegrees => "toDegrees"
  | length => "length"
  | search => "search"
  | searchAll => "searchAll"
  | contains => "contains"
  | replace => "replace"
  | count => "count"
  | charCodeAt => "charCodeAt"
  | charAt => "charAt"
  | setCharCodeAt => "setCharCodeAt"
  | setCharAt => "setCharAt"
  | removeChar => "removeChar"
  | split => "split"
  | format => "format"
  | toUpper => "toUpper"
  | toLower => "toLower"
  | trim => "trim"
  | keyCount => "keycount"
  | keys => "keys"
  | values => "values"
  | pop => "pop"
  | attributes => "attributes"
  | push => "push"
  | insert => "insert"
  | remove => "remove"
  | setAttributes => "setAttributes"
  | sort => "sort"
  | subset => "subset"
  | filter => "filter"
  | findIndex => "findIndex"
  | isA => "isa"
  | map => "map"
  | reduce => "reduce"
  | any => "any"
  | all => "all"
  | foreach => "foreach"
  | setSize => "setSize"
  | setIsInterface => "setIsInterface"
  | name => "name"

end Query

end StubMachine
