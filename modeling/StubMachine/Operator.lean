/-!
# Operators

The operators that instructions apply and the assignment operators that combine an
operator with a write.  Both are numbered in the order of their lists; each has the
symbol under which an object's attribute set can overload it.
-/

namespace StubMachine

/-- An operator on one or two values. -/
inductive Operator
  | add
  | subtract
  | divide
  | multiply
  | modulo
  | power
  | and
  | or
  | bitAnd
  | bitOr
  | bitXor
  | shiftLeft
  | shiftRight
  | equal
  | notEqual
  | less
  | greater
  | lessEqual
  | greaterEqual
  | transform
  | arrow
  | not
  | negate
  | bitNot
  | pound
deriving DecidableEq, Repr

namespace Operator

/-- The operators in the order of their numbers. -/
def all : Array Operator := #[
  add, subtract, divide, multiply, modulo, power, and, or, bitAnd, bitOr, bitXor, shiftLeft,
  shiftRight, equal, notEqual, less, greater, lessEqual, greaterEqual, transform, arrow, not,
  negate, bitNot, pound]

/-- The operator with a number. -/
def ofId? (id : Nat) : Option Operator := all[id]?

/-- The number of an operator. -/
def toId (op : Operator) : Nat := all.toList.idxOf op

/-- Whether the operator takes a single operand. -/
def isUnary : Operator → Bool
  | not | negate | bitNot | pound => true
  | _ => false

/-- Whether the operator compares. -/
def isComparison : Operator → Bool
  | equal | notEqual | less | greater | lessEqual | greaterEqual => true
  | _ => false

/-- The symbol under which the operator is overloaded. -/
def symbol : Operator → String
  | add => "+"
  | subtract => "-"
  | divide => "/"
  | multiply => "*"
  | modulo => "%"
  | power => "**"
  | and => "&&"
  | or => "||"
  | bitAnd => "&"
  | bitOr => "|"
  | bitXor => "^"
  | shiftLeft => "<<"
  | shiftRight => ">>"
  | equal => "=="
  | notEqual => "!="
  | less => "<"
  | greater => ">"
  | lessEqual => "<="
  | greaterEqual => ">="
  | transform => "<>"
  | arrow => "->"
  | not => "!"
  | negate => "-"
  | bitNot => "~"
  | pound => "#"

end Operator

/-- An assignment, plain or combined with an operator. -/
inductive Assignment
  | set
  | add
  | subtract
  | multiply
  | divide
  | modulo
  | power
  | bitAnd
  | bitOr
  | bitXor
  | shiftLeft
  | shiftRight
deriving DecidableEq, Repr

namespace Assignment

/-- The assignments in the order of their numbers. -/
def all : Array Assignment := #[
  set, add, subtract, multiply, divide, modulo, power, bitAnd, bitOr, bitXor, shiftLeft,
  shiftRight]

/-- The assignment with a number. -/
def ofId? (id : Nat) : Option Assignment := all[id]?

/-- The operator that a compound assignment applies; a plain one applies none. -/
def operator? : Assignment → Option Operator
  | set => none
  | add => some .add
  | subtract => some .subtract
  | multiply => some .multiply
  | divide => some .divide
  | modulo => some .modulo
  | power => some .power
  | bitAnd => some .bitAnd
  | bitOr => some .bitOr
  | bitXor => some .bitXor
  | shiftLeft => some .shiftLeft
  | shiftRight => some .shiftRight

/-- The symbol under which the assignment is overloaded. -/
def symbol (a : Assignment) : String :=
  match a.operator? with
  | none => "="
  | some op => op.symbol ++ "="

end Assignment

end StubMachine
