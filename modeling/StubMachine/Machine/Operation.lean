import StubMachine.Machine.Conversion

/-!
# Operations

An operator is applied according to the kind of its left operand, or of its only one.
Numbers, booleans and strings have operators of their own and convert the right operand
to their kind; Empty and types only know equality; objects look for an overload in
their attribute set.  **Comparing with Empty on the right for equality never fails**,
whatever is on the left, overloads apart.

The bitwise operators work on numbers cut to 64-bit two's-complement integers.
-/

namespace StubMachine

open StubMachine.Action

/-! ## Numbers -/

namespace Arithmetic

/-- The 64-bit integer of a number, as bits. -/
def bits (x : Float) : BitVec 64 := BitVec.ofInt 64 (Binary64.toSigned 64 x)

/-- The number of a 64-bit integer. -/
def ofBits (b : BitVec 64) : Float := Binary64.ofInteger b.toInt

/-- The distance of a shift: the low six bits of the integer. -/
def shiftDistance (x : Float) : Nat := (bits x).toNat % 64

/-- How two numbers compare, unless one of them is a NaN. -/
def compare? (a b : Float) : Option Ordering :=
  if a < b then some .lt else if a == b then some .eq else if b < a then some .gt else none

end Arithmetic

/-- Whether a comparison holds of operands that compare in a given way; operands that do
not compare at all differ, and nothing else. -/
def Operator.holds (op : Operator) : Option Ordering → Bool
  | none => op = .notEqual
  | some c =>
    match op with
    | .equal => c = .eq
    | .notEqual => c ≠ .eq
    | .less => c = .lt
    | .greater => c = .gt
    | .lessEqual => c ≠ .gt
    | .greaterEqual => c ≠ .lt
    | _ => false

/-- An operator on two numbers, if it has a meaning for them. -/
def numberOperation (op : Operator) (a b : Float) : Option Value :=
  match op with
  | .add => some (.number (a + b))
  | .subtract => some (.number (a - b))
  | .divide => some (.number (a / b))
  | .multiply => some (.number (a * b))
  | .modulo => some (.number (Binary64.remainder a b))
  | .power => some (.number (Float.pow a b))
  | .bitAnd => some (.number (Arithmetic.ofBits (Arithmetic.bits a &&& Arithmetic.bits b)))
  | .bitOr => some (.number (Arithmetic.ofBits (Arithmetic.bits a ||| Arithmetic.bits b)))
  | .bitXor => some (.number (Arithmetic.ofBits (Arithmetic.bits a ^^^ Arithmetic.bits b)))
  | .shiftLeft =>
    some (.number (Arithmetic.ofBits (Arithmetic.bits a <<< Arithmetic.shiftDistance b)))
  | .shiftRight =>
    some (.number
      (Arithmetic.ofBits ((Arithmetic.bits a).sshiftRight (Arithmetic.shiftDistance b))))
  | _ =>
    if op.isComparison then some (.boolean (op.holds (Arithmetic.compare? a b))) else none

/-! ## Applying operators -/

/-- Raise the error about an operator that an operand does not have. -/
def raiseUndefined {α : Type} (symbol : String) (operand : Value) : Action α :=
  raise (.undefinedOperator symbol operand.kind)

/-- Whether a number converts its right operand before it looks at the operator. -/
def convertsOperand : Operator → Bool
  | .transform | .arrow | .and | .or => false
  | _ => true

/-- **Apply an operator to two operands.** -/
def binaryOperation (e : Engine) (op : Operator) (l r : Value) : Action Value := do
  match l, r, op with
  | .object o, _, _ =>
    match ← read fun m => m.attribute? o op.symbol with
    | some overload => e.call overload [("value", r)]
    | none =>
      match op with
      | .equal => return .boolean (l.same r)
      | .notEqual => return .boolean (!l.same r)
      | _ => raiseUndefined op.symbol l
  | _, .empty, .equal => return .boolean l.isEmpty
  | _, .empty, .notEqual => return .boolean (!l.isEmpty)
  | .number a, _, _ =>
    if convertsOperand op then
      match numberOperation op a (← asNumber e r) with
      | some v => return v
      | none => raiseUndefined op.symbol l
    else raiseUndefined op.symbol l
  | .boolean a, _, _ =>
    match op with
    | .and => if a then return .boolean (← asBoolean e r) else return .boolean false
    | .or => if a then return .boolean true else return .boolean (← asBoolean e r)
    | .equal => return .boolean (a == (← asBoolean e r))
    | .notEqual => return .boolean (a != (← asBoolean e r))
    | _ => raiseUndefined op.symbol l
  | .string a, _, _ =>
    if op = .add then return .string (a ++ (← asString e r))
    else if op.isComparison then
      return .boolean (op.holds (some (compare a (← asString e r))))
    else raiseUndefined op.symbol l
  | .empty, _, _ =>
    match op with
    | .equal => return .boolean false
    | .notEqual => return .boolean true
    | _ => raiseUndefined op.symbol l
  | .type _, _, _ =>
    match op with
    | .equal => return .boolean (l.same r)
    | .notEqual => return .boolean (!l.same r)
    | _ => raiseUndefined op.symbol l

/-- **Apply an operator to one operand.** -/
def unaryOperation (e : Engine) (op : Operator) (v : Value) : Action Value := do
  match op, v with
  | .not, .boolean b => return .boolean (!b)
  | .negate, .number n => return .number (-n)
  | .bitNot, .number n => return .number (Arithmetic.ofBits (~~~Arithmetic.bits n))
  | _, .object o =>
    match ← read fun m => m.attribute? o op.symbol with
    | some overload => e.call overload []
    | none => raiseUndefined op.symbol v
  | _, _ => raiseUndefined op.symbol v

/-- **Combine a current value with an operand**, as an assignment asks.  The result is
what is to be stored; there is none if the current value is an object that changes
itself through an overload of the assignment. -/
def compoundAssignment (e : Engine) (a : Assignment) (current operand : Value) :
    Action (Option Value) := do
  match a.operator? with
  | none => return some operand
  | some op =>
    let overload ← match current with
      | .object o => read fun m => m.attribute? o a.symbol
      | _ => pure none
    match overload with
    | some overload =>
      let _ ← e.call overload [("value", operand)]
      return none
    | none => return some (← binaryOperation e op current operand)

end StubMachine
