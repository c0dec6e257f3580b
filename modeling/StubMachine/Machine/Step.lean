import StubMachine.Machine.Asking
import StubMachine.Machine.Listen
import StubMachine.Machine.Loop
import StubMachine.Machine.Operation

/-!
# Instructions

An instruction works on the value stack of its frame: it pops its operands, the last one
pushed first, and pushes its result.  Popping from a stack with too few values is an
error.  The number in the instruction is cut to the width that the opcode asks for.
-/

namespace StubMachine

open StubMachine.Action

/-! ## The value stack -/

/-- Push a value. -/
def push (i : Nat) (v : Value) : Action Unit :=
  updateFrame i fun f => { f with stack := v :: f.stack }

/-- The top value, which stays. -/
def peek (i : Nat) : Action Value := do
  match ← readFrame i Frame.stack with
  | v :: _ => return v
  | [] => raise .stackUnderflow

/-- Take the top value. -/
def pop (i : Nat) : Action Value := do
  match ← readFrame i Frame.stack with
  | v :: rest =>
    updateFrame i fun f => { f with stack := rest }
    return v
  | [] => raise .stackUnderflow

/-- Take several values, listed in the order in which they were pushed. -/
def popMany (i count : Nat) : Action (List Value) := do
  let stack ← readFrame i Frame.stack
  if stack.length < count then raise .stackUnderflow
  updateFrame i fun f => { f with stack := f.stack.drop count }
  return (stack.take count).reverse

/-- A list cut into pairs. -/
def pairs : List Value → List (Value × Value)
  | a :: b :: rest => (a, b) :: pairs rest
  | _ => []

/-- Move past instructions. -/
def skip (i count : Nat) : Action Unit :=
  updateFrame i fun f => { f with pc := f.pc + count }

/-! ## Operands -/

/-- The text of the pool that an operand names. -/
def pooledText (i : Nat) (operand : Float) : Action String := do
  match ← readFrame i fun f => f.stub.strings[Binary64.toUnsigned 64 operand]? with
  | some s => return s
  | none => raise (.poolIndex operand)

/-- The builtin type that an operand names. -/
def builtinType (operand : Float) : Action Value := do
  let t : TypeId := ⟨Binary64.toUnsigned 32 operand⟩
  match BuiltinType.ofId? t with
  | some _ => return .type t
  | none => raise (.unknownType operand)

/-- The operator that an operand names. -/
def namedOperator (operand : Float) : Action Operator := do
  match Operator.ofId? (Binary64.toUnsigned 8 operand) with
  | some op => return op
  | none => raise (.unknownOperator operand)

/-- The assignment that a byte names. -/
def namedAssignment (byte : Nat) : Action Assignment := do
  match Assignment.ofId? byte with
  | some a => return a
  | none => raise (.unknownAssignment byte)

/-! ## Making objects -/

/-- The types that a signature consists of. -/
def signatureTypes : List Value → Action (List TypeId)
  | [] => return []
  | .type t :: rest => do return t :: (← signatureTypes rest)
  | v :: _ => raise (.signatureType v.kind)

/-- A closure of a stub whose signature is on the stack. -/
def makeTypedClosure (i : Nat) (operand : Float) : Action Value := do
  let id := UInt32.ofNat (Binary64.toUnsigned 32 operand)
  match ← stubBeside? i id with
  | none => raise (.unknownStub operand)
  | some stub =>
    let types ← signatureTypes (← popMany i (stub.arity + 1))
    makeClosure i id (some types.toArray)

/-- A new object with entries. -/
def collectPairs (entries : List (Value × Value)) : Action Value := do
  let o ← newBlank
  entries.forM fun (key, v) => writeEntry o key v
  return .object o

/-! ## Calling and assigning -/

/-- Arguments with their names, which must be strings. -/
def namedArguments : List (Value × Value) → Action Arguments
  | [] => return []
  | (.string name, v) :: rest => do return (name, v) :: (← namedArguments rest)
  | (name, _) :: _ => raise (.argumentName name.kind)

/-- Call the function under its arguments. -/
def callFromStack (e : Engine) (i count : Nat) : Action Value := do
  let flat ← popMany i (2 * count)
  let function ← pop i
  e.call function (← namedArguments (pairs flat))

/-- **Assign**: a plain assignment writes the operand; a compound one writes what it
makes of the current value, or leaves the writing to the object that changes itself.
The result is the value of the whole. -/
def assignThrough (e : Engine) (a : Assignment) (operand : Value) (current : Action Value)
    (write : Value → Action Value) : Action Value := do
  if a = .set then write operand
  else
    let current ← current
    match ← compoundAssignment e a current operand with
    | some next => write next
    | none => return current

/-- Assign to a referrable.  The low half of the operand is its number, the next byte
names the assignment. -/
def assignReferrable (e : Engine) (i : Nat) (operand : Float) : Action Value := do
  let raw := Binary64.toUnsigned 64 operand
  let slot := raw % Nat.pow 2 32
  let a ← namedAssignment (raw / Nat.pow 2 32 % 256)
  let v ← pop i
  assignThrough e a v (readReferrable i slot) fun v => do
    writeReferrable i slot v
    return v

/-- Assign to a member.  The low byte of the operand names the assignment, the next one
the form of access. -/
def assignMember (e : Engine) (i : Nat) (operand : Float) : Action Value := do
  let raw := Binary64.toUnsigned 64 operand
  let a ← namedAssignment (raw % 256)
  let accessor := Accessor.ofId (raw / 256 % 256)
  let v ← pop i
  let key ← pop i
  let target ← pop i
  assignThrough e a v (getMember e target key accessor) fun v =>
    setMember e target key v accessor

/-- Apply an operator to the values on the stack. -/
def operate (e : Engine) (i : Nat) (op : Operator) : Action Value := do
  let r ← pop i
  if op.isUnary then unaryOperation e op r
  else
    let l ← pop i
    binaryOperation e op l r

/-! ## One instruction -/

/-- How an activation goes on after an instruction. -/
inductive Flow
  | next
  | done (result : Value)

/-- Push the result of an action. -/
def pushResult (i : Nat) (x : Action Value) : Action Flow := do
  push i (← x)
  return .next

/-- Skip with the condition kept if it has the given truth, else pop it. -/
def skipWhen (e : Engine) (i : Nat) (truth : Bool) (count : Nat) : Action Flow := do
  let b ← asBoolean e (← peek i)
  if b = truth then skip i count
  else
    let _ ← pop i
  return .next

/-- What an opcode does. -/
def Opcode.execute (e : Engine) (i : Nat) (operand : Float) : Opcode → Action Flow
  | nop => return .next
  | pushReferrable => pushResult i (readReferrable i (Binary64.toUnsigned 64 operand))
  | pushEmpty => pushResult i (return .empty)
  | pushNumber => pushResult i (return .number operand)
  | pushBoolean => pushResult i (return .boolean (operand != 0.0))
  | pushString => pushResult i do return .string (← pooledText i operand)
  | newObject => pushResult i do return .object (← newBlank)
  | closure =>
    pushResult i (makeClosure i (UInt32.ofNat (Binary64.toUnsigned 32 operand)) none)
  | typedClosure => pushResult i (makeTypedClosure i operand)
  | collectValues => pushResult i do
    newList (← popMany i (Binary64.toUnsigned 64 operand)).toArray
  | collectPairs => pushResult i do
    StubMachine.collectPairs (pairs (← popMany i (2 * Binary64.toUnsigned 64 operand)))
  | pushType => pushResult i (builtinType operand)
  | call => pushResult i (callFromStack e i (Binary64.toUnsigned 64 operand))
  | assignReferrable => pushResult i (StubMachine.assignReferrable e i operand)
  | assignMember => pushResult i (StubMachine.assignMember e i operand)
  | lookUpMember => pushResult i do
    let key ← pop i
    let target ← pop i
    getMember e target key (Accessor.ofId (Binary64.toUnsigned 8 operand))
  | operate => pushResult i do StubMachine.operate e i (← namedOperator operand)
  | pushNative => pushResult i (nativeValue (Binary64.toUnsigned 32 operand))
  | discard => do
    let _ ← popMany i (Binary64.toUnsigned 64 operand)
    return .next
  | duplicate => pushResult i (peek i)
  | return_ => do
    return .done ((← readFrame i Frame.stack).headD .empty)
  | skip => do
    StubMachine.skip i (Binary64.toUnsigned 64 operand)
    return .next
  | skipIfFalse => do
    if !(← asBoolean e (← pop i)) then StubMachine.skip i (Binary64.toUnsigned 64 operand)
    return .next
  | skipUnlessTrue => skipWhen e i false (Binary64.toUnsigned 64 operand)
  | skipUnlessFalse => skipWhen e i true (Binary64.toUnsigned 64 operand)
  | countLoop => pushResult i do
    let body ← pop i
    let stop ← pop i
    let first ← pop i
    let first ← asNumber e first
    let stop ← asNumber e stop
    StubMachine.countLoop e first stop body
  | foreverLoop => pushResult i do StubMachine.foreverLoop e (← pop i)
  | entryLoop => pushResult i do
    let body ← pop i
    let target ← pop i
    StubMachine.entryLoop e target body
  | query => pushResult i do ask e (← pop i) (Binary64.toUnsigned 32 operand)
  | listen => pushResult i do
    let response ← pop i
    let function ← pop i
    StubMachine.listen e function response

/-- **Execute one instruction.** -/
def step (e : Engine) (i : Nat) (ins : Instruction) : Action Flow :=
  match Opcode.ofByte? ins.opcode with
  | some op => op.execute e i ins.operand.toNumber
  | none => raise (.unknownOpcode ins.opcode)

end StubMachine
