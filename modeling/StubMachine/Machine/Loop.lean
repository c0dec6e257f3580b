import StubMachine.Machine.Access
import StubMachine.Machine.Conversion
import StubMachine.Machine.Referrable

/-!
# Loops

A loop enters its body once; **each time the body runs off its end it starts over** in
the same frame, until its restart condition says that it is over or the body returns.
A loop that ends without a return has the result Empty.

Only a script function can be a body, and it is not called but entered: neither its
types nor the private binding play a part.
-/

namespace StubMachine

open StubMachine.Action

/-! ## Starting a loop -/

/-- The function that a loop body is. -/
def loopBody (body : Value) : Action FunctionFacet := do
  let facet? ← match body with
    | .object o => pure ((← objectAt o).function?.filter fun f => !f.stub.isNative)
    | _ => pure none
  match facet? with
  | some f => return f
  | none => raise .loopBody

/-- The parameters of a body on its first pass: the first ones given, the rest Empty. -/
def firstParameters (f : FunctionFacet) (given : List Value) : Array Value :=
  let given := (given.take f.stub.arity).toArray
  given ++ Array.replicate (f.stub.arity - given.size) Value.empty

/-- **Count** from one number toward another, which is not reached itself. -/
def countLoop (e : Engine) (first stop : Float) (body : Value) : Action Value := do
  let f ← loopBody body
  if first == stop then return .empty
  let step : Float := if first < stop then 1.0 else -1.0
  e.enter f (firstParameters f [.number first]) (some (.count first stop step (0 < f.stub.arity)))

/-- Run a body until it returns or fails. -/
def foreverLoop (e : Engine) (body : Value) : Action Value := do
  let f ← loopBody body
  e.enter f (firstParameters f []) (some .forever)

/-- The object whose entries are gone through: what the attribute `foreach` supplies, or
the object itself. -/
def iterated (e : Engine) (o : ObjectId) : Action ObjectId := do
  match ← read fun m => m.attribute? o "foreach" with
  | none => return o
  | some hook =>
    match ← e.call hook [] with
    | .object o => return o
    | v => raise (.iterationHook v.kind)

/-- **Go through the entries** that an object has at the start. -/
def entryLoop (e : Engine) (target body : Value) : Action Value := do
  match target with
  | .object o =>
    let o ← iterated e o
    let f ← loopBody body
    let keys ← objectKeys e o
    let values ← objectValues e o
    match keys with
    | [] => return .empty
    | key :: _ =>
      e.enter f (firstParameters f (key :: values.take 1))
        (some (.entries keys.toArray values.toArray 0))
  | v => raise (.notIterable v.kind)

/-! ## Starting over -/

/-- Whether a counter has not reached its end. -/
def counterContinues (current stop step : Float) : Bool :=
  if step > 0.0 then current < stop else current > stop

/-- Write values into the first parameters of a frame, as many as there are. -/
def rebind (i : Nat) (values : List Value) : Action Unit := do
  let arity ← readFrame i fun f => f.stub.arity
  (values.take arity).zipIdx.forM fun (v, slot) => writeReferrable i slot v

/-- The condition after a pass, with the parameters set for the next one; there is none
if the loop is over. -/
def advance (e : Engine) (i : Nat) : Restart → Action (Option Restart)
  | .count current stop step bindsCounter => do
    let current ← if bindsCounter then asNumber e (← readReferrable i 0) else pure current
    let next := current + step
    if counterContinues next stop step then
      if bindsCounter then writeReferrable i 0 (.number next)
      return some (.count next stop step bindsCounter)
    else return none
  | .forever => return some .forever
  | .entries keys values index =>
    match keys[index + 1]?, values[index + 1]? with
    | some key, some value => do
      rebind i [key, value]
      return some (.entries keys values (index + 1))
    | _, _ => return none

/-- **Start a frame over** if it runs a loop that goes on. -/
def startOver (e : Engine) (i : Nat) : Action Bool := do
  match ← readFrame i Frame.restart with
  | none => return false
  | some condition =>
    updateFrame i fun f => { f with restart := none }
    match ← advance e i condition with
    | none => return false
    | some next =>
      updateFrame i fun f => { f with pc := 0, stack := [], restart := some next }
      return true

end StubMachine
