import StubMachine.Machine.Calling
import StubMachine.Machine.Frames
import StubMachine.Machine.Step

/-!
# Carrying out requests

An activation executes its instructions in order; at the end of the code it starts over
if a loop goes on, and otherwise its result is Empty.  A request is carried out by an
engine with less fuel than the one it was made to, and an activation executes no more
instructions than the engine has fuel: **with enough fuel a run that ends at all ends
with its result**, and more fuel changes nothing.
-/

namespace StubMachine

open StubMachine.Action

/-- Take the next instruction of a frame, if there is one. -/
def fetchInstruction (i : Nat) : Action (Option Instruction) := do
  match ← readFrame i fun f => f.stub.code[f.pc]? with
  | none => return none
  | some ins =>
    updateFrame i fun f => { f with pc := f.pc + 1 }
    return some ins

/-- Execute the next instruction of a frame, or start it over, or end it. -/
def proceed (e : Engine) (i : Nat) : Action Flow := do
  match ← fetchInstruction i with
  | some ins => step e i ins
  | none => if ← startOver e i then return .next else return .done .empty

/-- Run a frame to its end within a number of steps. -/
def runFrame (e : Engine) (i : Nat) : Nat → Action Value
  | 0 => throw .exhausted
  | steps + 1 => fun m =>
    match proceed e i m with
    | .ok .next m => runFrame e i steps m
    | .ok (.done v) m => .ok v m
    | .error failure m => .error failure m

/-- Count one more call under way while something runs. -/
def underway (x : Action Value) : Action Value := do
  update fun m => { m with reentry := m.reentry + 1 }
  finally_ x fun m => { m with reentry := m.reentry - 1 }

/-- **Carry out a request** within a bound. -/
def perform (host : Host) : Nat → Request → Action Value
  | 0, _ => throw .exhausted
  | fuel + 1, request =>
    let e : Engine := ⟨fuel, perform host fuel⟩
    match request with
    | .call function arguments binding =>
      underway (callValue host e function arguments binding)
    | .enter facet parameters restart =>
      withFrame facet parameters restart fun i => runFrame e i fuel

/-- The engine of a host, within a bound. -/
def Engine.ofHost (host : Host) (fuel : Nat) : Engine := ⟨fuel, StubMachine.perform host fuel⟩

/-- A bound that no run can reach in practice. -/
def Engine.ample : Nat := Nat.pow 10 18

end StubMachine
