import StubMachine.Machine.Engine

/-!
# Listening

A function is called while a response stands by.  What the function raises is
intercepted: an error goes to the response's handler for signals or, if there is none,
to its handler for errors; a signal goes to the handler for signals, and without one
the value it carries is the result.  An error without a handler stays on its way.

A fatal failure is not intercepted.
-/

namespace StubMachine

open StubMachine.Action

/-- The handler for what was raised: the entry `onSend` of the response or, for an error,
its entry `onError`. -/
def handler? (m : Machine) (response : Value) (kind : CatchableKind) : Option Value :=
  match response with
  | .object o =>
    let entry := fun name => ((m.object o).text? name).bind Value.nonEmpty?
    (entry "onSend").or (if kind = .error then entry "onError" else none)
  | _ => none

/-- Deal with what was raised, which is no longer pending. -/
def respond (e : Engine) (response : Value) (c : Catchable) : Action Value := do
  match ← read fun m => handler? m response c.kind with
  | some handler => e.call handler [("message", c.payload)]
  | none =>
    match c.kind with
    | .send => return c.payload
    | .error =>
      update fun m => { m with pending := some c }
      throw .unwinding

/-- **Call a function and respond to what it raises.** -/
def listen (e : Engine) (function response : Value) : Action Value := fun m =>
  match e.call function [] m with
  | .error .unwinding m =>
    match m.pending with
    | some c => respond e response c { m with pending := none }
    | none => .error .unwinding m
  | outcome => outcome

end StubMachine
