import StubMachine.Machine.Asking
import StubMachine.Proofs.Likeness.Requests

/-!
# Sessions

From outside, a machine is dealt with one operation at a time: a module is run or
imported, a function called, a member read or written, a value converted, compared or
written out.  A `Session` is what an embedder does with a machine over time.  It is a
tree: what is done next may depend on how everything before has ended.

**From states that are alike, sessions take the same course** (`Likeness.session`).

The functions of an embedder may deal with the machine in the same ways.  If they do nothing
else, they respect every likeness (`Host.Scripted.respects`).
-/

namespace StubMachine

open StubMachine.Action

/-- What an embedder can ask of a machine. -/
inductive Dealing
  | enter (entry : EntryPoint)
  | register (name : String) (parameters : List String) (handle : Nat)
  | getMember (target key : Value) (accessor : Accessor)
  | setMember (target key v : Value) (accessor : Accessor)
  | keys (o : ObjectId)
  | values (o : ObjectId)
  | convert (v : Value) (t : TypeId)
  | binary (op : Operator) (l r : Value)
  | unary (op : Operator) (v : Value)
  | assign (a : Assignment) (current operand : Value)
  | query (base : Value) (id : Nat)
  | encode (v : Value)
  | decode (text : String)

/-- Carry out what is asked; the result is a list of values. -/
def Dealing.carryOut (host : Host) (e : Engine) : Dealing → Action (List Value)
  | enter entry => do return [← entry.start host e]
  | register name parameters handle => do
    return [.ofNat (← registerExternal name parameters handle)]
  | getMember target key accessor => do return [← StubMachine.getMember e target key accessor]
  | setMember target key v accessor => do return [← StubMachine.setMember e target key v accessor]
  | keys o => objectKeys e o
  | values o => objectValues e o
  | convert v t => do return [← convertTo e v t]
  | binary op l r => do return [← binaryOperation e op l r]
  | unary op v => do return [← unaryOperation e op v]
  | assign a current operand => do return (← compoundAssignment e a current operand).toList
  | query base id => do return [← ask e base id]
  | encode v => do return [.string (← encodeJson e v)]
  | decode text => do return [← decodeJson text]

/-- How something that was asked ended. -/
abbrev Answer := Except Failure (List Value)

/-- The answer to what is asked, and the state after it. -/
def Dealing.answer (host : Host) (e : Engine) (d : Dealing) (m : Machine) : Answer × Machine :=
  match d.carryOut host e m with
  | .ok given m' => (.ok given, m')
  | .error failure m' => (.error failure, m')

/-- **What an embedder does with a machine**, one thing after another. -/
inductive Session
  | ends
  | deals (d : Dealing) (next : Answer → Session)

/-- The answers that are given in a session, and the state in which it ends. -/
def Session.run (host : Host) (e : Engine) : Session → Machine → List Answer × Machine
  | ends, m => ([], m)
  | deals d next, m =>
    let answered := d.answer host e m
    let rest := (next answered.1).run host e answered.2
    (answered.1 :: rest.1, rest.2)

/-- **What a function of the embedder does** if it deals with the machine like the embedder
outside. -/
inductive Script
  | returns (v : Value)
  | raises (detail : Value)
  | sends (payload : Value)
  | fails (failure : Failure)
  | deals (d : Dealing) (next : Answer → Script)

def Script.act (host : Host) (e : Engine) : Script → Action Value
  | returns v => pure v
  | raises detail => raiseError detail
  | sends payload => raiseSend payload
  | fails failure => throw failure
  | deals d next => fun m =>
    let answered := d.answer host e m
    (next answered.1).act host e answered.2

/-- The functions of the embedder only deal with the machine. -/
def Host.Scripted (host : Host) : Prop :=
  ∀ handle args, ∃ script : Script, ∀ e, host.native handle e args = script.act host e

namespace Likeness
variable {L : Likeness} {e e' : Engine} (engines : L.Engines e e') (host : Host)
include engines

namespace Same

theorem start (entry : EntryPoint) : L.Same (entry.start host e) (entry.start host e') := by
  cases entry with
  | run name bytes => exact runModule engines name bytes
  | importModule name => exact importModule engines host name
  | callFunction function arguments => exact .settle (.call engines function arguments)

omit engines in
theorem registerExternal (name : String) (parameters : List String) (handle : Nat) :
    L.Same (StubMachine.registerExternal name parameters handle)
      (StubMachine.registerExternal name parameters handle) := by
  show L.Same (do
      let id ← Action.read fun m => m.natives.size
      update fun m =>
        { m with
          natives := m.natives.push
            (Native.make m.natives.size name parameters (.hosted handle))
          externals := m.externals.insert name m.natives.size }
      Pure.pure id) _
  refine .bind (.look fun c => c.natives.size) fun id => .bind (.refill fun c => { c with
    natives := c.natives.push (Native.make c.natives.size name parameters (.hosted handle))
    externals := c.externals.insert name c.natives.size }) fun _ => .pure id

/-- **Whatever an embedder asks does the same.** -/
theorem carryOut (d : Dealing) : L.Same (d.carryOut host e) (d.carryOut host e') := by
  cases d with
  | enter entry => exact .bind (start engines host entry) fun _ => .pure _
  | register name parameters handle =>
    exact .bind (registerExternal name parameters handle) fun _ => .pure _
  | getMember target key accessor =>
    exact .bind (getMember engines target key accessor) fun _ => .pure _
  | setMember target key v accessor =>
    exact .bind (setMember engines target key v accessor) fun _ => .pure _
  | keys o => exact objectKeys engines o
  | values o => exact objectValues engines o
  | convert v t => exact .bind (convertTo engines v t) fun _ => .pure _
  | binary op l r => exact .bind (binaryOperation engines op l r) fun _ => .pure _
  | unary op v => exact .bind (unaryOperation engines op v) fun _ => .pure _
  | assign a current operand =>
    exact .bind (compoundAssignment engines a current operand) fun _ => .pure _
  | query base id => exact .bind (ask engines base id) fun _ => .pure _
  | encode v => exact .bind (encodeJson engines v) fun _ => .pure _
  | decode text => exact .bind (decodeJson text) fun _ => .pure _

end Same

theorem answer (d : Dealing) {m n : Machine} (h : L.Rel m n) :
    (d.answer host e' n).1 = (d.answer host e m).1 ∧
      L.Rel (d.answer host e m).2 (d.answer host e' n).2 := by
  rw [Dealing.answer, Dealing.answer]
  rcases (Same.carryOut engines host d m n h).outcomes with
    ⟨values, m', n', left, right, h'⟩ | ⟨failure, m', n', left, right, h'⟩
  · rw [left, right]
    exact ⟨rfl, h'⟩
  · rw [left, right]
    exact ⟨rfl, h'⟩

/-- **A session takes the same course** from states that are alike. -/
theorem session (session : Session) {m n : Machine} (h : L.Rel m n) :
    (session.run host e' n).1 = (session.run host e m).1 ∧
      L.Rel (session.run host e m).2 (session.run host e' n).2 := by
  induction session generalizing m n with
  | ends => exact ⟨rfl, h⟩
  | deals d next ih =>
    obtain ⟨same, h'⟩ := answer engines host d h
    rw [Session.run, Session.run, same]
    obtain ⟨answers, rel⟩ := ih (d.answer host e m).1 h'
    exact ⟨congrArg (List.cons _) answers, rel⟩

theorem Same.act (script : Script) : L.Same (script.act host e) (script.act host e') := by
  induction script with
  | returns v => exact .pure v
  | raises detail => exact .raiseError detail
  | sends payload => exact .raiseSend payload
  | fails failure => exact .throw failure
  | deals d next ih =>
    intro m n h
    obtain ⟨same, h'⟩ := answer engines host d h
    show Alike L.Rel ((next (d.answer host e m).1).act host e _)
      ((next (d.answer host e' n).1).act host e' _)
    -- the script has been told the same, so it goes on in the same way
    rw [same]
    exact ih (d.answer host e m).1 _ _ h'

end Likeness

/-- **Functions that only deal with the machine respect every likeness.** -/
theorem Host.Scripted.respects {host : Host} (scripted : host.Scripted) (L : Likeness) :
    host.Respects L := by
  intro e e' engines handle args
  obtain ⟨script, acts⟩ := scripted handle args
  rw [acts, acts]
  exact .act engines host script

end StubMachine
