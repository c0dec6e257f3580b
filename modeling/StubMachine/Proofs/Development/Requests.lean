import StubMachine.Proofs.Custody.Requests
import StubMachine.Proofs.Development.Native

/-!
# Requests, embedders and the code of a machine

An embedder deals with a machine, and beyond that it may load a file without running it, and make
and change objects; its functions may do the same in the middle of whatever runs.  That is an
`Undertaking`, and an embedder `Undertakes` no more if all its functions are undertakings.  **Then a
machine advances in everything that is carried out**, also if a plan stops it anywhere.
-/

namespace StubMachine

open StubMachine.Action
open Machine (Advances)

/-! ## Calling -/

section Calls
variable {e : Engine} [advancing : e.Advancing] {host : Host}
  (hosted : ∀ handle args, Along Advances (host.native handle e args))
include hosted

/-- **A machine advances when a function in its store is called.** -/
theorem callFacet_advances {f : FunctionFacet} {m : Machine} (has : m.HasFunction f)
    (arguments : Arguments) (binding : Option Value) :
    m.Advances ((callFacet host e f arguments binding).after m) := by
  have binds : Along Advances (bindArguments f arguments binding) :=
    Errand.along (e := e) (bindArguments_errand f arguments binding : Errand .still .alone _ _)
  rw [callFacet_eq]
  refine Along.bind_since (binds m) fun parameters m₁ _ bound => ?_
  refine Along.bind_since (bound.trans (checkParameters_along f parameters m₁))
    fun _ m₂ _ checked => ?_
  refine Along.bind_since (checked.trans ?_)
    fun v m₃ _ called => called.trans (checkResult_along f v m₃)
  unfold runCalled
  split
  · exact callNative_advances hosted f.stub parameters m₂
  · rename_i script
    exact advancing.entered parameters none (checked.hasFunction has) (Bool.not_eq_true _ ▸ script)

theorem callValue_advances (function : Value) (arguments : Arguments) (binding : Option Value) :
    Along Advances (callValue host e function arguments binding) := by
  cases function with
  | type t => exact callType_along t arguments
  | object o =>
    refine fun m => Along.bind_from (Along.objectAt o m) fun object m₁ looked => ?_
    cases looked
    cases function : (m.object o).function? with
    | none => exact Along.raise _ m
    | some f => exact callFacet_advances hosted ⟨o, function⟩ arguments binding
  | _ => exact .raise _

end Calls

/-! ## Under a plan -/

section Plans
variable {plan : Plan} (stops : plan.Stops) {m : Machine}

/-- Counting a call is beside the code. -/
theorem underway_advances {x : Action Value} (h : Along Advances x) :
    Along Advances (underway x) := by
  intro m
  have started : m.Advances { m with reentry := m.reentry + 1 } := .of_beside (.of_eq rfl)
  have ended : (underway x).after m =
      { x.after { m with reentry := m.reentry + 1 } with
        reentry := (x.after { m with reentry := m.reentry + 1 }).reentry - 1 } :=
    Action.after_finally x (fun n => { n with reentry := n.reentry - 1 }) _
  rw [ended]
  exact (started.trans (h _)).trans (.of_beside (.of_eq rfl))

/-- **A function is entered and left**, and in between the code in its frame runs. -/
theorem withFrame_advances {f : FunctionFacet} (has : m.HasFunction f)
    (script : f.stub.isNative = false) (parameters : Array Value) (restart : Option Restart)
    {body : Nat → Action Value}
    (h : ∀ i (n : Machine), i + 1 = n.depth → n.Advances ((body i).after n)) :
    m.Advances ((withFrame f parameters restart body).after m) := by
  by_cases full : m.config.maxCallDepth ≤ m.depth
  · rw [Action.after, withFrame_eq, if_pos full]
    exact Along.raise (R := Advances) (α := Value) .depthExceeded m
  · rw [after_withFrame full]
    exact .entered has script (h m.depth _ rfl)

include stops

theorem supervise_advances {α : Type} {activity : Activity} {x : Action α}
    (h : m.Advances (x.after m)) : m.Advances ((plan.supervise activity x).after m) := by
  cases planned : plan ⟨activity, m⟩ with
  | none =>
    rw [Action.after, Plan.supervise_carriedOut planned]
    exact h
  | some mishap =>
    rw [Action.after, Plan.supervise_fails planned, stops _ _ _ planned]
    exact .refl m

variable {e : Engine} [advancing : e.Advancing] {i : Nat}

theorem proceedUnder_advances (innermost : i + 1 = m.depth) :
    m.Advances ((proceedUnder plan e i).after m) := by
  have fetches : Along Advances (fetchInstruction i) := by
    delta fetchInstruction
    refine .bind (.read _) fun ins? => ?_
    cases ins? with
    | none => exact .pure none
    | some ins => exact .bind (.updateFrame i fun _ => rfl) fun _ => .pure _
  refine Along.bind_since (fetches m) fun ins? m₁ _ fetched => fetched.trans ?_
  cases ins? with
  | some ins => exact supervise_advances stops (step_advances (fetched.depth ▸ innermost) ins)
  | none =>
    refine Along.bind_from (supervise_advances stops (startOver_advances i m₁)) fun again m₂ _ => ?_
    exact Along.ite (.pure _) (.pure _) m₂

theorem runFrameUnder_advances (innermost : i + 1 = m.depth) (steps : Nat) :
    m.Advances ((runFrameUnder plan e i steps).after m) := by
  induction steps generalizing m with
  | zero => exact .refl m
  | succ steps ih =>
    refine Along.bind_since (proceedUnder_advances stops innermost) fun flow m₁ _ proceeded => ?_
    cases flow with
    | next => exact proceeded.trans (ih (proceeded.depth ▸ innermost))
    | done v => exact proceeded

end Plans

/-! ## What an embedder does -/

/-- **What an embedder does with a machine**, from outside or in a function of its own: it looks at
it and deals with it, loads files, and makes and changes objects, but no functions. -/
inductive Undertaking
  | returns (v : Value)
  | raises (detail : Value)
  | sends (payload : Value)
  | fails (failure : Failure)
  | deals (d : Dealing) (next : Answer → Undertaking)
  | loads (name : String) (bytes : List UInt8) (next : Except Failure UInt32 → Undertaking)
  | looks (next : Machine → Undertaking)
  | creates (object : Object) (plain : object.function? = none) (next : ObjectId → Undertaking)
  | changes (o : ObjectId) (change : Object → Object) (keeps : Object.KeepsFunction change)
      (next : Undertaking)

/-- How an action ends, and the state after it. -/
def Action.outcome {α : Type} (x : Action α) (m : Machine) : Except Failure α × Machine :=
  match x m with
  | .ok a m' => (.ok a, m')
  | .error failure m' => (.error failure, m')

theorem Action.outcome_after {α : Type} (x : Action α) (m : Machine) :
    (x.outcome m).2 = x.after m := by
  rw [Action.outcome, Action.after]
  cases x m with
  | ok a m' => rfl
  | error failure m' => rfl

theorem Dealing.answer_eq (host : Host) (e : Engine) (d : Dealing) (m : Machine) :
    d.answer host e m = (d.carryOut host e).outcome m := by
  rw [Dealing.answer, Action.outcome]
  cases d.carryOut host e m with
  | ok given m' => rfl
  | error failure m' => rfl

def Undertaking.act (host : Host) (e : Engine) : Undertaking → Action Value
  | returns v => pure v
  | raises detail => raiseError detail
  | sends payload => raiseSend payload
  | fails failure => throw failure
  | deals d next => fun m =>
    let answered := d.answer host e m
    (next answered.1).act host e answered.2
  | loads name bytes next => fun m =>
    let loaded := (load name bytes).outcome m
    (next loaded.1).act host e loaded.2
  | looks next => fun m => (next m).act host e m
  | creates object _ next => newObject object >>= fun o => (next o).act host e
  | changes o change _ next => updateObject o change >>= fun _ => next.act host e

/-- The functions of the embedder are undertakings. -/
def Host.Undertakes (host : Host) : Prop :=
  ∀ handle args, ∃ u : Undertaking, ∀ e, host.native handle e args = u.act host e

theorem Host.complaining_undertakes : Host.complaining.Undertakes := fun _ args =>
  ⟨.raises (args.getD 0 .empty), fun _ => rfl⟩

section Dealings
variable {host : Host} {e : Engine} [e.CallsAlong Advances]

/-- A function of the embedder is native by its stub. -/
theorem registerExternal_advances (name : String) (parameters : List String) (handle : Nat) :
    Along Advances (registerExternal name parameters handle) := by
  refine fun m => .of_objects (.of_objects rfl rfl rfl (fun n' member => ?_) rfl rfl rfl
    fun _ => rfl) rfl
  rcases Array.mem_push.mp member with old | rfl
  · exact .inr ⟨n', old, rfl⟩
  · exact .inl rfl

/-- **A machine advances whatever an embedder asks.** -/
theorem carryOut_advances (d : Dealing) : Along Advances (d.carryOut host e) := by
  have sets (target key v : Value) (accessor : Accessor) :
      Along Advances (setMember e target key v accessor) :=
    Errand.along (setMember_errand target key v accessor : Errand .wide .alone _ _)
  cases d with
  | enter entry =>
    refine .bind ?_ fun _ => .pure _
    cases entry with
    | run name bytes => exact runAs_advances .ran name bytes
    | importModule name => exact importModule_advances host name
    | callFunction function arguments => exact settle_along (.call function arguments)
  | register name parameters handle =>
    exact .bind (registerExternal_advances name parameters handle) fun _ => .pure _
  | getMember target key accessor =>
    exact .bind (getMember_along target key accessor) fun _ => .pure _
  | setMember target key v accessor => exact .bind (sets target key v accessor) fun _ => .pure _
  | keys o => exact objectKeys_along o
  | values o => exact objectValues_along o
  | convert v t => exact .bind (convertTo_along v t) fun _ => .pure _
  | binary op l r => exact .bind (binaryOperation_along op l r) fun _ => .pure _
  | unary op v => exact .bind (unaryOperation_along op v) fun _ => .pure _
  | assign a current operand =>
    exact .bind (compoundAssignment_along a current operand) fun _ => .pure _
  | query base id => exact .bind (ask_advances base id) fun _ => .pure _
  | encode v => exact .bind (Native.encodeJson_along v) fun _ => .pure _
  | decode text => exact .bind (Native.decodeJson_advances text) fun _ => .pure _

/-- **A machine advances in every undertaking** if it does in calls. -/
theorem act_advances (u : Undertaking) : Along Advances (u.act host e) := by
  -- how it goes on depends on what it is told, so the hypothesis is about every answer
  induction u with
  | returns v => exact .pure v
  | raises detail => exact .raiseError detail
  | sends payload => exact .raiseSend payload
  | fails failure => exact .throw failure
  | deals d next ih =>
    intro m
    have answered : m.Advances (d.answer host e m).2 := by
      rw [Dealing.answer_eq, Action.outcome_after]
      exact carryOut_advances d m
    exact answered.trans (ih (d.answer host e m).1 _)
  | loads name bytes next ih =>
    intro m
    have loaded : m.Advances ((load name bytes).outcome m).2 := by
      rw [Action.outcome_after]
      exact load_advances name bytes m
    exact loaded.trans (ih ((load name bytes).outcome m).1 _)
  | looks next ih => exact fun m => ih m m
  | creates object plain next ih => exact .bind (newObject_advances plain) ih
  | changes o change keeps next ih => exact .bind (updateObject_advances o keeps) fun _ => ih

end Dealings

/-- **A machine advances in everything that is carried out**, under a plan that only stops. -/
theorem Host.Undertakes.engine {host : Host} (undertakes : host.Undertakes) {plan : Plan}
    (stops : plan.Stops) (fuel : Nat) : (plan.engine host fuel).Advancing := by
  induction fuel with
  | zero => exact ⟨fun _ _ _ => .throw _, fun _ _ _ _ => .refl _⟩
  | succ fuel ih =>
    have advancing : Engine.Advancing ⟨fuel, performUnder plan host fuel⟩ := ih
    have hosted (handle : Nat) (args : Array Value) :
        Along Advances (host.native handle ⟨fuel, performUnder plan host fuel⟩ args) := by
      obtain ⟨u, acts⟩ := undertakes handle args
      rw [acts]
      exact act_advances u
    constructor
    · exact fun function arguments binding m => supervise_advances stops
        (underway_advances (callValue_advances hosted function arguments binding) m)
    · exact fun parameters restart has script => supervise_advances stops
        (withFrame_advances has script parameters restart fun i n innermost =>
          runFrameUnder_advances stops innermost fuel)

end StubMachine
