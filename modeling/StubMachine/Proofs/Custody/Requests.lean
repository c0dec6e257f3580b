import StubMachine.Proofs.Custody.Native
import StubMachine.Proofs.Evolution.Requests

/-!
# Sessions and an object in custody

A plan `Guards` an object in custody if it stops every barred call of a native function with
the object as its base, before the function starts.  **In a session under such a plan, the
custody does not end**, whatever is asked and whatever scripts do, and whatever functions the
embedder has added that deal with the machine like an embedder.  A run that makes no barred
call is not touched by the plan.
-/

namespace StubMachine

open StubMachine.Action

/-- A request comes down to the native function of a query, with parameters. -/
def Machine.Reaches (m : Machine) (request : Request) (q : Query) (parameters : Array Value) : Prop :=
  ∃ p arguments binding f native m', request = .call (.object p) arguments binding ∧
    (m.object p).function? = some f ∧ f.stub.isNative = true ∧
    bindArguments f arguments binding m = .ok parameters m' ∧
    m.natives[f.stub.id.toNat]? = some native ∧ native.body = .query q

/-- What a request comes down to depends on the objects and the native functions only. -/
theorem Machine.Reaches.of_objects {m m' : Machine} {request : Request} {q : Query}
    {parameters : Array Value} (h : m.Reaches request q parameters) (objects : m'.objects = m.objects)
    (natives : m'.natives = m.natives) : m'.Reaches request q parameters := by
  obtain ⟨p, arguments, binding, f, native, n, asked, function, isNative, bound, known, body⟩ := h
  have binds : ∃ n', bindArguments f arguments binding m' = .ok parameters n' := by
    rcases bindArguments_cases f arguments binding m with ⟨vararg, run⟩ | ⟨fixed, given, named, run⟩ |
        ⟨name, raised⟩
    · cases run.symm.trans bound
      rw [← objects]
      exact ⟨_, bindArguments_vararg vararg arguments binding m'⟩
    · cases run.symm.trans bound
      exact ⟨_, bindArguments_named fixed named binding m'⟩
    · exact absurd (raised.symm.trans bound) (raise_ne_ok _ _ _ _)
  obtain ⟨n', bound'⟩ := binds
  refine ⟨p, arguments, binding, f, native, n', asked, ?_, isNative, bound', ?_, body⟩
  · rw [Machine.object_of objects]
    exact function
  · rw [natives]
    exact known

/-- **A plan that stops the barred calls** of an object in custody. -/
structure Custody.Guards (K : Custody) (plan : Plan) : Prop where
  stops : plan.Stops
  guards (fuel : Nat) {m : Machine} {request : Request} {q : Query} {parameters : Array Value} :
    m.Reaches request q parameters → ¬ K.Free m q parameters →
      plan ⟨.request fuel request, m⟩ ≠ none

theorem Host.complaining_scripted : Host.complaining.Scripted := fun _ args =>
  ⟨.raises (args.getD 0 .empty), fun _ => rfl⟩

open Classical in
/-- The plan that stops the barred calls and nothing else. -/
noncomputable def Custody.stopping (K : Custody) : Plan := fun μ =>
  if ∃ fuel request q parameters, μ.activity = .request fuel request ∧
      μ.machine.Reaches request q parameters ∧ ¬ K.Free μ.machine q parameters then
    some (.exhausted, μ.machine)
  else none

theorem Custody.stopping_guards (K : Custody) : K.Guards K.stopping where
  stops μ failure n planned := by
    unfold stopping at planned
    split at planned
    · cases planned
      rfl
    · cases planned
  guards fuel m request q parameters reaches barred := by
    unfold stopping
    rw [if_pos ⟨fuel, request, q, parameters, rfl, reaches, barred⟩]
    exact Option.some_ne_none _

section Calls
variable {K : Custody} {host : Host} {e : Engine}

theorem bindArguments_lasts (f : FunctionFacet) (arguments : Arguments) (binding : Option Value) :
    Along K.Lasts (bindArguments f arguments binding) := by
  delta bindArguments
  refine .ite (.bind (newObject_lasts _) fun bag => .pure _) ?_
  cases bindNamed f.stub (suppliedArguments f arguments) with
  | ok parameters => exact .pure _
  | error name => exact .bind (.raise _) fun _ => .pure _

/-- Binding arguments leaves the object in custody and the native functions as they are. -/
theorem bindArguments_keeps {f : FunctionFacet} {arguments : Arguments} {binding : Option Value}
    {m m' : Machine} {parameters : Array Value} (h : K.Holds m)
    (ok : bindArguments f arguments binding m = .ok parameters m') :
    m'.object K.object = m.object K.object ∧ m'.natives = m.natives := by
  rcases bindArguments_ok ok with rfl | ⟨bag, rfl⟩
  · exact ⟨rfl, rfl⟩
  · exact ⟨Machine.object_of_push rfl h.known, rfl⟩

variable [runs : e.RunsAlong K.Lasts]
  (hosted : ∀ handle args, Along K.Lasts (host.native handle e args))
include hosted

/-- **Calling a function does not end a custody** unless it comes down to a barred call. -/
theorem callFacet_from {f : FunctionFacet} {arguments : Arguments} {binding : Option Value}
    {m : Machine}
    (free : ∀ parameters m' native q, f.stub.isNative = true →
      bindArguments f arguments binding m = .ok parameters m' →
      m.natives[f.stub.id.toNat]? = some native → native.body = .query q → K.Free m q parameters) :
    K.Lasts m ((callFacet host e f arguments binding).after m) := by
  rw [callFacet_eq]
  intro h
  refine Along.bind_from (R := K.Lasts) (bindArguments_lasts f arguments binding m)
    (fun parameters m₁ bound => ?_) h
  obtain ⟨object, natives⟩ := bindArguments_keeps h bound
  refine Along.bind_from (checkParameters_along f parameters m₁) fun _ m₂ checked => ?_
  obtain ⟨rfl, -⟩ := checkParameters_ok checked
  refine Along.bind_from ?_ fun v m₃ _ => checkResult_along f v m₃
  unfold runCalled
  split
  · rename_i isNative
    refine callNative_from hosted fun native q known body o base here => ?_
    rw [object]
    rw [natives] at known
    exact free parameters m₂ native q isNative bound known body o base here
  · exact Along.enter _ _ _ m₂

theorem callValue_from {function : Value} {arguments : Arguments} {binding : Option Value}
    {m : Machine}
    (free : ∀ q parameters, m.Reaches (.call function arguments binding) q parameters →
      K.Free m q parameters) :
    K.Lasts m ((callValue host e function arguments binding).after m) := by
  cases function with
  | type t => exact callType_along t arguments m
  | object o =>
    refine Along.bind_from (Along.objectAt o m) fun object m₁ looked => ?_
    cases looked
    cases function : (m.object o).function? with
    | none => exact Along.raise _ m
    | some f =>
      refine callFacet_from hosted fun parameters m' native q isNative bound known body => ?_
      exact free q parameters
        ⟨o, arguments, binding, f, native, m', rfl, function, isNative, bound, known, body⟩
  | _ => exact Along.raise _ m

end Calls

/-! ## Under a plan -/

section Plans
variable {K : Custody} {plan : Plan}

theorem supervise_lasts {α : Type} (stops : plan.Stops) {activity : Activity} {x : Action α}
    {m : Machine} (h : plan ⟨activity, m⟩ = none → K.Lasts m (x.after m)) :
    K.Lasts m ((plan.supervise activity x).after m) := by
  cases planned : plan ⟨activity, m⟩ with
  | none =>
    rw [Action.after, Plan.supervise_carriedOut planned]
    exact h planned
  | some mishap =>
    rw [Action.after, Plan.supervise_fails planned, stops _ _ _ planned]
    exact id

/-- Counting a call changes no object. -/
theorem underway_lasts {x : Action Value} {m : Machine}
    (h : K.Lasts { m with reentry := m.reentry + 1 } (x.after { m with reentry := m.reentry + 1 })) :
    K.Lasts m ((underway x).after m) := by
  intro holds
  have started : K.Holds { m with reentry := m.reentry + 1 } := .of_objects (m := m) rfl holds
  have ended : (underway x).after m =
      { x.after { m with reentry := m.reentry + 1 } with
        reentry := (x.after { m with reentry := m.reentry + 1 }).reentry - 1 } :=
    Action.after_finally x (fun n => { n with reentry := n.reentry - 1 }) _
  rw [ended]
  exact .of_objects (m := x.after _) rfl (h started)

theorem withFrame_lasts {f : FunctionFacet} {parameters : Array Value} {restart : Option Restart}
    {body : Nat → Action Value} (h : ∀ place, Along K.Lasts (body place)) :
    Along K.Lasts (withFrame f parameters restart body) := by
  intro m holds
  by_cases full : m.config.maxCallDepth ≤ m.depth
  · rw [Action.after, withFrame_eq, if_pos full]
    exact Along.raise (R := K.Lasts) (α := Value) .depthExceeded m holds
  · rw [after_withFrame full]
    have entered : K.Holds (m.pushFrame f parameters restart) := .of_objects (m := m) rfl holds
    exact .of_objects (m := (body m.depth).after _) rfl (h m.depth _ entered)

theorem fetchInstruction_lasts (i : Nat) : Along K.Lasts (fetchInstruction i) := by
  delta fetchInstruction
  refine .bind (.read _) fun ins? => ?_
  cases ins? with
  | none => exact .pure none
  | some ins => exact .bind (.updateFrame i fun _ => rfl) fun _ => .pure _

variable (stops : plan.Stops)
include stops

theorem proceedUnder_lasts {e : Engine} [runs : e.RunsAlong K.Lasts] (i : Nat) :
    Along K.Lasts (proceedUnder plan e i) := by
  refine .bind (fetchInstruction_lasts i) fun ins? => ?_
  cases ins? with
  | some ins => exact fun m => supervise_lasts stops fun _ => step_lasts i ins m
  | none =>
    refine .bind (fun m => supervise_lasts stops fun _ => startOver_lasts i m) fun again => ?_
    exact .ite (.pure _) (.pure _)

theorem runFrameUnder_lasts {e : Engine} [runs : e.RunsAlong K.Lasts] (i steps : Nat) :
    Along K.Lasts (runFrameUnder plan e i steps) := by
  induction steps with
  | zero => exact .throw _
  | succ steps ih =>
    refine .bind (proceedUnder_lasts stops i) fun flow => ?_
    cases flow with
    | next => exact ih
    | done v => exact .pure v

end Plans

/-! ## What an embedder asks -/

section Dealings
variable {K : Custody} {host : Host} {e : Engine} [runs : e.RunsAlong K.Lasts]

theorem start_lasts (entry : EntryPoint) : Along K.Lasts (entry.start host e) := by
  cases entry with
  | run name bytes => exact runAs_lasts .ran name bytes
  | importModule name => exact importModule_lasts host name
  | callFunction function arguments => exact settle_along (.call function arguments)

/-- **Whatever an embedder asks does not end a custody.** -/
theorem carryOut_lasts (d : Dealing) : Along K.Lasts (d.carryOut host e) := by
  cases d with
  | enter entry => exact .bind (start_lasts entry) fun _ => .pure _
  | register name parameters handle =>
    intro m h
    exact Custody.Holds.of_objects (m := m) rfl h
  | getMember target key accessor => exact .bind (getMember_along target key accessor) fun _ => .pure _
  | setMember target key v accessor =>
    exact .bind (setMember_lasts target key v accessor) fun _ => .pure _
  | keys o => exact objectKeys_along o
  | values o => exact objectValues_along o
  | convert v t => exact .bind (convertTo_along v t) fun _ => .pure _
  | binary op l r => exact .bind (binaryOperation_along op l r) fun _ => .pure _
  | unary op v => exact .bind (unaryOperation_along op v) fun _ => .pure _
  | assign a current operand =>
    exact .bind (compoundAssignment_along a current operand) fun _ => .pure _
  | query base id => exact .bind (ask_lasts base id) fun _ => .pure _
  | encode v => exact .bind (Native.encodeJson_along v) fun _ => .pure _
  | decode text => exact .bind (Native.decodeJson_lasts text) fun _ => .pure _

theorem answer_lasts (d : Dealing) (m : Machine) : K.Lasts m (d.answer host e m).2 := by
  have ended : K.Lasts m ((d.carryOut host e).after m) := carryOut_lasts d m
  unfold Dealing.answer
  rw [Action.after] at ended
  cases run : d.carryOut host e m with
  | ok given m' => rwa [run] at ended
  | error failure m' => rwa [run] at ended

/-- What a function of the embedder does that deals with the machine. -/
theorem act_lasts (script : Script) : Along K.Lasts (script.act host e) := by
  -- the answer depends on the machine, so the hypothesis is taken for the one that is given
  induction script with
  | returns v => exact .pure v
  | raises detail => exact .raiseError detail
  | sends payload => exact .raiseSend payload
  | fails failure => exact .throw failure
  | deals d next ih =>
    intro m h
    exact ih (d.answer host e m).1 _ (answer_lasts d m h)

/-- **A session does not end a custody** if the engine does not. -/
theorem session_lasts (session : Session) (m : Machine) : K.Lasts m (session.run host e m).2 := by
  induction session generalizing m with
  | ends => exact id
  | deals d next ih =>
    intro h
    exact ih (d.answer host e m).1 _ (answer_lasts d m h)

end Dealings

namespace Custody.Guards
variable {K : Custody} {plan : Plan} (guards : K.Guards plan) {host : Host}
  (scripted : host.Scripted)
include guards scripted

/-- **A guarded engine does not end the custody.** -/
theorem engine (fuel : Nat) : (plan.engine host fuel).RunsAlong K.Lasts := by
  induction fuel with
  | zero => exact ⟨fun _ => .throw _⟩
  | succ fuel ih =>
    have runs : Engine.RunsAlong ⟨fuel, performUnder plan host fuel⟩ K.Lasts := ih
    refine ⟨fun request m => ?_⟩
    have hosted (handle : Nat) (args : Array Value) :
        Along K.Lasts (host.native handle ⟨fuel, performUnder plan host fuel⟩ args) := by
      obtain ⟨script, acts⟩ := scripted handle args
      rw [acts]
      exact act_lasts script
    refine supervise_lasts guards.stops fun planned => ?_
    cases request with
    | call function arguments binding =>
      refine underway_lasts (callValue_from hosted fun q parameters reaches => ?_)
      -- a barred call would have been stopped by the plan before it was begun
      refine Classical.byContradiction fun barred => ?_
      have here : m.Reaches (.call function arguments binding) q parameters :=
        reaches.of_objects rfl rfl
      exact guards.guards (fuel + 1) here barred planned
    | enter f parameters restart =>
      exact withFrame_lasts (fun place => runFrameUnder_lasts guards.stops place fuel) m

/-- **In a guarded session the custody does not end.** -/
theorem session (fuel : Nat) (session : Session) {m : Machine} (h : K.Holds m) :
    K.Holds (session.run host (plan.engine host fuel) m).2 := by
  have runs := guards.engine scripted fuel
  exact session_lasts session m h

end Custody.Guards

end StubMachine
