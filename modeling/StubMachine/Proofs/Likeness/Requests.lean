import StubMachine.Proofs.Calling
import StubMachine.Proofs.Finality
import StubMachine.Proofs.Likeness.Instruction

/-!
# Requests are carried out alike

Requests that may be made the one for the other **come to the same** under a likeness if they
are the same but for a private binding that the function called does not look at, and if what
has been called may be entered once its parameters have been bound and checked
(`Likeness.Conversing`).  Then calls do the same.

What a frame holds may be alike at one level of the call stack and not at another.  So there
may be a likeness for each level, and entering and leaving a frame lead from one to the next
(`Likeness.Layered`).  **Then requests are carried out alike** (`Likeness.Layered.engines`), each
of the two runs under a plan of failures, as long as the plans have the same things fail alike
(`Likeness.Concerted`), by an embedder whose functions respect the likenesses.

Where one likeness serves at all levels, states that are alike have the same frames
(`Likeness.Stacked`), and mostly as many of them may be active (`Likeness.Calling`).  The plans may be idle, and then it is two plain runs that are compared
(`Likeness.Calling.engines_alone`).  Or states are alike only if they are equal, and then the
plan makes no difference to a run whose requests it spares.
-/

namespace StubMachine

open StubMachine.Action

namespace Machine

/-- The state in which one more call is under way. -/
def counted (m : Machine) : Machine := { m with reentry := m.reentry + 1 }

/-- The state with other frames. -/
def restacked (m : Machine) (frames : Array Frame) (depth : Nat) : Machine :=
  { m with frames, depth }

end Machine

/-- The private binding that may stand for another one makes no difference to the function that
is called. -/
def SameBound (m : Machine) (function : Value) (x y : Option Value) : Prop :=
  ∀ o f, function = .object o → (m.object o).function? = some f →
    ∀ parameters, bindPrivate f.stub y parameters = bindPrivate f.stub x parameters

/-- **Requests that come to the same**: they are the same but for a private binding that makes no
difference. -/
inductive Request.Akin (m : Machine) : Request → Request → Prop
  | call {function : Value} {x y : Option Value} (arguments : Arguments) :
      SameBound m function x y →
      Akin m (.call function arguments x) (.call function arguments y)
  | enter (f : FunctionFacet) (parameters : Array Value) (restart : Option Restart) :
      Akin m (.enter f parameters restart) (.enter f parameters restart)

theorem Request.Akin.refl (m : Machine) (q : Request) : q.Akin m q := by
  cases q with
  | call function arguments binding => exact .call arguments fun _ _ _ _ _ => rfl
  | enter f parameters restart => exact .enter f parameters restart

namespace Likeness

/-- **Requests come to the same** that may be made the one for the other. -/
structure Conversing (L : Likeness) : Prop where
  akin {m n : Machine} {q q' : Request} : L.Rel m n → L.Asks m n q q' → q.Akin m q'
  counted {m n : Machine} {q q' : Request} : L.Asks m n q q' → L.Asks m.counted n.counted q q'
  /-- What has been called may be entered when its parameters have been bound and checked. -/
  entering {m n m₁ n₁ : Machine} {o : ObjectId} {f : FunctionFacet} {arguments : Arguments}
    {x y : Option Value} {parameters : Array Value} :
    L.Asks m n (.call (.object o) arguments x) (.call (.object o) arguments y) →
    (m.object o).function? = some f → bindArguments f arguments x m = .ok parameters m₁ →
    checkParameters f parameters m₁ = .ok () m₁ → L.Rel m₁ n₁ →
    L.Asks m₁ n₁ (.enter f parameters none) (.enter f parameters none)

/-- **Likenesses for the levels of the call stack**, of which entering a frame leads from one to the
next. -/
structure Layered (L : Nat → Likeness) : Prop where
  converses (d : Nat) : (L d).Conversing
  depth {d : Nat} {m n : Machine} : (L d).Rel m n → n.depth = m.depth
  sees {d : Nat} {m n : Machine} : (L d).Rel m n → (L (d + 1)).Sees m.depth
  pushed {d : Nat} {m n : Machine} : (L d).Rel m n →
    ∀ (f : FunctionFacet) (parameters : Array Value) (restart : Option Restart),
    (L (d + 1)).Rel (m.pushFrame f parameters restart) (n.pushFrame f parameters restart)
  popped {d : Nat} {m n : Machine} : (L (d + 1)).Rel m n → (L d).Rel m.popFrame n.popFrame

/-- **Two plans in concert**: of what is asked alike both have the one and the other fail, or both
have it carried out, and there is room for the one frame if there is for the other. -/
structure Concerted (L : Nat → Likeness) (plan plan' : Plan) : Prop where
  request {d : Nat} {m n : Machine} {q q' : Request} (fuel : Nat) : (L d).Rel m n →
    (L d).Asks m n q q' →
    (∃ failure m' n', plan ⟨.request fuel q, m⟩ = some (failure, m') ∧
      plan' ⟨.request fuel q', n⟩ = some (failure, n') ∧ (L d).Rel m' n') ∨
    plan ⟨.request fuel q, m⟩ = none ∧ plan' ⟨.request fuel q', n⟩ = none ∧
      ((∃ f parameters restart, q = .enter f parameters restart) →
        (n.config.maxCallDepth ≤ n.depth ↔ m.config.maxCallDepth ≤ m.depth))
  instruction (fuel i : Nat) (ins : Instruction) (m n : Machine) :
    plan ⟨.instruction fuel i ins, m⟩ = none ∧ plan' ⟨.instruction fuel i ins, n⟩ = none
  startOver (fuel i : Nat) (m n : Machine) :
    plan ⟨.startOver fuel i, m⟩ = none ∧ plan' ⟨.startOver fuel i, n⟩ = none

/-- **A likeness of states that have the same frames.** -/
structure Stacked (L : Likeness) : Prop extends Conversing L where
  frames {m n : Machine} : L.Rel m n → n.frames = m.frames
  depth {m n : Machine} : L.Rel m n → n.depth = m.depth
  restacked {m n : Machine} : L.Rel m n → ∀ (frames : Array Frame) (depth : Nat),
    L.Rel (m.restacked frames depth) (n.restacked frames depth)

/-- **A likeness that calling keeps**: as many frames may be active. -/
structure Calling (L : Likeness) : Prop extends Stacked L where
  limit {m n : Machine} : L.Rel m n → n.config.maxCallDepth = m.config.maxCallDepth

/-- The plan has nothing fail that is done alike. -/
structure Spares (L : Likeness) (plan : Plan) : Prop where
  request {m n : Machine} {q q' : Request} (fuel : Nat) : L.Rel m n → L.Asks m n q q' →
    plan ⟨.request fuel q', n⟩ = none
  instruction (fuel i : Nat) (ins : Instruction) (n : Machine) :
    plan ⟨.instruction fuel i ins, n⟩ = none
  startOver (fuel i : Nat) (n : Machine) : plan ⟨.startOver fuel i, n⟩ = none

theorem spares_idle (L : Likeness) : L.Spares .idle :=
  ⟨fun _ _ _ => rfl, fun _ _ _ _ => rfl, fun _ _ _ => rfl⟩

end Likeness

/-- **The functions of the embedder respect a likeness**: they do the same in states that are
alike, if requests do. -/
def Host.Respects (host : Host) (L : Likeness) : Prop :=
  ∀ e e' : Engine, L.Engines e e' →
    ∀ handle args, L.Same (host.native handle e args) (host.native handle e' args)

theorem Host.complaining_respects (L : Likeness) : Host.complaining.Respects L :=
  fun _ _ _ _ _ => .raiseError _

/-- Starting an activity that no plan has fail does the same. -/
theorem Likeness.Same.supervise {L : Likeness} {α : Type} {plan plan' : Plan} {activity : Activity}
    {x y : Action α} (carriedOut : ∀ m n, plan ⟨activity, m⟩ = none ∧ plan' ⟨activity, n⟩ = none)
    (h : L.Same x y) : L.Same (plan.supervise activity x) (plan'.supervise activity y) := by
  intro m n rel
  obtain ⟨left, right⟩ := carriedOut m n
  rw [Plan.supervise_carriedOut left, Plan.supervise_carriedOut right]
  exact h m n rel

namespace Likeness.Conversing
variable {L : Likeness} (converses : L.Conversing) {host : Host} {e e' : Engine}
include converses

/-! ## Calling -/

theorem callFacet (engines : L.Engines e e') (respects : host.Respects L) {m n : Machine}
    (h : L.Rel m n) {o : ObjectId} {f : FunctionFacet} {arguments : Arguments} {x y : Option Value}
    (asked : L.Asks m n (.call (.object o) arguments x) (.call (.object o) arguments y))
    (function : (m.object o).function? = some f)
    (bound : ∀ parameters, bindPrivate f.stub y parameters = bindPrivate f.stub x parameters) :
    Alike L.Rel (StubMachine.callFacet host e f arguments x m)
      (StubMachine.callFacet host e' f arguments y n) := by
  have binds : bindArguments f arguments y = bindArguments f arguments x := by
    rw [bindArguments_bound, bindArguments_bound f arguments x]
    simp only [bound]
  rw [callFacet_eq, callFacet_eq, binds]
  refine (Same.bindArguments f arguments x m n h).bind fun parameters m₁ n₁ left _ h₁ => ?_
  refine (Same.checkParameters f parameters m₁ n₁ h₁).bind fun _ m₂ n₂ checked checked' h₂ => ?_
  cases (checkParameters_ok checked).1
  cases (checkParameters_ok checked').1
  refine Alike.bind ?_ fun v m₃ n₃ _ _ h₃ => Same.checkResult f v m₃ n₃ h₃
  rw [runCalled, runCalled]
  split
  · refine Same.bind (.look fun c => c.natives[f.stub.id.toNat]?) (fun native? => ?_) m₁ n₁ h₂
    cases native? with
    | none => exact .throw _
    | some native =>
      exact .attempt (Same.runNative parameters engines (fun handle => respects e e' engines handle _)
        native.body)
  · exact engines.perform h₂ (converses.entering asked function left checked h₂)

/-- **Calling a value does the same.** -/
theorem callValue (engines : L.Engines e e') (respects : host.Respects L) {m n : Machine}
    (h : L.Rel m n) {function : Value} {arguments : Arguments} {x y : Option Value}
    (asked : L.Asks m n (.call function arguments x) (.call function arguments y)) :
    Alike L.Rel (StubMachine.callValue host e function arguments x m)
      (StubMachine.callValue host e' function arguments y n) := by
  have bound : SameBound m function x y := by
    cases converses.akin h asked with
    | call _ bound => exact bound
  cases function with
  | type t => exact Same.callType engines t arguments m n h
  | object o =>
    have alike := L.function h o
    cases function : (m.object o).function? with
    | some f =>
      rw [callValue_function function, callValue_function (alike.trans function)]
      exact converses.callFacet engines respects h asked function (bound o f rfl function)
    | none =>
      rw [callValue_plain function, callValue_plain (alike.trans function)]
      exact Same.raise _ m n h
  | _ => exact Same.raise _ m n h

end Likeness.Conversing

/-! ## Frames -/

namespace Likeness.Layered
variable {L : Nat → Likeness} (layered : Layered L) {plan plan' : Plan}
  (concerted : Concerted L plan plan') {host : Host}

section Frames
variable {d : Nat} {e e' : Engine} (engines : (L d).Engines e e') {i : Nat} (sees : (L d).Sees i)
include concerted engines sees

theorem proceed : (L d).Same (proceedUnder plan e i) (proceedUnder plan' e' i) := by
  refine .bind (.fetchInstruction sees) fun ins? => ?_
  cases ins? with
  | some ins =>
    rw [engines.fuel]
    exact .supervise (concerted.instruction e.fuel i ins) (.step engines sees ins)
  | none =>
    rw [engines.fuel]
    refine .bind (.supervise (concerted.startOver e.fuel i) (.startOver engines sees)) ?_
    exact fun again => .ite (.pure _) (.pure _)

/-- **The run of a frame does the same**, step by step. -/
theorem runFrame (steps : Nat) :
    (L d).Same (runFrameUnder plan e i steps) (runFrameUnder plan' e' i steps) := by
  induction steps with
  | zero => exact .throw _
  | succ steps ih =>
    rw [runFrameUnder, runFrameUnder]
    refine .bind (proceed concerted engines sees) fun flow => ?_
    cases flow with
    | next => exact ih
    | done v => exact .pure v

end Frames

include layered concerted

/-- **Requests are carried out alike**, at every level.  The induction is on the bound. -/
theorem engines (respects : ∀ d, host.Respects (L d)) (fuel d : Nat) :
    (L d).Engines (plan.engine host fuel) (plan'.engine host fuel) := by
  induction fuel generalizing d with
  | zero => exact ⟨rfl, fun h _ => .error _ h⟩
  | succ fuel ih =>
    refine ⟨rfl, fun {m n q q'} h asked => ?_⟩
    show Alike (L d).Rel (plan.supervise (.request (fuel + 1) q) _ m)
      (plan'.supervise (.request (fuel + 1) q') _ n)
    rcases concerted.request (fuel + 1) h asked with
      ⟨failure, m', n', left, right, h'⟩ | ⟨left, right, room⟩
    · rw [Plan.supervise_fails left, Plan.supervise_fails right]
      exact .error failure h'
    rw [Plan.supervise_carriedOut left, Plan.supervise_carriedOut right]
    -- what is entered is one level deeper, and what is alike there is told by the next likeness
    cases (layered.converses d).akin h asked with
    | call arguments bound =>
      have counted : (L d).Rel m.counted n.counted :=
        changed h fun c => { c with reentry := c.reentry + 1 }
      have asked' := (layered.converses d).counted asked
      refine Alike.finally_ ((layered.converses d).callValue (ih d) (respects d) counted asked') ?_
      exact fun m' n' h' => changed h' fun c => { c with reentry := c.reentry - 1 }
    | enter f parameters restart =>
      show Alike (L d).Rel (withFrame f parameters restart _ m) (withFrame f parameters restart _ n)
      have room : n.config.maxCallDepth ≤ n.depth ↔ m.config.maxCallDepth ≤ m.depth :=
        room ⟨f, parameters, restart, rfl⟩
      rw [withFrame_eq, withFrame_eq]
      by_cases full : m.config.maxCallDepth ≤ m.depth
      · rw [if_pos full, if_pos (room.mpr full)]
        exact Same.raise _ m n h
      · rw [if_neg full, if_neg (fun full' => full (room.mp full')), layered.depth h]
        refine Alike.finally_ (R := (L (d + 1)).Rel) ?_ fun m' n' => layered.popped
        exact runFrame concerted (ih (d + 1)) (layered.sees h) fuel _ _
          (layered.pushed h f parameters restart)

end Likeness.Layered

/-! ## One likeness at all levels -/

namespace Likeness.Stacked
variable {L : Likeness} (stacked : L.Stacked)
include stacked

theorem pushed {m n : Machine} (h : L.Rel m n) (f : FunctionFacet) (parameters : Array Value)
    (restart : Option Restart) :
    L.Rel (m.pushFrame f parameters restart) (n.pushFrame f parameters restart) := by
  have same : n.pushFrame f parameters restart =
      (n.refill { n.contents with slots := n.slots.push (freshReferrables f.stub parameters) }).restacked
        (m.pushFrame f parameters restart).frames (m.pushFrame f parameters restart).depth := by
    simp only [Machine.pushFrame, Machine.roomyFrames, Machine.startFrame, stacked.frames h,
      stacked.depth h, slots h]
    rfl
  rw [same]
  exact stacked.restacked (changed h fun c => { c with
    slots := c.slots.push (freshReferrables f.stub parameters) }) _ _

theorem popped {m n : Machine} (h : L.Rel m n) : L.Rel m.popFrame n.popFrame := by
  have same : n.popFrame = n.restacked m.popFrame.frames m.popFrame.depth := by
    simp only [Machine.popFrame, stacked.frames h, stacked.depth h]
    rfl
  rw [same]
  exact stacked.restacked h _ _

/-- It serves at all levels. -/
theorem layered : Layered fun _ => L where
  converses _ := stacked.toConversing
  depth := stacked.depth
  sees {d m n} _ m' n' h' := by rw [Machine.frame, stacked.frames h', Machine.frame]
  pushed := stacked.pushed
  popped := stacked.popped

end Likeness.Stacked

namespace Likeness.Calling
variable {L : Likeness} (calling : L.Calling) {host : Host}
include calling

theorem concerted {plan : Plan} (spares : L.Spares plan) : Concerted (fun _ => L) .idle plan where
  request {d m n q q'} fuel h asked :=
    .inr ⟨rfl, spares.request fuel h asked, fun _ => by rw [calling.limit h, calling.depth h]⟩
  instruction fuel i ins _ n := ⟨rfl, spares.instruction fuel i ins n⟩
  startOver fuel i _ n := ⟨rfl, spares.startOver fuel i n⟩

/-- **Requests are carried out alike**, the one time under a plan that spares them. -/
theorem engines {plan : Plan} (spares : L.Spares plan) (respects : host.Respects L) (fuel : Nat) :
    L.Engines (.ofHost host fuel) (plan.engine host fuel) := by
  have planned := calling.layered.engines (calling.concerted spares) (fun _ => respects) fuel 0
  rwa [Plan.engine_truthful (Plan.idle_truthful host)] at planned

/-- Requests are carried out alike if there is no plan. -/
theorem engines_alone (respects : host.Respects L) (fuel : Nat) :
    L.Engines (.ofHost host fuel) (.ofHost host fuel) := by
  have planned := calling.engines L.spares_idle respects fuel
  rwa [Plan.engine_truthful (Plan.idle_truthful host)] at planned

end Likeness.Calling

end StubMachine
