import StubMachine.Proofs.Branding
import StubMachine.Proofs.Demand

/-!
# What the limit of the call stack is good for

A machine refuses to enter a function when as many frames are active as its settings allow.
This module shows that the limit does nothing else: **a session in which no function is refused
takes the same course under every higher limit** (`higher_limit_changes_nothing`).

That no function is refused means that every request of the session fits under the lower limit:
the session is the same if all that does not fit fails in some other way.  The proof has it fail
with a brand, under either limit.  Then the two runs are alike, step by step, for the same
requests fail in both (`Likeness.limits_concerted`).  Under the lower limit the run is the real one, and
has no brand; so the one under the higher limit has none, and is the real one, too.
-/

namespace StubMachine

open StubMachine.Action

namespace Machine

/-- The machine with another limit of its call stack. -/
def limited (limit : Nat) (m : Machine) : Machine :=
  { m with config := { m.config with maxCallDepth := limit } }

end Machine

/-- **There is room under a limit for what is asked**: fewer frames are active, if it is to enter a
function. -/
def Request.FitsUnder (limit : Nat) (m : Machine) (q : Request) : Prop :=
  (∃ f parameters restart, q = .enter f parameters restart) → m.depth < limit

/-- There is room for what is asked under the limit of the machine. -/
def Request.Fits (m : Machine) (q : Request) : Prop := q.FitsUnder m.config.maxCallDepth m

/-- **An entering that finds no room is refused**, and none else is. -/
theorem perform_enter_eq (host : Host) (fuel : Nat) (f : FunctionFacet) (parameters : Array Value)
    (restart : Option Restart) (m : Machine) :
    perform host (fuel + 1) (.enter f parameters restart) m =
      if m.config.maxCallDepth ≤ m.depth then (raise .depthExceeded : Action Value) m
      else finally_ (runFrame (.ofHost host fuel) m.depth fuel) Machine.popFrame
        (m.pushFrame f parameters restart) :=
  withFrame_eq f parameters restart _ m

/-! ## The likeness -/

/-- **States are alike that have one limit and the other** and are the same otherwise. -/
def Likeness.limits (lower higher : Nat) : Likeness where
  Rel m n := m.config.maxCallDepth = lower ∧ n = m.limited higher
  Binds _ _ _ _ := False
  Asks _ _ q q' := q' = q
  contents h := by rw [h.2]; rfl
  location h := by rw [h.2]; rfl
  callStack h := by rw [h.2]; rfl
  size h := by rw [h.2]; rfl
  objects h o := by rw [h.2]; exact .refl _
  refilled h c := ⟨h.1, by rw [h.2]; rfl⟩
  updated {m n} h o {f f'} _ like := by
    have same : f' = f := funext fun a => (like a a (.refl a)).eq_of_never
    rw [h.2, same]
    exact ⟨h.1, rfl⟩
  pushed h object := ⟨h.1, by rw [h.2]; rfl⟩
  reframed h i f := ⟨h.1, by rw [h.2]; rfl⟩
  call _ _ _ := rfl
  accessor {m n o members x y function arguments} h left right _ := by
    rw [h.2] at right
    cases left.symm.trans right
    rfl
  loop _ _ := rfl

namespace Likeness
variable {lower higher : Nat}

theorem limits_stacked (lower higher : Nat) : (limits lower higher).Stacked where
  frames h := by rw [h.2]; rfl
  depth h := by rw [h.2]; rfl
  restacked h frames depth := ⟨h.1, by rw [h.2]; rfl⟩
  akin {m n q q'} _ asked := asked ▸ .refl m q
  counted asked := asked
  entering _ _ _ _ _ := rfl

/-- **What does not fit under the lower limit fails under both**, and what fits finds room. -/
theorem limits_concerted (le : lower ≤ higher) (reserve : Nat) :
    Concerted (fun _ => limits lower higher) (.branding Request.Fits reserve)
      (.branding (Request.FitsUnder lower) reserve) where
  request {d m n q q'} fuel h asked := by
    obtain ⟨rfl, rfl⟩ := h
    obtain rfl : q' = q := asked
    by_cases fits : q'.Fits m
    · refine .inr ⟨Plan.branding_none fits, Plan.branding_none fits, fun enters => ?_⟩
      have room : m.depth < m.config.maxCallDepth := fits enters
      show higher ≤ m.depth ↔ m.config.maxCallDepth ≤ m.depth
      omega
    · exact .inl ⟨.exhausted, m.reserved reserve, (m.limited higher).reserved reserve,
        Plan.branding_fails fits, Plan.branding_fails fits, rfl, rfl⟩
  instruction fuel i ins m n := by
    constructor
    · refine Plan.branding_spares _ _ _ ?_
      rintro _ _ ⟨⟩
    · refine Plan.branding_spares _ _ _ ?_
      rintro _ _ ⟨⟩
  startOver fuel i m n := by
    constructor
    · refine Plan.branding_spares _ _ _ ?_
      rintro _ _ ⟨⟩
    · refine Plan.branding_spares _ _ _ ?_
      rintro _ _ ⟨⟩

end Likeness

/-- **Functions of the embedder that do not look at the limit**: they do the same in states that
differ in it alone. -/
def Host.IgnoresLimit (host : Host) : Prop :=
  ∀ lower higher, host.Respects (Likeness.limits lower higher)

theorem Host.Scripted.ignoresLimit {host : Host} (scripted : host.Scripted) : host.IgnoresLimit :=
  fun lower higher => scripted.respects (Likeness.limits lower higher)

/-- **A higher limit changes nothing** but the limit.  If in a session no function is refused, then
under a higher limit it gives the same answers, and the embedder has been asked and told the same
in the same order; the states in which it ends differ in the limit alone.  (A new machine with
another limit is a new machine.) -/
theorem higher_limit_changes_nothing {host : Host} (confined : host.Confined)
    (ignores : host.IgnoresLimit) (m : Machine) {higher : Nat} (le : m.config.maxCallDepth ≤ higher)
    (fuel : Nat) (session : Session) (room : session.OnlyAsks host fuel Request.Fits m) :
    let ended := session.run host (.ofHost host fuel) m
    let ended' := session.run host (.ofHost host fuel) (m.limited higher)
    ended'.1 = ended.1 ∧ ended'.2.events = ended.2.events ∧ ended'.2 = ended.2.limited higher := by
  intro ended ended'
  let lower := m.config.maxCallDepth
  let reserve := m.config.valueStackReserve
  let plan := Plan.branding Request.Fits (reserve + 1)
  let plan' := Plan.branding (Request.FitsUnder lower) (reserve + 1)
  let L := Likeness.limits lower higher
  have engines : L.Engines (plan.engine host fuel) (plan'.engine host fuel) :=
    (Likeness.limits_stacked _ _).layered.engines (Likeness.limits_concerted le _)
      (fun _ => ignores _ _) fuel 0
  -- Under the lower limit the plan makes no difference.
  have lower_eq : session.run host (plan.engine host fuel) m = ended :=
    room plan (Plan.branding_spares _ _)
  obtain ⟨answers, -, state⟩ := L.session engines host session (m := m) ⟨rfl, rfl⟩
  rw [lower_eq] at answers state
  -- So under the higher one the run has no brand, and is the one without the plan.
  have config_eq : ended.2.config = m.config := session.config_eq confined fuel m
  have higher_eq : session.run host (plan'.engine host fuel) (m.limited higher) = ended' := by
    have brands := Plan.branding_brands (Request.FitsUnder lower) reserve
    rcases session.same_or_branded brands confined fuel (m.limited higher) with same | branded
    · exact same
    · rw [state] at branded
      exact absurd (congrArg Config.valueStackReserve config_eq) branded
  rw [higher_eq] at answers state
  exact ⟨answers, (congrArg Machine.events state).trans rfl, state⟩

/-! ## Room enough -/

/-- The law that settings and depth stay the same, for states in which there is room for so many
more frames. -/
def Law.roomy (room : Nat) : Law where
  Holds m := m.depth + room ≤ m.config.maxCallDepth
  Rel _ m m' := m'.config = m.config ∧ m'.depth = m.depth
  holds h rel := by rw [rel.1, rel.2]; exact h
  refl _ _ := ⟨rfl, rfl⟩
  trans h h' := ⟨h'.1.trans h.1, h'.2.trans h.2⟩
  ofNative h := h
  ofInstruction h := h
  stored h := ⟨h.config, h.depth⟩
  signalled _ _ _ := ⟨rfl, rfl⟩
  quieted _ := ⟨rfl, rfl⟩
  reported _ _ _ := ⟨rfl, rfl⟩
  frame _ _ _ _ := ⟨rfl, rfl⟩
  reframe _ _ _ _ := ⟨rfl, rfl⟩

instance (room : Nat) : (Law.roomy room).Lenient := ⟨fun h => ⟨h.config, h.depth⟩⟩

theorem Action.finally_congr {α : Type} {x y : Action α} (f : Machine → Machine) {m : Machine}
    (same : x m = y m) : finally_ x f m = finally_ y f m := by
  rw [finally_, finally_, same]

section Roomy
variable {plan : Plan} (spares : plan.Spares Request.Fits) {host : Host} (confined : host.Confined)
include spares

theorem runFrameUnder_roomy {e e' : Engine} (fuel : e'.fuel = e.fuel) {room : Nat}
    (requests : ∀ q, (Law.roomy room).Lockstep .native (e.perform q) (e'.perform q)) (i steps : Nat) :
    (Law.roomy room).Lockstep (.activation i) (runFrame e i steps)
      (runFrameUnder plan e' i steps) := by
  have own {r : Rank} {α : Type} {x : Procedure α} (h : Routine .alone r x) :
      (Law.roomy room).Lockstep r (x e) (x e') := h.lockstep fuel requests fun _ => False.elim
  have carriedOut {α : Type} {activity : Activity} (x : Action α)
      (other : ∀ fuel q, activity = .request fuel q → False) : plan.supervise activity x = x := by
    funext m
    exact Plan.supervise_carriedOut (spares ⟨activity, m⟩ fun fuel q asked => (other fuel q asked).elim)
  have proceeds : (Law.roomy room).Lockstep (.activation i) (proceed e i) (proceedUnder plan e' i) := by
    refine .bind (own (.within (fetchInstruction_routine i))) fun ins? => ?_
    cases ins? with
    | some ins =>
      dsimp only
      rw [carriedOut (step e' i ins) fun _ _ asked => by cases asked]
      exact own (.within (step_routine i ins))
    | none =>
      have again : Routine .alone (.activation i) fun e => startOver e i := startOver_routine i
      dsimp only
      rw [carriedOut (startOver e' i) fun _ _ asked => by cases asked]
      refine .bind (own again) fun again => ?_
      cases again with
      | true => exact .of_rel fun m => Law.refl _ _ m
      | false => exact .of_rel fun m => Law.refl _ _ m
  induction steps with
  | zero => exact .of_rel fun m => Law.refl _ _ m
  | succ steps ih =>
    rw [runFrame_succ]
    refine .bind proceeds fun flow => ?_
    cases flow with
    | next => exact ih
    | done v => exact .of_rel fun m => Law.refl _ _ m

include confined

/-- **Requests all fit that are made with less fuel than there is room.**  The induction is on the
fuel: a frame that is entered takes one unit of it. -/
theorem performUnder_roomy (fuel : Nat) (q : Request) :
    (Law.roomy fuel).Lockstep .native (perform host fuel q) (performUnder plan host fuel q) := by
  induction fuel generalizing q with
  | zero => exact .of_rel fun m => Law.refl _ _ m
  | succ fuel ih =>
    have own : (plan.engine host fuel).fuel = (Engine.ofHost host fuel).fuel := rfl
    intro m room
    have room : m.depth + (fuel + 1) ≤ m.config.maxCallDepth := room
    have fits : q.Fits m := fun _ => by omega
    have carriedOut (x : Action Value) : plan.supervise (.request (fuel + 1) q) x m = x m := by
      refine Plan.supervise_carriedOut (spares _ fun fuel' q' asked => ?_)
      cases asked
      exact fits
    cases q with
    | call function arguments binding =>
      have called := callValue_lockstep (L := Law.roomy fuel) confined own ih function arguments binding
      obtain ⟨same, rel⟩ := called { m with reentry := m.reentry + 1 } (Nat.le_of_succ_le room)
      constructor
      · refine (carriedOut _).trans ?_
        show underway _ m = underway _ m
        rw [underway_eq, underway_eq]
        exact finally_congr _ same
      · show (Law.roomy fuel).Rel .native m ((finally_ _ _).after { m with reentry := m.reentry + 1 })
        rw [Action.after_finally]
        exact rel
    | enter f parameters restart =>
      have full : ¬ m.config.maxCallDepth ≤ m.depth := by omega
      have entered : (m.pushFrame f parameters restart).depth + fuel ≤ m.config.maxCallDepth := by
        show m.depth + 1 + fuel ≤ m.config.maxCallDepth
        omega
      obtain ⟨same, config, depth⟩ := runFrameUnder_roomy spares own ih m.depth fuel _ entered
      constructor
      · refine (carriedOut _).trans ?_
        show withFrame f parameters restart _ m = withFrame f parameters restart _ m
        rw [withFrame_eq, withFrame_eq, if_neg full, if_neg full]
        exact finally_congr _ same
      · show (Law.roomy fuel).Rel .native m ((withFrame f parameters restart _).after m)
        rw [after_withFrame full]
        exact ⟨config, (congrArg (· - 1) depth).trans rfl⟩

end Roomy

/-- **In a session with less fuel than there is room no function is refused.** -/
theorem Session.onlyAsks_of_room {host : Host} (confined : host.Confined) {fuel : Nat}
    (session : Session) {m : Machine} (room : m.depth + fuel ≤ m.config.maxCallDepth) :
    session.OnlyAsks host fuel Request.Fits m := by
  intro plan spares
  induction session generalizing m with
  | ends => rfl
  | deals d next ih =>
    have own : (plan.engine host fuel).fuel = (Engine.ofHost host fuel).fuel := rfl
    obtain ⟨same, rel⟩ := (d.carryOut_embedded host).lockstep (L := Law.roomy fuel) own
      (performUnder_roomy spares confined fuel) m room
    have answers : d.answer host (plan.engine host fuel) m = d.answer host (.ofHost host fuel) m := by
      rw [Dealing.answer, same, Dealing.answer]
    have state : (d.answer host (.ofHost host fuel) m).2 = (d.carryOut host (.ofHost host fuel)).after m := by
      rw [Action.after, Dealing.answer]
      cases d.carryOut host (.ofHost host fuel) m with
      | ok given m' => rfl
      | error failure m' => rfl
    have later := (Law.roomy fuel).holds room rel
    rw [← state] at later
    rw [run, run, answers, ih _ later]

/-- A function without code returns Empty also when a thousand more frames may be active. -/
theorem higher_limit_of_empty_function :
    let m := Machine.offering (.ofStub (Stub.blank 1 1))
    let session := Session.deals (.enter (.callFunction (.object ⟨1⟩) [])) fun _ => .ends
    let ended := session.run .complaining (.ofHost .complaining 4) m
    let ended' := session.run .complaining (.ofHost .complaining 4)
      (m.limited (m.config.maxCallDepth + 1000))
    ended.1 = [.ok [.empty]] ∧ ended'.1 = ended.1 ∧ ended'.2.events = ended.2.events := by
  intro m session ended ended'
  have confined := Host.complaining_modest.confined
  have room : session.OnlyAsks .complaining 4 Request.Fits m :=
    session.onlyAsks_of_room confined (by decide)
  obtain ⟨answers, events, -⟩ := higher_limit_changes_nothing confined
    (fun _ _ => Host.complaining_respects _) m (Nat.le_add_right _ 1000) 4 session room
  exact ⟨rfl, answers, events⟩

end StubMachine
