import StubMachine.Proofs.Demand

/-!
# Failures that leave a brand

To show that something never happens in a run, one has it fail and shows that this makes no
difference.  For that the two runs must be told apart if it did happen.  So a plan of failures
may **brand** the state in which an activity fails (`Plan.Brands`), by settings that the machine
does not have otherwise.

Nothing the machine does changes its settings, so a brand is never lost, whoever deals with the
failure.  **A run under a plan that brands therefore ends branded, or it is the run without the
plan** (`Plan.engine_strays`, `Session.strays`).  A branded run may go anywhere
(`Strays`); of a run that ends without a brand it follows that nothing in it was made to fail.
-/

namespace StubMachine

open StubMachine.Action

/-! ## Settings stay -/

/-- The law that the settings stay the same. -/
def Law.settings : Law where
  Holds _ := True
  Rel _ m m' := m'.config = m.config
  holds _ _ := trivial
  refl _ _ := rfl
  trans h h' := h'.trans h
  ofNative h := h
  ofInstruction h := h
  stored h := h.config
  signalled _ _ _ := rfl
  quieted _ := rfl
  reported _ _ _ := rfl
  frame _ _ _ _ := rfl
  reframe _ _ _ _ := rfl

instance : Law.settings.Lenient := ⟨fun h => h.config⟩

/-! ## Straying -/

section
variable {Branded : Config → Prop} {α β : Type}

/-- **An outcome that may be astray** compared with another one: it is the same, or branded.  What
was branded before is so still. -/
structure Astray (Branded : Config → Prop) (before : Machine) (r r' : Outcome α) : Prop where
  lasts : Branded before.config → Branded r'.state.config
  same : r' = r ∨ Branded r'.state.config

/-- **An action that may go astray**: it does the same as another one, or brands the state. -/
def Strays (Branded : Config → Prop) (x x' : Action α) : Prop :=
  ∀ m, Astray Branded m (x m) (x' m)

namespace Astray
variable {m : Machine} {r r' : Outcome α}

/-- An outcome with the settings of before. -/
theorem of_config (config : r.state.config = m.config) : Astray Branded m r r :=
  ⟨fun branded => config ▸ branded, .inl rfl⟩

/-- Only the settings of before matter. -/
theorem since {m' : Machine} (h : Astray Branded m' r r') (config : m'.config = m.config) :
    Astray Branded m r r' :=
  ⟨fun branded => h.lasts (config ▸ branded), h.same⟩

/-- Going on with what may be astray. -/
theorem andThen (h : Astray Branded m r r') {k l : Outcome α → Outcome β}
    (next : ∀ r, Astray Branded r.state (k r) (l r)) : Astray Branded m (k r) (l r') := by
  refine ⟨fun branded => (next r').lasts (h.lasts branded), ?_⟩
  rcases h.same with rfl | branded
  · exact (next r').same
  · exact .inr ((next r').lasts branded)

end Astray

namespace Strays
variable {x x' : Action α} {k k' : α → Action β}

/-- What leaves the settings alone does not go astray. -/
theorem of_law {r : Rank} (h : Law.settings.Lockstep r x x) : Strays Branded x x := by
  intro m
  have config : (x.after m).config = m.config := (h m trivial).2
  rw [Action.after] at config
  refine .of_config ?_
  cases run : x m with
  | ok a m' =>
    rw [run] at config
    exact config
  | error failure m' =>
    rw [run] at config
    exact config

theorem bind (hx : Strays Branded x x') (hk : ∀ a, Strays Branded (k a) (k' a)) :
    Strays Branded (x >>= k) (x' >>= k') := by
  intro m
  refine (hx m).andThen (k := fun r => ((fun _ => r : Action α) >>= k) m)
    (l := fun r => ((fun _ => r : Action α) >>= k') m) fun r => ?_
  cases r with
  | ok a m₁ => exact hk a m₁
  | error failure m₁ => exact .of_config rfl

/-- Dealing with a failure. -/
theorem recover {k k' : Failure → Action α} (hx : Strays Branded x x')
    (hk : ∀ failure, Strays Branded (k failure) (k' failure)) :
    Strays Branded (tryCatch x k) (tryCatch x' k') := by
  intro m
  refine (hx m).andThen (k := fun r => tryCatch (fun _ => r) k m)
    (l := fun r => tryCatch (fun _ => r) k' m) fun r => ?_
  cases r with
  | ok a m₁ => exact .of_config rfl
  | error failure m₁ => exact hk failure m₁

theorem attempt {x x' : Action Value} (hx : Strays Branded x x') :
    Strays Branded (tryCatch x raiseFailure) (tryCatch x' raiseFailure) := by
  refine recover hx fun failure m => ?_
  rcases raiseFailure_eq failure m with eq | ⟨detail, eq⟩
  · rw [eq]
    exact .of_config rfl
  · rw [eq]
    exact of_law (r := .native) (.raiseError detail) m

theorem finally_ {f : Machine → Machine} (hx : Strays Branded x x')
    (config : ∀ m, (f m).config = m.config) :
    Strays Branded (Action.finally_ x f) (Action.finally_ x' f) := by
  intro m
  refine (hx m).andThen (k := fun r => Action.finally_ (fun _ => r) f m)
    (l := fun r => Action.finally_ (fun _ => r) f m) fun r => .of_config ?_
  cases r with
  | ok a m₁ => exact config m₁
  | error failure m₁ => exact config m₁

theorem settle {x x' : Action Value} (hx : Strays Branded x x') :
    Strays Branded (StubMachine.settle x) (StubMachine.settle x') := by
  intro m
  refine (hx m).andThen (k := fun r => StubMachine.settle (fun _ => r) m)
    (l := fun r => StubMachine.settle (fun _ => r) m) fun r => .of_config ?_
  rcases settle_cases (fun _ => r) m with eq | ⟨failure, m', rfl, -, settled⟩
  · rw [eq]
  · rcases settled with ⟨c, -, -, -, eq⟩ | ⟨c, -, -, -, eq⟩ | ⟨-, eq⟩
    · rw [eq]
      rfl
    · rw [eq]
      rfl
    · rw [eq]
      rfl

/-- **Listening does not go astray** if calling does not. -/
theorem listen {e e' : Engine} (called : ∀ f args, Strays Branded (e.call f args) (e'.call f args))
    (function response : Value) :
    Strays Branded (StubMachine.listen e function response)
      (StubMachine.listen e' function response) := by
  intro m
  rw [listen_eq, listen_eq]
  refine (called function [] m).andThen fun r => ?_
  cases r with
  | ok v m₁ => exact .of_config rfl
  | error failure m₁ =>
    cases failure with
    | unwinding =>
      rw [resumeListening, resumeListening]
      cases m₁.pending with
      | none => exact .of_config rfl
      | some c =>
        dsimp only
        rw [respond_eq, respond_eq]
        cases handler? m₁.quieted response c.kind with
        | some handler => exact (called handler _ m₁.quieted).since rfl
        | none =>
          cases c.kind with
          | send => exact .of_config rfl
          | error => exact .of_config rfl
    | _ => exact .of_config rfl

end Strays

/-- **Routines do not go astray** but for the requests that they make. -/
theorem Routine.strays {P : License} {e e' : Engine} (fuel : e'.fuel = e.fuel)
    (requests : ∀ q, Strays Branded (e.perform q) (e'.perform q))
    (foreign : ∀ y, P.foreign y → Strays Branded (y e) (y e')) {r : Rank} {x : Procedure α}
    (h : Routine P r x) : Strays Branded (x e) (x e') := by
  induction h with
  | bind _ _ ihx ihk => exact .bind ihx ihk
  | fuel _ ih =>
    dsimp only
    rw [fuel]
    exact ih e.fuel
  | callBound function arguments binding => exact requests _
  | enter f parameters restart _ => exact requests _
  | listen function response => exact .listen (fun _ _ => requests _) function response
  | attempt _ ih => exact .attempt ih
  | settle _ ih => exact .settle ih
  | foreign hx => exact foreign _ hx
  | within _ ih => exact ih
  | pure a => exact .of_law (r := .native) (.of_rel fun m => rfl)
  | read f => exact .of_law (r := .native) (.read f)
  | store f stored => exact .of_law (r := .native) (.of_rel fun m => (stored m).config)
  | meddle f same _ => exact .of_law (r := .native) (.of_course same)
  | raiseError detail => exact .of_law (r := .native) (.raiseError detail)
  | raiseSend payload => exact .of_law (r := .native) (.of_rel fun m => rfl)
  | fatal cause => exact .of_law (r := .native) (.of_rel fun m => rfl)
  | exhausted => exact .of_law (r := .native) (.of_rel fun m => rfl)
  | fault f => exact .of_law (r := .native) (.of_rel fun m => rfl)
  | frame i f h => exact .of_law (r := .native) (.of_rel fun m => rfl)
  | assign i slot v _ => exact .of_law (r := .native) (.writeReferrable i slot v)
  | closure i id types => exact .of_law (r := .native) (.makeClosure i id types)
  | reframe i f h => exact .of_law (r := .native) (.of_rel fun m => rfl)

/-- What an embedder does goes astray only if requests do. -/
theorem Embedded.strays {e e' : Engine} (fuel : e'.fuel = e.fuel)
    (requests : ∀ q, Strays Branded (e.perform q) (e'.perform q)) {x : Procedure α}
    (h : Embedded x) : Strays Branded (x e) (x e') := by
  induction h with
  | machine hx => exact hx.strays fuel requests fun _ => False.elim
  | bind _ _ ihx ihk => exact .bind ihx ihk
  | signal kind payload => exact .of_law (r := .native) (.of_rel fun m => rfl)
  | fail failure => exact .of_law (r := .native) (.of_rel fun m => rfl)
  | recover _ _ ihx ihk => exact .recover ihx ihk

end

/-! ## Plans that brand -/

/-- **A plan that brands**: whatever it has fail leaves a brand. -/
def Plan.Brands (Branded : Config → Prop) (plan : Plan) : Prop :=
  ∀ μ failure n, plan μ = some (failure, n) → Branded n.config

/-- The machine with other room set aside for values, which it makes no use of. -/
def Machine.reserved (reserve : Nat) (m : Machine) : Machine :=
  { m with config := { m.config with valueStackReserve := reserve } }

open Classical in
/-- The plan that brands all requests but those that meet a condition. -/
noncomputable def Plan.branding (Met : Machine → Request → Prop) (reserve : Nat) : Plan := fun μ =>
  if ∃ fuel q, μ.activity = .request fuel q ∧ ¬ Met μ.machine q
  then some (.exhausted, μ.machine.reserved reserve)
  else none

namespace Plan
variable {Met : Machine → Request → Prop} {reserve : Nat}

theorem branding_fails {fuel : Nat} {q : Request} {m : Machine} (unmet : ¬ Met m q) :
    branding Met reserve ⟨.request fuel q, m⟩ = some (.exhausted, m.reserved reserve) :=
  if_pos ⟨fuel, q, rfl, unmet⟩

theorem branding_spares (Met : Machine → Request → Prop) (reserve : Nat) :
    (branding Met reserve).Spares Met := by
  refine fun μ met => if_neg ?_
  rintro ⟨fuel, q, asked, unmet⟩
  exact unmet (met fuel q asked)

theorem branding_none {fuel : Nat} {q : Request} {m : Machine} (met : Met m q) :
    branding Met reserve ⟨.request fuel q, m⟩ = none := by
  refine branding_spares Met reserve _ fun fuel' q' asked => ?_
  cases asked
  exact met

theorem branding_brands (Met : Machine → Request → Prop) (reserve : Nat) :
    (branding Met (reserve + 1)).Brands fun c => c.valueStackReserve ≠ reserve := by
  intro μ failure n planned
  unfold branding at planned
  split at planned
  · cases planned
    exact Nat.succ_ne_self reserve
  · cases planned

end Plan

/-! ## Requests -/

section
variable {Branded : Config → Prop} {plan : Plan} (brands : plan.Brands Branded)
include brands

theorem Plan.supervise_strays {α : Type} {activity : Activity} {x x' : Action α}
    (h : Strays Branded x x') : Strays Branded x (plan.supervise activity x') := by
  intro m
  cases planned : plan ⟨activity, m⟩ with
  | none =>
    rw [supervise_carriedOut planned]
    exact h m
  | some mishap =>
    have branded : Branded mishap.2.config := brands _ _ _ planned
    rw [supervise_fails planned]
    exact ⟨fun _ => branded, .inr branded⟩

theorem runFrameUnder_strays {e e' : Engine} (fuel : e'.fuel = e.fuel)
    (requests : ∀ q, Strays Branded (e.perform q) (e'.perform q)) (i steps : Nat) :
    Strays Branded (runFrame e i steps) (runFrameUnder plan e' i steps) := by
  have own {r : Rank} {α : Type} {x : Procedure α} (h : Routine .alone r x) :
      Strays Branded (x e) (x e') := h.strays fuel requests fun _ => False.elim
  have proceeds : Strays Branded (proceed e i) (proceedUnder plan e' i) := by
    refine .bind (own (fetchInstruction_routine i)) fun ins? => ?_
    cases ins? with
    | some ins => exact Plan.supervise_strays brands (own (step_routine i ins))
    | none =>
      have again : Routine .alone (.activation i) fun e => startOver e i := startOver_routine i
      refine .bind (Plan.supervise_strays brands (own again)) fun again => ?_
      cases again with
      | true => exact .of_law (r := .native) (.of_rel fun m => rfl)
      | false => exact .of_law (r := .native) (.of_rel fun m => rfl)
  induction steps with
  | zero => exact .of_law (r := .native) (.of_rel fun m => rfl)
  | succ steps ih =>
    rw [runFrame_succ]
    refine .bind proceeds fun flow => ?_
    cases flow with
    | next => exact ih
    | done v => exact .of_law (r := .native) (.of_rel fun m => rfl)

/-- **Requests under a plan that brands are the requests without it, or leave a brand.**  The
induction is on the bound. -/
theorem Plan.engine_strays {host : Host} (confined : host.Confined) (fuel : Nat) (q : Request) :
    Strays Branded ((Engine.ofHost host fuel).perform q) ((plan.engine host fuel).perform q) := by
  induction fuel generalizing q with
  | zero => exact .of_law (r := .native) (.of_rel fun m => rfl)
  | succ fuel ih =>
    have own : (plan.engine host fuel).fuel = (Engine.ofHost host fuel).fuel := rfl
    refine supervise_strays brands (x := perform host (fuel + 1) q) ?_
    cases q with
    | call function arguments binding =>
      -- native code counts as foreign; how it behaves is known of the host
      let P : License := .full fun y => ∃ handle args, y = fun e => host.native handle e args
      have routine : Routine P .native fun e => callValue host e function arguments binding :=
        callValue_routine (P := P) (fun handle args => ⟨handle, args, rfl⟩) (fun _ => trivial)
          function arguments binding
      have called := routine.strays own ih fun y => by
        rintro ⟨handle, args, rfl⟩
        exact (confined handle args).strays own ih
      intro m
      have counted := called.finally_ (f := fun m => { m with reentry := m.reentry - 1 })
        (fun _ => rfl) m.counted
      exact counted.since rfl
    | enter f parameters restart =>
      intro m
      show Astray Branded m (withFrame f parameters restart _ m) (withFrame f parameters restart _ m)
      rw [withFrame_eq, withFrame_eq]
      by_cases full : m.config.maxCallDepth ≤ m.depth
      · rw [if_pos full, if_pos full]
        exact Strays.of_law (r := .native) (.raiseError _) m
      · rw [if_neg full, if_neg full]
        have ran := runFrameUnder_strays brands own ih m.depth fuel
        have left := ran.finally_ (f := Machine.popFrame) (fun _ => rfl) (m.pushFrame f parameters restart)
        exact left.since rfl

end

/-! ## Sessions -/

/-- **Whatever an embedder asks** is something that an embedder can do. -/
theorem Dealing.carryOut_embedded (host : Host) (d : Dealing) :
    Embedded fun e => d.carryOut host e := by
  have listed (v : Value) : Embedded fun _ => (pure [v] : Action (List Value)) := .machine (.pure _)
  cases d with
  | enter entry => exact .bind (entry.start_embedded host) listed
  | register name parameters handle =>
    exact .bind (registerExternal_embedded name parameters handle) fun id => listed (.ofNat id)
  | getMember target key a => exact .bind (.machine (getMember_routine target key a)) listed
  | setMember target key v a => exact .bind (.machine (setMember_routine target key v a)) listed
  | keys o => exact .machine (objectKeys_routine o)
  | values o => exact .machine (objectValues_routine o)
  | convert v t => exact .bind (.machine (convertTo_routine v t)) listed
  | binary op l r => exact .bind (.machine (binaryOperation_routine op l r)) listed
  | unary op v => exact .bind (.machine (unaryOperation_routine op v)) listed
  | assign a current operand =>
    exact .bind (.machine (compoundAssignment_routine a current operand)) fun v? =>
      .machine (.pure v?.toList)
  | query base id => exact .bind (.machine (ask_routine base id)) listed
  | encode v => exact .bind (.machine (Native.encodeJson_routine v)) fun text => listed (.string text)
  | decode text => exact .bind (.machine (Native.decodeJson_routine text)) listed

/-- **Functions that only deal with the machine** do only what an embedder can do. -/
theorem Host.Scripted.confined {host : Host} (scripted : host.Scripted) : host.Confined := by
  intro handle args
  obtain ⟨script, acts⟩ := scripted handle args
  simp only [acts]
  clear acts
  induction script with
  | returns v => exact .machine (.pure v)
  | raises detail => exact .machine (.raiseError detail)
  | sends payload => exact .machine (.raiseSend payload)
  | fails failure => exact .fail failure
  | deals d next ih =>
    have answered (e : Engine) : (Script.deals d next).act host e =
        tryCatch (d.carryOut host e >>= fun given => pure (.ok given : Answer))
          (fun failure => pure (.error failure)) >>= fun answer => (next answer).act host e := by
      funext m
      show (next (d.answer host e m).1).act host e (d.answer host e m).2 = _
      rw [Action.bind_eq, Action.tryCatch_eq, Action.bind_eq]
      unfold Dealing.answer
      cases d.carryOut host e m with
      | ok given m' => rfl
      | error failure m' => rfl
    simp only [answered]
    refine .bind (.recover (.bind (d.carryOut_embedded host) fun given => ?_) fun failure => ?_) ih
    · exact .machine (.pure (Except.ok given))
    · exact .machine (.pure (Except.error failure))

section
variable {Branded : Config → Prop} {host : Host} {e e' : Engine} (fuel : e'.fuel = e.fuel)
  (requests : ∀ q, Strays Branded (e.perform q) (e'.perform q))
include fuel requests

/-- **A session is the same with both engines, or it ends branded**; and a brand lasts. -/
theorem Session.strays (session : Session) (m : Machine) :
    (Branded m.config → Branded (session.run host e' m).2.config) ∧
      (session.run host e' m = session.run host e m ∨
        Branded (session.run host e' m).2.config) := by
  induction session generalizing m with
  | ends => exact ⟨id, .inl rfl⟩
  | deals d next ih =>
    have carried := (d.carryOut_embedded host).strays fuel requests m
    have state : (d.answer host e' m).2 = Outcome.state (d.carryOut host e' m) := by
      unfold Dealing.answer
      cases d.carryOut host e' m with
      | ok given m' => rfl
      | error failure m' => rfl
    obtain ⟨lasts, same⟩ := ih (d.answer host e' m).1 (d.answer host e' m).2
    rw [run, run]
    dsimp only
    refine ⟨fun branded => lasts (state ▸ carried.lasts branded), ?_⟩
    rcases carried.same with eq | branded
    · have answers : d.answer host e' m = d.answer host e m := by
        rw [Dealing.answer, eq, Dealing.answer]
      rw [answers] at same ⊢
      rcases same with eq | branded
      · rw [eq]
        exact .inl rfl
      · exact .inr branded
    · exact .inr (lasts (state ▸ branded))

end

/-- **A session under a plan that brands ends branded, or it is the session without the plan.** -/
theorem Session.same_or_branded {Branded : Config → Prop} {plan : Plan} (brands : plan.Brands Branded)
    {host : Host} (confined : host.Confined) (fuel : Nat) (session : Session) (m : Machine) :
    session.run host (plan.engine host fuel) m = session.run host (.ofHost host fuel) m ∨
      Branded (session.run host (plan.engine host fuel) m).2.config := by
  have own : (plan.engine host fuel).fuel = (Engine.ofHost host fuel).fuel := rfl
  exact (session.strays own (Plan.engine_strays brands confined fuel) m).2

/-- **Every request that is made in the session meets a condition**: to have others fail makes no
difference. -/
def Session.OnlyAsks (host : Host) (fuel : Nat) (Met : Machine → Request → Prop) (session : Session)
    (m : Machine) : Prop :=
  ∀ plan : Plan, plan.Spares Met →
    session.run host (plan.engine host fuel) m = session.run host (.ofHost host fuel) m

/-- **A session leaves the settings alone.** -/
theorem Session.config_eq {host : Host} (confined : host.Confined) (fuel : Nat) (session : Session)
    (m : Machine) : (session.run host (.ofHost host fuel) m).2.config = m.config := by
  have idle : Plan.idle.Brands (· = m.config) := by
    rintro _ _ _ ⟨⟩
  have requests := Plan.engine_strays idle confined fuel
  rw [Plan.engine_truthful (Plan.idle_truthful host)] at requests
  obtain ⟨lasts, -⟩ := session.strays rfl requests m
  exact lasts rfl

end StubMachine
