import StubMachine.Proofs.Course
import StubMachine.Proofs.Settling

/-!
# Fatal failures are final

A fatal failure may occur while any number of calls, listeners, loops, accessors,
overloads, converters and native functions are under way, and each of them gets to see
it.  This module shows that none of them intercepts it.

`performUnder` carries out requests under a plan of failures.  Without any planned failure
it does what `perform` does, and it makes no difference either to have an activity fail in
the very way in which it does fail (`performUnder_truthful`).  **Under every plan the run
of anything follows a final course** (`performUnder_orderly`): the elementary actions do
not intercept a fatal failure, and so no operation does; frames and calls under way are
left in between, and nothing else happens.

What the embedder's functions do is up to the embedder.  They are assumed to hand on the
fatal failures that they get from the machine (`Host.HandsOnFatal`).
-/

namespace StubMachine

open StubMachine.Action

/-! ## Carrying out requests under a plan -/

/-- `proceed`, under a plan. -/
def proceedUnder (plan : Plan) (e : Engine) (i : Nat) : Action Flow := do
  match ← fetchInstruction i with
  | some ins => plan.supervise (.instruction e.fuel i ins) (step e i ins)
  | none =>
    if ← plan.supervise (.startOver e.fuel i) (startOver e i) then return .next
    else return .done .empty

/-- `runFrame`, under a plan. -/
def runFrameUnder (plan : Plan) (e : Engine) (i : Nat) : Nat → Action Value
  | 0 => throw .exhausted
  | steps + 1 => proceedUnder plan e i >>= Flow.resume (runFrameUnder plan e i steps)

/-- `perform`, under a plan. -/
def performUnder (plan : Plan) (host : Host) : Nat → Request → Action Value
  | 0, _ => throw .exhausted
  | fuel + 1, request =>
    let e : Engine := ⟨fuel, performUnder plan host fuel⟩
    plan.supervise (.request (fuel + 1) request) <|
      match request with
      | .call function arguments binding =>
        underway (callValue host e function arguments binding)
      | .enter facet parameters restart =>
        withFrame facet parameters restart fun i => runFrameUnder plan e i fuel

/-- The engine of a host under a plan. -/
def Plan.engine (plan : Plan) (host : Host) (fuel : Nat) : Engine :=
  ⟨fuel, performUnder plan host fuel⟩

/-- What is started at the moment fails, in the way and in the state given. -/
def Moment.FailsWith (host : Host) (μ : Moment) (failure : Failure) (n : Machine) : Prop :=
  match μ.activity with
  | .request fuel request => perform host fuel request μ.machine = .error failure n
  | .instruction fuel i ins => step (.ofHost host fuel) i ins μ.machine = .error failure n
  | .startOver fuel i => StubMachine.startOver (.ofHost host fuel) i μ.machine = .error failure n

namespace Plan

/-- What the plan has fail fails anyway, in the same way. -/
def Truthful (host : Host) (plan : Plan) : Prop :=
  ∀ μ failure n, plan μ = some (failure, n) → μ.FailsWith host failure n

theorem idle_truthful (host : Host) : idle.Truthful host := by
  intro μ failure n planned
  cases planned

theorem only_truthful {host : Host} {μ : Moment} {failure : Failure} {n : Machine}
    (fails : μ.FailsWith host failure n) : (only μ failure n).Truthful host := by
  intro ν failure' n' planned
  obtain ⟨rfl, eq⟩ := eq_of_only planned
  cases eq
  exact fails

end Plan

section Truthful
variable {plan : Plan} {host : Host}

/-- Having an activity fail that fails in this way anyway makes no difference. -/
theorem Plan.supervise_truthful {α : Type} {activity : Activity} {x : Action α}
    (h : ∀ m failure n, plan ⟨activity, m⟩ = some (failure, n) → x m = .error failure n) :
    plan.supervise activity x = x := by
  funext m
  cases planned : plan ⟨activity, m⟩ with
  | none => exact supervise_carriedOut planned
  | some mishap => exact (supervise_fails planned).trans (h m _ _ planned).symm

theorem runFrameUnder_truthful (truthful : plan.Truthful host) (fuel i steps : Nat) :
    runFrameUnder plan (.ofHost host fuel) i steps = runFrame (.ofHost host fuel) i steps := by
  have executes (ins : Instruction) :
      plan.supervise (.instruction fuel i ins) (step (.ofHost host fuel) i ins) =
        step (.ofHost host fuel) i ins :=
    Plan.supervise_truthful fun m failure n => truthful ⟨.instruction fuel i ins, m⟩ failure n
  have startsOver :
      plan.supervise (.startOver fuel i) (startOver (.ofHost host fuel) i) =
        startOver (.ofHost host fuel) i :=
    Plan.supervise_truthful fun m failure n => truthful ⟨.startOver fuel i, m⟩ failure n
  have proceeds : proceedUnder plan (.ofHost host fuel) i = proceed (.ofHost host fuel) i := by
    rw [proceedUnder, proceed]
    congr 1
    funext ins?
    cases ins? with
    | some ins => exact executes ins
    | none => exact congrArg (· >>= _) startsOver
  induction steps with
  | zero => rfl
  | succ steps ih => rw [runFrameUnder, runFrame_succ, proceeds, ih]

/-- **A plan that has only fail what fails anyway makes no difference.** -/
theorem performUnder_truthful (truthful : plan.Truthful host) (fuel : Nat) :
    performUnder plan host fuel = perform host fuel := by
  induction fuel with
  | zero => rfl
  | succ fuel ih =>
    have engine : (⟨fuel, performUnder plan host fuel⟩ : Engine) = .ofHost host fuel := by
      rw [ih]
      rfl
    funext request
    have carriesOut (x : Action Value) (same : x = perform host (fuel + 1) request) :
        plan.supervise (.request (fuel + 1) request) x = x := by
      refine Plan.supervise_truthful fun m failure n planned => ?_
      rw [same]
      exact truthful ⟨.request (fuel + 1) request, m⟩ failure n planned
    cases request with
    | call function arguments binding =>
      simp only [performUnder, engine]
      exact carriesOut _ rfl
    | enter facet parameters restart =>
      simp only [performUnder, engine, runFrameUnder_truthful truthful]
      exact carriesOut _ rfl

theorem Plan.engine_truthful (truthful : plan.Truthful host) (fuel : Nat) :
    plan.engine host fuel = .ofHost host fuel :=
  congrArg (Engine.mk fuel) (performUnder_truthful truthful fuel)

end Truthful

/-! ## Elementary actions -/

/-- How listening goes on when the function has ended. -/
def resumeListening (e : Engine) (response : Value) : Outcome Value → Outcome Value
  | .error .unwinding m =>
    match m.pending with
    | some c => respond e response c m.quieted
    | none => .error .unwinding m
  | outcome => outcome

theorem listen_eq (e : Engine) (function response : Value) (m : Machine) :
    listen e function response m = resumeListening e response (e.call function [] m) := rfl

namespace Orderly
variable {α β : Type} {m : Machine}

theorem bind {x : Plan → Action α} {k : Plan → α → Action β} (hx : Orderly fun plan => x plan m)
    (hk : ∀ a m₁, Orderly fun plan => k plan a m₁) : Orderly fun plan => (x plan >>= k plan) m := by
  refine hx.andThen (k := fun plan r => ((fun _ => r : Action α) >>= k plan) m) (fun r => ?_)
    fun cause n => ⟨n, .refl n, fun _ => rfl⟩
  cases r with
  | ok a m₁ => exact hk a m₁
  | error failure m₁ => exact .const _

/-- Dealing with a failure that is not fatal. -/
theorem recover {x : Plan → Action α} {k : Plan → Failure → Action α}
    (hx : Orderly fun plan => x plan m) (hk : ∀ failure m₁, Orderly fun plan => k plan failure m₁)
    (handsOn : ∀ cause plan, k plan (.fatal cause) = throw (.fatal cause)) :
    Orderly fun plan => tryCatch (x plan) (k plan) m := by
  refine hx.andThen (k := fun plan r => tryCatch (fun _ => r) (k plan) m) (fun r => ?_)
    fun cause n => ⟨n, .refl n, fun plan => ?_⟩
  · cases r with
    | ok a m₁ => exact .const _
    | error failure m₁ => exact hk failure m₁
  · exact congrFun (handsOn cause plan) n

theorem finally_ {x : Plan → Action α} {f : Machine → Machine} (hx : Orderly fun plan => x plan m)
    (leaves : ∀ n : Machine, n.Left (f n)) :
    Orderly fun plan => Action.finally_ (x plan) f m :=
  hx.andThen (k := fun _ r => Action.finally_ (fun _ => r) f m) (fun _ => .const _)
    fun _ n => ⟨f n, leaves n, fun _ => rfl⟩

/-- **Settling hands on a fatal failure**, and drops what is pending if no call is under way. -/
theorem settle {x : Plan → Action Value} (hx : Orderly fun plan => x plan m) :
    Orderly fun plan => StubMachine.settle (x plan) m := by
  refine hx.andThen (k := fun _ r => StubMachine.settle (fun _ => r) m) (fun _ => .const _)
    fun cause n => ?_
  by_cases busy : 0 < n.reentry
  · refine ⟨n, .refl n, fun _ => ?_⟩
    simp only [StubMachine.settle, busy, if_true]
  · refine ⟨n.quieted, .quieted n, fun _ => ?_⟩
    simp only [StubMachine.settle, busy, if_false]
    rfl

/-- **Listening hands on a fatal failure**, of the function or of the handler. -/
theorem listen {engine : Plan → Engine}
    (requests : ∀ q m₁, Orderly fun plan => (engine plan).perform q m₁)
    (function response : Value) :
    Orderly fun plan => StubMachine.listen (engine plan) function response m := by
  simp only [listen_eq]
  refine (requests (.call function [] none) m).andThen
    (k := fun plan => resumeListening (engine plan) response) (fun r => ?_)
    fun cause n => ⟨n, .refl n, fun _ => rfl⟩
  cases r with
  | ok v m₁ => exact .const _
  | error failure m₁ =>
    cases failure with
    | unwinding =>
      simp only [resumeListening]
      cases m₁.pending with
      | none => exact .const _
      | some c =>
        simp only [respond_eq]
        cases handler? m₁.quieted response c.kind with
        | some handler => exact requests _ _
        | none => exact .const _
    | _ => exact .const _

end Orderly

/-! ## Operations -/

section Operations
variable {engine : Plan → Engine} {bound : Nat}

/-- **Routines are orderly** if requests and what is left to the embedder are. -/
theorem Routine.orderly {P : License} (fuel : ∀ plan, (engine plan).fuel = bound)
    (requests : ∀ q m, Orderly fun plan => (engine plan).perform q m)
    (foreign : ∀ y, P.foreign y → ∀ m, Orderly fun plan => y (engine plan) m)
    {r : Rank} {α : Type} {x : Procedure α} (h : Routine P r x) (m : Machine) :
    Orderly fun plan => x (engine plan) m := by
  induction h generalizing m with
  | bind _ _ ihx ihk => exact .bind (ihx m) ihk
  | fuel _ ih =>
    simp only [fuel]
    exact ih bound m
  | callBound function arguments binding => exact requests _ m
  | enter f parameters restart => exact requests _ m
  | listen function response => exact .listen requests function response
  | attempt _ ih => exact .recover (ih m) (fun failure _ => .const _) fun cause plan => rfl
  | settle _ ih => exact .settle (ih m)
  | foreign hx => exact foreign _ hx m
  | within _ ih => exact ih m
  | _ => exact .const _

/-- What an embedder does that hands on fatal failures is orderly if requests are. -/
theorem Restrained.orderly (fuel : ∀ plan, (engine plan).fuel = bound)
    (requests : ∀ q m, Orderly fun plan => (engine plan).perform q m) {HandsOn : Failure → Prop}
    (fatal : ∀ cause, HandsOn (.fatal cause)) {α : Type} {x : Procedure α}
    (h : Restrained .alone HandsOn x) (m : Machine) : Orderly fun plan => x (engine plan) m := by
  induction h generalizing m with
  | machine hx => exact hx.orderly fuel requests (fun _ => False.elim) m
  | bind _ _ ihx ihk => exact .bind (ihx m) ihk
  | signal kind payload => exact .const _
  | fail failure => exact .const _
  | recover _ _ handsOn ihx ihk =>
    exact .recover (ihx m) ihk fun cause plan => handsOn _ (fatal cause) _

end Operations

/-- **Functions of the embedder that hand on fatal failures** which they get from the machine. -/
def Host.HandsOnFatal (host : Host) : Prop :=
  ∀ handle args, Restrained .alone (fun failure => ∃ cause, failure = .fatal cause)
    fun e => host.native handle e args

theorem Host.Modest.handsOnFatal {host : Host} (modest : host.Modest) : host.HandsOnFatal :=
  fun handle args => .machine (modest handle args)

/-! ## Requests -/

section Requests
variable {host : Host} {engine : Plan → Engine} {bound : Nat}

/-- Running a frame is orderly if requests are. -/
theorem runFrameUnder_orderly (fuel : ∀ plan, (engine plan).fuel = bound)
    (requests : ∀ q m, Orderly fun plan => (engine plan).perform q m) (i steps : Nat)
    (m : Machine) : Orderly fun plan => runFrameUnder plan (engine plan) i steps m := by
  have own {r : Rank} {α : Type} {x : Procedure α} (h : Routine .alone r x) (m : Machine) :
      Orderly fun plan => x (engine plan) m :=
    h.orderly fuel requests (fun _ => False.elim) m
  have proceeds (m : Machine) : Orderly fun plan => proceedUnder plan (engine plan) i m := by
    refine .bind (own (fetchInstruction_routine i) m) fun ins? m₁ => ?_
    cases ins? with
    | some ins =>
      simp only [fuel]
      exact .supervise _ (own (step_routine i ins) m₁)
    | none =>
      simp only [fuel]
      have again : Routine .alone (.activation i) fun e => startOver e i :=
        startOver_routine i
      refine .bind (.supervise _ (own again m₁)) fun again m₂ => ?_
      cases again with
      | true => exact .const _
      | false => exact .const _
  induction steps generalizing m with
  | zero => exact .const _
  | succ steps ih =>
    refine .bind (proceeds m) fun flow m₁ => ?_
    cases flow with
    | next => exact ih m₁
    | done v => exact .const _

/-- **Carrying out a request is orderly.**  The induction is on the bound. -/
theorem performUnder_orderly (handsOn : host.HandsOnFatal) (fuel : Nat) (q : Request)
    (m : Machine) : Orderly fun plan => performUnder plan host fuel q m := by
  induction fuel generalizing q m with
  | zero => exact .const _
  | succ fuel ih =>
    have sameFuel (plan : Plan) : (plan.engine host fuel).fuel = fuel := rfl
    refine .supervise _ ?_
    cases q with
    | call function arguments binding =>
      -- what the host brings is foreign code, and it hands on what is fatal
      let P : License := .full fun y => ∃ handle args, y = fun e => host.native handle e args
      have routine : Routine P .native fun e => callValue host e function arguments binding :=
        callValue_routine (P := P) (fun handle args => ⟨handle, args, rfl⟩) (fun _ => trivial)
          function arguments binding
      refine .finally_ (routine.orderly sameFuel ih ?_ _) .uncounted
      rintro y ⟨handle, args, rfl⟩
      exact (handsOn handle args).orderly sameFuel ih fun cause => ⟨cause, rfl⟩
    | enter facet parameters restart =>
      simp only [withFrame_eq]
      by_cases full : m.config.maxCallDepth ≤ m.depth
      · simp only [if_pos full]
        exact .const _
      · simp only [if_neg full]
        exact .finally_ (runFrameUnder_orderly sameFuel ih _ _ _) .popFrame

end Requests

/-! ## The whole run -/

/-- A module that cannot be loaded is not run. -/
theorem runAs_unloaded {origin : String → Value → ModuleEvent} {e : Engine} {name : String}
    {bytes : List UInt8} {m n : Machine} {cause : FatalCause}
    (fails : load name bytes m = .error (.fatal cause) n) :
    runAs origin e name bytes m = .error (.fatal cause) n :=
  Action.bind_error fails

/-- A module that the embedder supplied and that cannot be loaded is not run. -/
theorem importModule_unloaded {host : Host} {e : Engine} {name : String} {bytes : List UInt8}
    {m₀ m n : Machine} {cause : FatalCause} (unknown : m₀.modules[name]? = none)
    (fetched : fetch host name m₀ = .ok bytes m)
    (fails : load name bytes m = .error (.fatal cause) n) :
    importModule host e name m₀ = .error (.fatal cause) n := by
  have known : Action.read (fun m => m.modules[name]?) m₀ = .ok none m₀ :=
    congrArg (EStateM.Result.ok · m₀) unknown
  rw [importModule, Action.bind_ok known]
  exact (Action.bind_ok fetched).trans (runAs_unloaded fails)

/-- A native function that fails fatally is not rescued. -/
theorem callNative_fatal {host : Host} {e : Engine} {stub : Stub} {args : Array Value}
    {m n : Machine} {native : Native} {cause : FatalCause}
    (known : m.natives[stub.id.toNat]? = some native)
    (fails : Native.run host e args native.body m = .error (.fatal cause) n) :
    callNative host e stub args m = .error (.fatal cause) n := by
  have found : Action.read (fun m => m.natives[stub.id.toNat]?) m = .ok (some native) m :=
    congrArg (EStateM.Result.ok · m) known
  rw [callNative, Action.bind_ok found]
  exact (Action.tryCatch_eq _ _ m).trans (by rw [fails]; rfl)

/-- **Fatal failures are final.**  Whatever an embedder starts follows a course, whichever
activities fail on the way.  Where an activity fails fatally, as planned or of its own, the
course breaks off: no further instruction is executed and nothing is called any more, and
what was started ends with that very failure.  A native function does not turn it into
anything else, and neither does the loading of a module. -/
theorem fatal_failures_final {host : Host} (handsOn : host.HandsOnFatal) :
    (∀ (entry : EntryPoint) (fuel : Nat) (m : Machine), ∃ course : Course Value,
      (∀ plan : Plan, entry.start host (plan.engine host fuel) m = course.outcome plan) ∧
      entry.start host (.ofHost host fuel) m = course.outcome .idle ∧
      (∀ plan, ∀ μ ∈ course.trace plan, ∀ cause n, plan μ = some (.fatal cause, n) →
        course.BreaksOff plan μ cause n) ∧
      ∀ μ ∈ course.trace .idle, ∀ cause n, μ.FailsWith host (.fatal cause) n →
        course.BreaksOff (.only μ (.fatal cause) n) μ cause n ∧
          course.trace (.only μ (.fatal cause) n) <+: course.trace .idle ∧
          course.outcome (.only μ (.fatal cause) n) = course.outcome .idle) ∧
    ∀ (e : Engine) (m n : Machine) (cause : FatalCause),
      (∀ stub args native, m.natives[stub.id.toNat]? = some native →
        Native.run host e args native.body m = .error (.fatal cause) n →
        callNative host e stub args m = .error (.fatal cause) n) ∧
      ∀ name bytes, load name bytes m = .error (.fatal cause) n →
        runModule e name bytes m = .error (.fatal cause) n ∧
          ∀ m₀ : Machine, m₀.modules[name]? = none → fetch host name m₀ = .ok bytes m →
            importModule host e name m₀ = .error (.fatal cause) n := by
  refine ⟨fun entry fuel m => ?_, fun e m n cause => ⟨?_, ?_⟩⟩
  · have sameFuel (plan : Plan) : (plan.engine host fuel).fuel = fuel := rfl
    have routine : Routine .alone .native fun e => entry.start host e := entry.start_routine host
    obtain ⟨course, final, tells⟩ :=
      routine.orderly sameFuel (performUnder_orderly handsOn fuel) (fun _ => False.elim) m
    have real (plan : Plan) (truthful : plan.Truthful host) :
        entry.start host (.ofHost host fuel) m = course.outcome plan := by
      rw [← Plan.engine_truthful truthful fuel]
      exact tells plan
    have idle := real .idle (Plan.idle_truthful host)
    refine ⟨course, tells, idle, fun plan μ started cause n => final.breaksOff started, ?_⟩
    intro μ started cause n fails
    have breaks := final.breaksOff (Course.mem_trace_only (.fatal cause) n started)
      (Plan.only_self μ (.fatal cause) n)
    have same := (real _ (Plan.only_truthful fails)).symm.trans idle
    exact ⟨breaks, final.trace_only_prefix μ cause n, same⟩
  · exact fun stub args native => callNative_fatal
  · intro name bytes fails
    refine ⟨runAs_unloaded fails, fun m₀ unknown fetched => ?_⟩
    exact importModule_unloaded unknown fetched fails

/-- A call of a native function that is not registered fails fatally, and so does the call of the
embedder in which it occurs. -/
theorem missing_native_final :
    let lost := Object.ofType BuiltinType.function.id (.function (.ofStub (Stub.native 999 #[])))
    let m := { Machine.initial .standard with objects := #[lost] }
    ∃ m', callFunction (.ofHost .complaining 2) (.object ⟨1⟩) [] m =
      .error (.fatal (.missingNative 999)) m' ∧ m.Left m' := by
  intro lost m
  let μ : Moment := ⟨.request 2 (.call (.object ⟨1⟩) [] none), m⟩
  have fails : μ.FailsWith .complaining (.fatal (.missingNative 999)) m := rfl
  obtain ⟨course, planned, real, -, breaks⟩ :=
    (fatal_failures_final Host.complaining_modest.handsOnFatal).1
      (.callFunction (.object ⟨1⟩) []) 2 m
  have matters : course.outcome (.only μ .exhausted m) ≠ course.outcome .idle := by
    have stopped : performUnder (.only μ .exhausted m) .complaining 2
        (.call (.object ⟨1⟩) [] none) m = .error .exhausted m :=
      Plan.supervise_fails (Plan.only_self μ .exhausted m)
    have exhausted : callFunction ((Plan.only μ .exhausted m).engine .complaining 2)
        (.object ⟨1⟩) [] m = .error .exhausted m := by
      show StubMachine.settle (performUnder _ _ _ _) m = _
      simp only [StubMachine.settle, stopped]
      rfl
    have fatal : callFunction (.ofHost .complaining 2) (.object ⟨1⟩) [] m =
      .error (.fatal (.missingNative 999)) m := rfl
    rw [← planned, ← real]
    intro eq
    cases exhausted.symm.trans (eq.trans fatal)
  obtain ⟨⟨-, m', left, ends⟩, -, same⟩ :=
    breaks μ (Course.mem_trace_of_outcome_ne matters) _ m fails
  exact ⟨m', real.trans (same.symm.trans ends), left⟩

end StubMachine
