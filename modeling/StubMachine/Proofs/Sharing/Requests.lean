import StubMachine.Proofs.Sharing.Law

/-!
# Requests and sharing

Calling a value finds a function in the store and so enters a rooted one; a loop finds its
body there.  Every other operation is a routine without a license to enter anything.  So
the law of sharing passes from the requests of an operation to the operation, and by
induction on the bound **every request obeys it**, as long as whatever may assign to a
sealed variable is refused (`Plan.refusing`).

The machine may be looked at whenever an activity starts (`Plan.watching`): it is always
in a state that the law allows, and so looking makes no difference.
-/

namespace StubMachine

open StubMachine.Action

/-! ## Refusing and watching -/

/-- **What starts at a moment may assign to a variable**: the instruction that assigns to it, or
starting over a frame under a condition that does. -/
def Moment.MayAssign (μ : Moment) (c : Capture) : Prop :=
  match μ.activity with
  | .request _ _ => False
  | .instruction _ i ins =>
    Opcode.ofByte? ins.opcode = some .assignReferrable ∧
      (μ.machine.frame i).site? (assignedSlot ins.operand.toNumber) = some c
  | .startOver _ i =>
    ∃ condition slot, (μ.machine.frame i).restart = some condition ∧ condition.Assigns slot ∧
      (μ.machine.frame i).site? slot = some c

namespace Plan

open Classical in
/-- **Whatever may assign to a sealed variable is refused**: it gives up at once. -/
noncomputable def refusing (S : Capture → Prop) : Plan := fun μ =>
  if ∃ c, S c ∧ μ.MayAssign c then some (.exhausted, μ.machine) else none

open Classical in
/-- **The machine is looked at when an activity starts**, and something else happens if it is not
as it should be. -/
noncomputable def watching (proper : Machine → Prop) (mishap : Failure × Machine) (plan : Plan) :
    Plan := fun μ => if proper μ.machine then plan μ else some mishap

/-- If nothing is sealed, nothing is refused. -/
theorem refusing_none : refusing (fun _ => False) = idle := by
  funext μ
  refine if_neg ?_
  rintro ⟨c, is_sealed, -⟩
  exact is_sealed

end Plan

/-- **Functions of the embedder that are tame**: they use the machine only by operations that
neither change the store in other ways than the machine does nor enter functions without
calling them. -/
def Host.Tame (host : Host) : Prop :=
  ∀ handle args, Restrained .none (fun _ => False) fun e => host.native handle e args

section Sharing
variable {start : Machine} {L₀ : Ledger} {S : Capture → Prop} {place : Place}
  {known : Option FunctionFacet} {r : Rank} {e e' : Engine} {α β : Type}

/-! ## Calls -/

/-- What a tame embedder does obeys the law. -/
theorem Restrained.shared (engines : Law.Shared start L₀ S e e') {HandsOn : Failure → Prop}
    {x : Procedure α} (h : Restrained .none HandsOn x) :
    (Law.sharing start L₀ S .outside none).Lockstep .native (x e) (x e') := by
  induction h with
  | machine hx => exact (hx.mono (License.none_within _)).shared engines fun _ => False.elim
  | bind _ _ ihx ihk => exact .bind ihx ihk
  | signal kind payload => exact .of_rel fun m => (Law.sharing _ _ _ _ _).signalled m kind payload
  | fail failure => exact .of_rel fun m => (Law.sharing _ _ _ _ _).refl _ m
  | recover _ _ _ ihx ihk => exact .recover ihx ihk

namespace Law.Lockstep

/-- An action that looks something up goes on with it in the same state. -/
theorem found {L : Law} {m : Machine} {x : Action α} {k k' : α → Action β} {a : α}
    (run : x m = .ok a m) (next : k' a m = k a m ∧ L.Rel r m ((k a).after m)) :
    (x >>= k') m = (x >>= k) m ∧ L.Rel r m ((x >>= k).after m) := by
  have after : (x >>= k).after m = (k a).after m := by
    rw [Action.after, Action.after, Action.bind_ok run]
  rw [Action.bind_ok run, Action.bind_ok run, after]
  exact next

/-- **A function that is in the store is rooted**, and may be made use of. -/
theorem stored_function {m : Machine} (hm : (Law.sharing start L₀ S place none).Holds m)
    {f : FunctionFacet} (has : m.HasFunction f) {x x' : Action α}
    (h : (Law.sharing start L₀ S place (some f)).Lockstep r x x') :
    x' m = x m ∧ (Law.sharing start L₀ S place none).Rel r m (x.after m) := by
  obtain ⟨same, kept, passes⟩ := h m ⟨hm.1, hm.2.know has⟩
  refine ⟨same, kept, fun L linked _ => passes L linked ?_⟩
  rintro g ⟨⟩
  exact linked.functions f has

end Law.Lockstep

/-- **Calling a value obeys the law**: the function that is entered, if any, is in the store. -/
theorem callValue_shared {host : Host} (tame : host.Tame) (engines : Law.Shared start L₀ S e e')
    (function : Value) (arguments : Arguments) (binding : Option Value) :
    (Law.sharing start L₀ S .outside none).Lockstep .native
      (callValue host e function arguments binding)
      (callValue host e' function arguments binding) := by
  have own {x : Procedure Value}
      (h : Routine (Place.outside.license S none fun _ => False) .native x) :
      (Law.sharing start L₀ S .outside none).Lockstep .native (x e) (x e') :=
    h.shared engines fun _ => False.elim
  cases function with
  | type t => exact own (callType_routine t arguments)
  | object o =>
    intro m hm
    have looked : objectAt o m = .ok (m.object o) m := rfl
    refine Law.Lockstep.found (L := .sharing start L₀ S .outside none) looked ?_
    cases function? : (m.object o).function? with
    | none => exact own (.raise _) m hm
    | some f =>
      let foreign (x : Procedure Value) := ∃ handle args, x = fun e => host.native handle e args
      let P := Place.outside.license S (some f) foreign
      have routine : Routine P .native fun e => callFacet host e f arguments binding :=
        callFacet_routine (P := P) (fun handle args => ⟨handle, args, rfl⟩) rfl arguments binding
      refine Law.Lockstep.stored_function hm ⟨o, function?⟩ (routine.shared engines ?_)
      rintro x ⟨handle, args, rfl⟩
      exact (tame handle args).shared engines
  | _ => exact own (.raise _)

/-! ## Loops -/

/-- **Starting a loop obeys the law** if going on with a rooted body does. -/
theorem loopBody_shared {k k' : FunctionFacet → Action β}
    (next : ∀ f, (Law.sharing start L₀ S place (some f)).Lockstep r (k f) (k' f)) (body : Value) :
    (Law.sharing start L₀ S place none).Lockstep r (loopBody body >>= k)
      (loopBody body >>= k') := by
  intro m hm
  rcases loopBody_cases body m with ⟨f, run, has⟩ | run
  · refine Law.Lockstep.found (L := .sharing start L₀ S place none) run ?_
    exact Law.Lockstep.stored_function hm has (next f)
  · have raised := Law.Lockstep.raiseError (L := .sharing start L₀ S place none) (r := r)
      (α := FunctionFacet) (.string Fault.loopBody.message) m hm
    obtain ⟨o, m', -, error⟩ :=
      raiseError_eq (α := FunctionFacet) (.string Fault.loopBody.message) m
    have stops : loopBody body m = .error .unwinding (m'.signalled .error (.object o)) :=
      run.trans error
    rw [Action.after, error] at raised
    rw [Action.after, Action.bind_error stops, Action.bind_error stops]
    exact ⟨rfl, raised.2⟩

section Loops
variable (engines : Law.Shared start L₀ S e e')
include engines

/-- A routine that enters nothing but the known function. -/
theorem Routine.alone_shared {x : Procedure α}
    (h : Routine (place.license S known fun _ => False) r x) :
    (Law.sharing start L₀ S place known).Lockstep r (x e) (x e') :=
  h.shared engines fun _ => False.elim

theorem countLoop_shared (first stop : Float) (body : Value) :
    (Law.sharing start L₀ S place none).Lockstep r (countLoop e first stop body)
      (countLoop e' first stop body) := by
  refine loopBody_shared (fun f => ?_) body
  exact Routine.alone_shared engines (.ite (.pure _) (.enter f _ _ rfl))

theorem foreverLoop_shared (body : Value) :
    (Law.sharing start L₀ S place none).Lockstep r (foreverLoop e body)
      (foreverLoop e' body) :=
  loopBody_shared (fun f => Routine.alone_shared engines (.enter f _ _ rfl)) body

theorem entryLoop_shared (target body : Value) :
    (Law.sharing start L₀ S place none).Lockstep r (entryLoop e target body)
      (entryLoop e' target body) := by
  cases target with
  | object o =>
    refine .bind (Routine.alone_shared engines (iterated_routine o)) fun o => ?_
    refine loopBody_shared (fun f => ?_) body
    refine .bind (Routine.alone_shared engines (objectKeys_routine o)) fun keys => ?_
    refine .bind (Routine.alone_shared engines (objectValues_routine o)) fun values => ?_
    cases keys with
    | nil => exact Routine.alone_shared engines (.pure _)
    | cons key keys => exact Routine.alone_shared engines (.enter f _ _ rfl)
  | _ => exact Routine.alone_shared engines (.raise _)

end Loops

/-! ## Instructions -/

section Instructions
variable (engines : Law.Shared start L₀ S e e') {i : Nat} {site : Nat → Option Capture}
include engines

theorem pushResult_shared {x x' : Action Value}
    (h : (Law.sharing start L₀ S place none).Lockstep (.instruction i) x x') :
    (Law.sharing start L₀ S place none).Lockstep (.instruction i) (pushResult i x)
      (pushResult i x') :=
  .bind h fun v =>
    Routine.alone_shared engines (.bind (stackPush_routine i v) fun _ => .pure _)

/-- **An instruction obeys the law** unless it assigns to a sealed variable. -/
theorem step_shared {ins : Instruction}
    (free : Opcode.ofByte? ins.opcode = some .assignReferrable →
      ∀ c, site (assignedSlot ins.operand.toNumber) = some c → ¬ S c) :
    (Law.sharing start L₀ S (.frame i site) none).Lockstep (.instruction i) (step e i ins)
      (step e' i ins) := by
  have own {α : Type} {x : Procedure α}
      (h : Routine ((Place.frame i site).license S none fun _ => False) (.instruction i) x) :
      (Law.sharing start L₀ S (.frame i site) none).Lockstep (.instruction i) (x e) (x e') :=
    Routine.alone_shared engines h
  have popped := own (pop_routine i)
  have executed {op : Opcode}
      (permits : ((Place.frame i site).license S none fun _ => False).Permits i
        ins.operand.toNumber op) :
      (Law.sharing start L₀ S (.frame i site) none).Lockstep (.instruction i)
        (op.execute e i ins.operand.toNumber) (op.execute e' i ins.operand.toNumber) :=
    own (execute_routine i permits)
  rw [step, step]
  -- the loops enter frames of their own; an assignment must leave what is refused alone
  cases known : Opcode.ofByte? ins.opcode with
  | none => exact own (.raise _)
  | some op =>
    cases op with
    | countLoop =>
      refine pushResult_shared engines (.bind popped fun body => .bind popped fun stop => ?_)
      refine .bind popped fun first => .bind (own (asNumber_routine first)) fun first => ?_
      exact .bind (own (asNumber_routine stop)) fun stop =>
        countLoop_shared engines first stop body
    | foreverLoop =>
      exact pushResult_shared engines (.bind popped fun body => foreverLoop_shared engines body)
    | entryLoop =>
      exact pushResult_shared engines (.bind popped fun body =>
        .bind popped fun target => entryLoop_shared engines target body)
    | assignReferrable => exact executed ⟨rfl, free known⟩
    | _ => exact executed trivial

end Instructions

/-! ## Frames -/

section Frames
variable {mishap : Failure × Machine} {i : Nat} {site : Nat → Option Capture}

/-- **Starting an activity obeys the law** if the activity does where it is not refused, and
looking at the machine makes no difference. -/
theorem supervise_shared {activity : Activity} {x x' : Action α}
    (h : ∀ m, (Law.sharing start L₀ S place known).Holds m →
      (∀ c, (⟨activity, m⟩ : Moment).MayAssign c → ¬ S c) →
      x' m = x m ∧ (Law.sharing start L₀ S place known).Rel r m (x.after m)) :
    (Law.sharing start L₀ S place known).Lockstep r ((Plan.refusing S).supervise activity x)
      (((Plan.refusing S).watching (start.Sequel L₀ S) mishap).supervise activity x') := by
  intro m hm
  have seen : (Plan.refusing S).watching (start.Sequel L₀ S) mishap ⟨activity, m⟩ =
      Plan.refusing S ⟨activity, m⟩ := if_pos hm.2.1
  rw [Action.after]
  by_cases refused : ∃ c, S c ∧ (⟨activity, m⟩ : Moment).MayAssign c
  · have planned : Plan.refusing S ⟨activity, m⟩ = some (.exhausted, m) := if_pos refused
    rw [Plan.supervise_fails planned, Plan.supervise_fails (seen.trans planned)]
    exact ⟨rfl, .refl _ m, .refl m⟩
  · have planned : Plan.refusing S ⟨activity, m⟩ = none := if_neg refused
    rw [Plan.supervise_carriedOut planned, Plan.supervise_carriedOut (seen.trans planned)]
    exact h m hm fun c may is_sealed => refused ⟨c, is_sealed, may⟩

/-- **Starting over obeys the law** unless it assigns to a sealed variable. -/
theorem startOver_shared (engines : Law.Shared start L₀ S e e') {m : Machine}
    (hm : (Law.sharing start L₀ S (.frame i site) none).Holds m)
    (free : ∀ condition slot, (m.frame i).restart = some condition → condition.Assigns slot →
      ∀ c, site slot = some c → ¬ S c) :
    startOver e' i m = startOver e i m ∧
      (Law.sharing start L₀ S (.frame i site) none).Rel (.activation i) m
        ((startOver e i).after m) := by
  have looked : readFrame i Frame.restart m = .ok (m.frame i).restart m := rfl
  rw [startOver_eq, startOver_eq]
  refine Law.Lockstep.found (L := .sharing start L₀ S (.frame i site) none) looked ?_
  cases restart : (m.frame i).restart with
  | none => exact ⟨rfl, .refl _ m, .refl m⟩
  | some condition =>
    have allowed : ∀ slot, condition.Assigns slot →
        (Place.frame i site).Assigns S i slot :=
      fun slot assigns => ⟨rfl, free condition slot restart assigns⟩
    exact Routine.alone_shared engines (startOverFrom_routine i allowed) m hm

/-- **One step of a frame obeys the law.** -/
theorem proceedUnder_shared (engines : Law.Shared start L₀ S e e') :
    (Law.sharing start L₀ S (.frame i site) none).Lockstep (.activation i)
      (proceedUnder (Plan.refusing S) e i)
      (proceedUnder ((Plan.refusing S).watching (start.Sequel L₀ S) mishap) e' i) := by
  have within {α : Type} {x x' : Action α}
      (h : (Law.sharing start L₀ S (.frame i site) none).Lockstep (.instruction i) x x') :
      (Law.sharing start L₀ S (.frame i site) none).Lockstep (.activation i) x x' :=
    fun m hm => ⟨(h m hm).1, (Law.sharing _ _ _ _ _).ofInstruction (h m hm).2⟩
  refine .bind (within (Routine.alone_shared engines (fetchInstruction_routine i))) fun ins? => ?_
  cases ins? with
  | some ins =>
    simp only [engines.fuel]
    refine within (supervise_shared fun m hm free => step_shared engines ?_ m hm)
    have here : (m.frame i).site? = site := hm.1.2
    exact fun known c named => free c ⟨known, by rw [here]; exact named⟩
  | none =>
    simp only [engines.fuel]
    refine .bind (supervise_shared fun m hm free => startOver_shared engines hm ?_) fun again => ?_
    · have here : (m.frame i).site? = site := hm.1.2
      exact fun condition slot restart assigns c named =>
        free c ⟨condition, slot, restart, assigns, by rw [here]; exact named⟩
    · cases again with
      | true => exact .of_rel fun m => (Law.sharing _ _ _ _ _).refl _ m
      | false => exact .of_rel fun m => (Law.sharing _ _ _ _ _).refl _ m

/-- From one step to the run of a frame. -/
theorem runFrameUnder_shared (engines : Law.Shared start L₀ S e e') (steps : Nat) :
    (Law.sharing start L₀ S (.frame i site) none).Lockstep (.activation i)
      (runFrameUnder (Plan.refusing S) e i steps)
      (runFrameUnder ((Plan.refusing S).watching (start.Sequel L₀ S) mishap) e' i steps) := by
  induction steps with
  | zero => exact .of_rel fun m => (Law.sharing _ _ _ _ _).refl _ m
  | succ steps ih =>
    refine .bind (proceedUnder_shared engines) fun flow => ?_
    cases flow with
    | next => exact ih
    | done v => exact .of_rel fun m => (Law.sharing _ _ _ _ _).refl _ m

/-- **Running something in a frame of its own obeys the law** if what runs does. -/
theorem withFrame_shared {body body' : Nat → Action Value}
    (h : ∀ i site, (Law.sharing start L₀ S (.frame i site) none).Lockstep (.activation i) (body i)
      (body' i))
    (f : FunctionFacet) (parameters : Array Value) (restart : Option Restart) :
    (Law.sharing start L₀ S .outside (some f)).Lockstep .native
      (withFrame f parameters restart body) (withFrame f parameters restart body') := by
  intro m hm
  have s : m.Sound := hm.1
  by_cases full : m.config.maxCallDepth ≤ m.depth
  · rw [withFrame_eq, Action.after, withFrame_eq, if_pos full, if_pos full]
    exact Law.Lockstep.raiseError (L := .sharing start L₀ S .outside (some f)) _ m hm
  · have pushed : m.Passes S (some f) (m.pushFrame f parameters restart) :=
      fun L linked rooted => .pushFrame linked (rooted f rfl) parameters restart
    have runs := Machine.pushFrame_runsAt f parameters restart s (Nat.lt_of_not_le full)
    obtain ⟨same, kept, passes⟩ := h m.depth _ _ ⟨⟨runs, rfl⟩, (hm.2.later pushed).forget⟩
    refine ⟨?_, ?_⟩
    · rw [withFrame_eq, withFrame_eq, if_neg full, if_neg full, finally_, finally_, same]
    · rw [after_withFrame full]
      exact ⟨.entered f parameters restart s kept,
        pushed.trans (passes.of_none.trans (.popFrame _))⟩

/-- **Counting a call under way obeys the law.** -/
theorem underway_shared {x x' : Action Value}
    (h : (Law.sharing start L₀ S .outside none).Lockstep .native x x') :
    (Law.sharing start L₀ S .outside none).Lockstep .native (underway x) (underway x') := by
  intro m hm
  have counted : m.Passes S none { m with reentry := m.reentry + 1 } := .congr rfl rfl rfl rfl
  have s : m.Sound := hm.1
  obtain ⟨same, kept, passes⟩ :=
    h { m with reentry := m.reentry + 1 } ⟨⟨s.bounded, s.pooled⟩, hm.2.later counted⟩
  refine ⟨?_, ?_, ?_⟩
  · rw [underway_eq, underway_eq, finally_, finally_, same]
  · show m.Kept .native ((finally_ x _).after { m with reentry := m.reentry + 1 })
    rw [Action.after_finally]
    exact .underway kept
  · show m.Passes S none ((finally_ x _).after { m with reentry := m.reentry + 1 })
    rw [Action.after_finally]
    exact counted.trans (passes.trans (.congr rfl rfl rfl rfl))

end Frames

/-! ## Requests -/

/-- **Every request obeys the law.**  The induction is on the bound. -/
theorem performUnder_shared {host : Host} (tame : host.Tame) (start : Machine) (L₀ : Ledger)
    (S : Capture → Prop) (mishap : Failure × Machine) (fuel : Nat) :
    Law.Shared start L₀ S ((Plan.refusing S).engine host fuel)
      (((Plan.refusing S).watching (start.Sequel L₀ S) mishap).engine host fuel) := by
  induction fuel with
  | zero =>
    exact ⟨rfl, fun _ _ _ => .of_rel fun m => (Law.sharing _ _ _ _ _).refl _ m,
      fun _ _ _ => .of_rel fun m => (Law.sharing _ _ _ _ _).refl _ m⟩
  | succ fuel ih =>
    refine ⟨rfl, fun function arguments binding => ?_, fun f parameters restart => ?_⟩
    · exact supervise_shared fun m hm _ =>
        underway_shared (callValue_shared tame ih function arguments binding) m hm
    · exact supervise_shared fun m hm _ =>
        withFrame_shared (fun i site => runFrameUnder_shared ih fuel) f parameters restart m hm

end Sharing

end StubMachine
