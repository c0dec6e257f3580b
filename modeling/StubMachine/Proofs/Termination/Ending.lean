import StubMachine.Proofs.Calling
import StubMachine.Proofs.Sharing.Law

/-!
# Ending

An action ends if with enough fuel it always has the same outcome, and the outcome is not
that the fuel was exhausted (`EndsFrom`).  This is shown of actions in **the core**, which
is what a machine can do without its unbounded loops, without native functions and without
queries, which hand native functions out.

**An errand ends if its calls do** (`Errand.ends`), and calls end if entering functions
does (`answers_wide`).  Calling a function enters it; calling a type asks the object that
it converts, with a call that has no arguments, and with such a call no type can be called
in its turn.
-/

namespace StubMachine

open StubMachine.Action

/-! ## The core -/

/-- The opcodes of the core. -/
def Opcode.isCore : Opcode → Bool
  | countLoop | foreverLoop | pushNative | query => false
  | _ => true

/-- Whether an instruction is in the core; one without meaning is, for it raises an error. -/
def Instruction.isCore (ins : Instruction) : Bool :=
  (Opcode.ofByte? ins.opcode).all Opcode.isCore

/-- **A stub in the core**: it belongs to a script, and all its code is in the core. -/
structure Stub.Core (s : Stub) : Prop where
  script : s.isNative = false
  code : ∀ ins ∈ s.code, ins.isCore

/-- A condition that holds for so many passes only. -/
def Restart.Finite : Restart → Prop
  | count _ _ _ _ | forever => False
  | entries _ _ _ => True

namespace Machine

/-- All functions in the store and all loaded code are in the core. -/
structure Core (m : Machine) : Prop where
  functions : ∀ f, m.HasFunction f → f.stub.Core
  stubs : ∀ file id s, m.HasStub file id s → s.Core

/-- A state from which to go on, with some depth left. -/
structure Ready (left : Nat) (m : Machine) : Prop where
  sound : m.Sound
  core : m.Core
  room : m.config.maxCallDepth = m.depth + left

/-- **What an action in the core leaves**: frames are kept, an instruction moves its own frame
forward, and nothing leaves the core. -/
structure Onward (r : Rank) (m m' : Machine) : Prop where
  kept : m.Kept r m'
  core : m.Core → m'.Core
  forward : ∀ i < m.depth, r = .instruction i → (m.frame i).pc ≤ (m'.frame i).pc

namespace Core
variable {m m' : Machine}

theorem of_eq (h : m.Core) (objects : m'.objects = m.objects) (stubs : m'.stubs = m.stubs) :
    m'.Core where
  functions f has := by
    obtain ⟨o, function⟩ := has
    rw [object, objects] at function
    exact h.functions f ⟨o, function⟩
  stubs file id s has := by
    rw [HasStub, stubs] at has
    exact h.stubs file id s has

theorem furnished (h : m.Core) (change : m.Furnished m') : m'.Core where
  functions f has := h.functions f (change.hasFunction has)
  stubs file id s has := by
    rw [HasStub, change.stubs] at has
    exact h.stubs file id s has

theorem withFunction {f : FunctionFacet} (h : m.Core) (core : f.stub.Core) :
    (m.withFunction f).Core where
  functions g has := by
    obtain ⟨o, function⟩ := has
    rw [object, Array.getD_eq_getD_getElem?, Machine.withFunction, Array.getElem?_push] at function
    split at function
    · obtain rfl := Option.some.inj function
      exact core
    · exact h.functions g ⟨o, by rw [object, Array.getD_eq_getD_getElem?]; exact function⟩
  stubs := h.stubs

end Core

namespace Onward
variable {r : Rank} {m m₁ m₂ : Machine}

theorem refl (r : Rank) (m : Machine) : m.Onward r m := ⟨.refl r m, id, fun _ _ _ => Nat.le_refl _⟩

theorem trans (h : m.Onward r m₁) (h' : m₁.Onward r m₂) : m.Onward r m₂ where
  kept := h.kept.trans h'.kept
  core c := h'.core (h.core c)
  forward i active own := by
    have before := h.forward i active own
    have after := h'.forward i (h.kept.depth ▸ active) own
    omega

/-- What leaves the frames alone may be done at every rank. -/
theorem of_frames (frames : m.Kept .native m₁) (core : m.Core → m₁.Core) : m.Onward r m₁ where
  kept := ⟨frames.config, frames.depth, frames.reentry, frames.pool,
    fun j active => .of_eq (frames.frames j active)⟩
  core := core
  forward i active _ := by
    have same : m₁.frame i = m.frame i := frames.frames i active
    exact Nat.le_of_eq (congrArg Frame.pc same.symm)

theorem ofNative (h : m.Onward .native m₁) : m.Onward r m₁ := of_frames h.kept h.core

theorem furnished (change : m.Furnished m₁) : m.Onward r m₁ :=
  of_frames (.of_frames_eq change.config change.depth change.reentry change.frames)
    fun c => c.furnished change

theorem signalled (m : Machine) (kind : CatchableKind) (payload : Value) :
    m.Onward r (m.signalled kind payload) :=
  of_frames (.of_frames_eq rfl rfl rfl rfl) fun c => c.of_eq rfl rfl

theorem quieted (m : Machine) : m.Onward r m.quieted :=
  of_frames (.of_frames_eq rfl rfl rfl rfl) fun c => c.of_eq rfl rfl

theorem frame (m : Machine) (i : Nat) {f : Frame → Frame} (h : ∀ fr : Frame, fr.Forwarded (f fr)) :
    m.Onward (.instruction i) { m with frames := m.frames.modify i f } where
  kept := .modify m i f fun fr => by rw [Rank.Allows, if_pos rfl]; exact (h fr).advanced
  core c := c.of_eq rfl rfl
  forward j _ _ := by
    rw [frame_modify]
    split
    · exact (h _).pc
    · exact Nat.le_refl _

theorem reframe (m : Machine) (i : Nat) {f : Frame → Frame}
    (h : ∀ fr : Frame, fr.Progressed (f fr)) :
    m.Onward (.activation i) { m with frames := m.frames.modify i f } where
  kept := .modify m i f fun fr => by rw [Rank.Allows, if_pos rfl]; exact h fr
  core c := c.of_eq rfl rfl
  forward _ _ own := by cases own

theorem ofInstruction {i : Nat} (h : m.Onward (.instruction i) m₁) : m.Onward (.activation i) m₁ where
  kept := ⟨h.kept.config, h.kept.depth, h.kept.reentry, h.kept.pool,
    fun j active => (h.kept.frames j active).activation⟩
  core := h.core
  forward _ _ own := by cases own

theorem forwarded {i : Nat} (h : m.Onward (.instruction i) m₁) (active : i < m.depth) :
    (m.frame i).Forwarded (m₁.frame i) where
  advanced := by
    have own := h.kept.frames i active
    rwa [Rank.Allows, if_pos rfl] at own
  pc := h.forward i active rfl

theorem ready {left : Nat} (h : m.Onward r m₁) (ready : m.Ready left) : m₁.Ready left where
  sound := h.kept.sound ready.sound
  core := h.core ready.core
  room := by rw [h.kept.config, h.kept.depth]; exact ready.room

end Onward
end Machine

/-! ## Ending -/

/-- **An action ends from a state**: with enough fuel it always has the same outcome. -/
def EndsFrom (host : Host) (r : Rank) {α : Type} (x : Procedure α) (m : Machine) : Prop :=
  ∃ (bound : Nat) (outcome : Outcome α),
    (∀ fuel, bound ≤ fuel → x (.ofHost host fuel) m = outcome) ∧ outcome.Genuine ∧
      m.Onward r outcome.state

/-- **An action ends** from every state in the core with so much depth left. -/
def Ends (host : Host) (left : Nat) (r : Rank) {α : Type} (x : Procedure α) : Prop :=
  ∀ m : Machine, m.Ready left → EndsFrom host r x m

namespace EndsFrom
variable {host : Host} {left : Nat} {r : Rank} {α β : Type} {m m₁ : Machine}

/-- An action that has a result at once. -/
theorem ok {x : Procedure α} {a : α} (run : ∀ e, x e m = .ok a m₁) (onward : m.Onward r m₁) :
    EndsFrom host r x m :=
  ⟨0, .ok a m₁, fun _ _ => run _, trivial, onward⟩

/-- An action that fails at once. -/
theorem error {x : Procedure α} {failure : Failure} (run : ∀ e, x e m = .error failure m₁)
    (genuine : failure ≠ .exhausted) (onward : m.Onward r m₁) : EndsFrom host r x m :=
  ⟨0, .error failure m₁, fun _ _ => run _, genuine, onward⟩

theorem raised {x : Procedure α} {fault : Fault} (run : ∀ e, x e m = (raise fault : Action α) m) :
    EndsFrom host r x m := by
  obtain ⟨o, m', furnished, raised⟩ := raiseError_eq (α := α) (.string fault.message) m
  exact .error (fun e => (run e).trans raised) (by rintro ⟨⟩)
    ((Machine.Onward.furnished furnished).trans (.signalled m' _ _))

/-- An action that does as another does. -/
theorem congr {x y : Procedure α} (same : ∀ fuel, x (.ofHost host fuel) m = y (.ofHost host fuel) m)
    (h : EndsFrom host r y m) : EndsFrom host r x m := by
  obtain ⟨bound, outcome, run, genuine, onward⟩ := h
  exact ⟨bound, outcome, fun fuel enough => (same fuel).trans (run fuel enough), genuine, onward⟩

theorem ofNative {x : Procedure α} (h : EndsFrom host .native x m) : EndsFrom host r x m := by
  obtain ⟨bound, outcome, run, genuine, onward⟩ := h
  exact ⟨bound, outcome, run, genuine, onward.ofNative⟩

theorem bind {x : Procedure α} {k : Engine → α → Action β} (hx : EndsFrom host r x m)
    (hk : ∀ a m₁, m.Onward r m₁ → EndsFrom host r (fun e => k e a) m₁) :
    EndsFrom host r (fun e => x e >>= k e) m := by
  obtain ⟨bound, outcome, run, genuine, onward⟩ := hx
  cases outcome with
  | ok a m₁ =>
    obtain ⟨bound', outcome', run', genuine', onward'⟩ := hk a m₁ onward
    refine ⟨max bound bound', outcome', fun fuel enough => ?_, genuine', onward.trans onward'⟩
    exact (Action.bind_ok (run fuel (by omega))).trans (run' fuel (by omega))
  | error failure m₁ =>
    refine ⟨bound, .error failure m₁, fun fuel enough => ?_, genuine, onward⟩
    exact Action.bind_error (run fuel enough)

/-- An action that carries out another with one unit of fuel less, from a state that it prepares,
and tidies up afterwards. -/
theorem enclosed {x y : Procedure α} {r' : Rank} {start : Machine} (leave : Machine → Machine)
    (same : ∀ fuel, x (.ofHost host (fuel + 1)) m = finally_ (y (.ofHost host fuel)) leave start)
    (h : EndsFrom host r' y start) (left : ∀ m₁, start.Onward r' m₁ → m.Onward r (leave m₁)) :
    EndsFrom host r x m := by
  obtain ⟨bound, outcome, run, genuine, onward⟩ := h
  have tidied {fuel : Nat} (enough : bound + 1 ≤ fuel) : x (.ofHost host fuel) m =
      finally_ (fun _ => outcome) leave start := by
    obtain ⟨fuel, rfl⟩ : ∃ n, fuel = n + 1 := ⟨fuel - 1, by omega⟩
    rw [same]
    simp only [finally_, run fuel (by omega)]
  cases outcome with
  | ok a m₁ => exact ⟨bound + 1, .ok a (leave m₁), fun _ => tidied, trivial, left m₁ onward⟩
  | error failure m₁ =>
    exact ⟨bound + 1, .error failure (leave m₁), fun _ => tidied, genuine, left m₁ onward⟩

end EndsFrom

namespace Ends
variable {host : Host} {left : Nat} {r : Rank} {α β : Type}

theorem pure (a : α) : Ends host left r fun _ => (Pure.pure a : Action α) :=
  fun m _ => .ok (fun _ => rfl) (.refl r m)

theorem read (f : Machine → α) : Ends host left r fun _ => Action.read f :=
  fun m _ => .ok (fun _ => rfl) (.refl r m)

theorem raise (f : Fault) : Ends host left r fun _ => (Action.raise f : Action α) :=
  fun _ _ => .raised fun _ => rfl

theorem bind {x : Procedure α} {k : Engine → α → Action β} (hx : Ends host left r x)
    (hk : ∀ a, Ends host left r fun e => k e a) : Ends host left r fun e => x e >>= k e :=
  fun m ready => .bind (hx m ready) fun a m₁ onward => hk a m₁ (onward.ready ready)

theorem ofNative {x : Procedure α} (h : Ends host left .native x) : Ends host left r x :=
  fun m ready => (h m ready).ofNative

end Ends

/-! ## Errands -/

/-- The calls within a reach end. -/
def Answers (host : Host) (left : Nat) (ρ : Reach) : Prop :=
  ∀ function arguments binding, ρ.Allows arguments →
    Ends host left .native fun e => e.callBound function arguments binding

section Errands
variable {host : Host} {left : Nat} {ρ : Reach} {P : License} {r : Rank} {α : Type}

/-- Assigning to a variable ends. -/
theorem writeReferrable_ends (i slot : Nat) (v : Value) :
    Ends host left r fun _ => writeReferrable i slot v := by
  intro m ready
  rcases writeReferrable_cases i slot v m with ⟨c, -, run⟩ | run
  · exact .ok (fun _ => run) (.of_frames (.of_frames_eq rfl rfl rfl rfl) fun c => c.of_eq rfl rfl)
  · exact .raised fun _ => run

/-- Making a closure ends, and the closure is in the core as its stub is. -/
theorem makeClosure_ends (i : Nat) (id : UInt32) (types : Option (Array TypeId)) :
    Ends host left r fun _ => makeClosure i id types := by
  intro m ready
  rcases makeClosure_cases i id types m with
    ⟨fault, run⟩ | ⟨cause, run⟩ | ⟨stub, captures, has, -, run⟩
  · exact .raised fun _ => run
  · exact .error (fun _ => run) (by rintro ⟨⟩) (.refl r m)
  · refine .ok (fun _ => run) (.of_frames (.of_frames_eq rfl rfl rfl rfl) fun core => ?_)
    exact core.withFunction (core.stubs _ _ stub has)

/-- Dealing with what was raised ends if calls do. -/
theorem respond_ends (answers : Answers host left .wide) (response : Value) (c : Catchable) :
    Ends host left .native fun e => respond e response c := by
  intro m ready
  cases handled : handler? m response c.kind with
  | some handler =>
    refine .congr (fun fuel => ?_) (answers handler [("message", c.payload)] none trivial m ready)
    rw [respond_eq, handled]
    rfl
  | none =>
    cases kind : c.kind with
    | send =>
      have run (e : Engine) : respond e response c m = .ok c.payload m := by
        rw [respond_eq, handled]
        simp only [kind]
      exact .ok run (.refl _ m)
    | error =>
      have run (e : Engine) : respond e response c m =
          .error .unwinding { m with pending := some c } := by
        rw [respond_eq, handled]
        simp only [kind]
      exact .error run (by rintro ⟨⟩)
        (.of_frames (.of_frames_eq rfl rfl rfl rfl) fun core => core.of_eq rfl rfl)

/-- Listening ends if calls do: it makes at most two, the handler's after the function's. -/
theorem listen_ends (answers : Answers host left .wide) (function response : Value) :
    Ends host left .native fun e => listen e function response := by
  intro m ready
  obtain ⟨bound, outcome, run, genuine, onward⟩ := answers function [] none trivial m ready
  cases outcome with
  | ok v m₁ =>
    exact ⟨bound, .ok v m₁, fun fuel enough => listen_ok (run fuel enough), trivial, onward⟩
  | error failure m₁ =>
    by_cases unwinding : failure = .unwinding
    · subst unwinding
      cases onWay : m₁.pending with
      | none =>
        refine ⟨bound, .error .unwinding m₁, fun fuel enough => ?_, genuine, onward⟩
        have called : (Engine.ofHost host fuel).call function [] m = _ := run fuel enough
        simp only [listen, called, onWay]
      | some c =>
        have quieted : m.Onward .native m₁.quieted := onward.trans (.quieted m₁)
        obtain ⟨bound', outcome, run', genuine', onward'⟩ :=
          respond_ends answers response c _ (quieted.ready ready)
        -- a bound for both: for what is listened to and for the handler
        refine ⟨max bound bound', outcome, fun fuel enough => ?_, genuine', quieted.trans onward'⟩
        exact (listen_unwinding (run fuel (by omega)) onWay).trans (run' fuel (by omega))
    · exact ⟨bound, .error failure m₁, fun fuel enough => listen_failure (run fuel enough) unwinding,
        genuine, onward⟩

/-- **An errand ends if its calls do.** -/
theorem Errand.ends {x : Procedure α} (h : Errand ρ P r x) (answers : Answers host left ρ) :
    Ends host left r x := by
  induction h with
  | pure a => exact .pure a
  | bind _ _ ihx ihk => exact .bind ihx ihk
  | read f => exact .read f
  | furnish f furnished => exact fun m _ => .ok (fun _ => rfl) (.furnished (furnished m))
  | raiseError detail =>
    intro m ready
    obtain ⟨o, m', furnished, raised⟩ := raiseError_eq (α := _) detail m
    exact .error (fun _ => raised) (by rintro ⟨⟩)
      ((Machine.Onward.furnished furnished).trans (.signalled m' _ _))
  | callBound function arguments binding within =>
    exact .ofNative (answers function arguments binding within)
  | listen function response wide =>
    subst wide
    exact .ofNative (listen_ends answers function response)
  | frame i f forwarded => exact fun m _ => .ok (fun _ => rfl) (.frame m i forwarded)
  | assign i slot v => exact writeReferrable_ends i slot v
  | closure i id types => exact makeClosure_ends i id types

end Errands

/-! ## Calls -/

theorem Answers.still (host : Host) (left : Nat) : Answers host left .still :=
  fun _ _ _ within => within.elim

/-- Entering a function in the core ends, under a condition that does. -/
def Enters (host : Host) (left : Nat) : Prop :=
  ∀ (f : FunctionFacet) (parameters : Array Value) (restart : Option Restart), f.stub.Core →
    (∀ condition, restart = some condition → condition.Finite) →
      Ends host left .native fun e => e.enter f parameters restart

section Calls
variable {host : Host} {left : Nat} (enters : Enters host left)
include enters

theorem callFacet_ends {f : FunctionFacet} (core : f.stub.Core) (arguments : Arguments)
    (binding : Option Value) :
    Ends host left .native fun e => callFacet host e f arguments binding := by
  have quick {α : Type} {x : Procedure α} (h : Errand .still .none .native x) :
      Ends host left .native x := h.ends (.still host left)
  simp only [callFacet_eq, runCalled, core.script, Bool.false_eq_true, if_false]
  refine .bind (quick (bindArguments_errand f arguments binding)) fun parameters => ?_
  refine .bind (quick (checkParameters_errand f parameters)) fun _ => ?_
  exact .bind (enters f parameters none core (by rintro _ ⟨⟩)) fun v => quick (checkResult_errand f v)

/-- Calling a value ends if it ends for types. -/
theorem callValue_ends {arguments : Arguments}
    (types : ∀ t, Ends host left .native fun e => callType e t arguments) (function : Value)
    (binding : Option Value) :
    Ends host left .native fun e => callValue host e function arguments binding := by
  cases function with
  | type t => exact types t
  | object o =>
    intro m ready
    cases function? : (m.object o).function? with
    | none => exact .raised fun e => callValue_plain function? arguments binding
    | some f =>
      have core : f.stub.Core := ready.core.functions f ⟨o, function?⟩
      exact .congr (fun fuel => callValue_function function? arguments binding)
        (callFacet_ends enters core arguments binding m ready)
  | _ => exact .raise _

omit enters in
/-- Carrying out a call ends if calling the value does. -/
theorem call_ends {function : Value} {arguments : Arguments} {binding : Option Value}
    (ends : Ends host left .native fun e => callValue host e function arguments binding) :
    Ends host left .native fun e => e.callBound function arguments binding := by
  intro m ready
  let counted : Machine := { m with reentry := m.reentry + 1 }
  have start : counted.Ready left :=
    ⟨⟨ready.sound.bounded, ready.sound.pooled⟩, ready.core.of_eq rfl rfl, ready.room⟩
  let leave (m : Machine) : Machine := { m with reentry := m.reentry - 1 }
  refine .enclosed leave (fun fuel => rfl) (ends counted start) fun m₁ onward => ?_
  exact .of_frames (.underway onward.kept) fun core =>
    (onward.core (core.of_eq rfl rfl)).of_eq rfl rfl

/-- A call without arguments ends: a type cannot be called so, and a function is entered. -/
theorem answers_narrow : Answers host left .narrow := by
  intro function arguments binding none
  obtain rfl : arguments = [] := none
  have types (t : TypeId) : Ends host left .native fun e => callType e t [] :=
    .bind (.read _) fun _ => .raise _
  exact call_ends (callValue_ends enters types function binding)

/-- **Every call ends**: a type that is called only makes calls without arguments. -/
theorem answers_wide : Answers host left .wide := by
  intro function arguments binding _
  have types (t : TypeId) : Ends host left .native fun e => callType e t arguments :=
    Errand.ends (callType_errand t arguments : Errand .narrow .none _ _) (answers_narrow enters)
  exact call_ends (callValue_ends enters types function binding)

omit enters in
/-- What goes on with the body of a loop may rely on its being in the core. -/
theorem loopBody_ends {α : Type} {r : Rank} {k : Engine → FunctionFacet → Action α}
    (next : ∀ f : FunctionFacet, f.stub.Core → Ends host left r fun e => k e f) (body : Value) :
    Ends host left r fun e => loopBody body >>= k e := by
  intro m ready
  rcases loopBody_cases body m with ⟨f, run, has⟩ | run
  · exact .congr (fun fuel => Action.bind_ok run) (next f (ready.core.functions f has) m ready)
  · exact .raised fun e => bind_raised run _

/-- Going through the entries of an object ends. -/
theorem entryLoop_ends {r : Rank} (target body : Value) :
    Ends host left r fun e => entryLoop e target body := by
  have errand {α : Type} {x : Procedure α} (h : Errand .wide .none r x) : Ends host left r x :=
    h.ends (answers_wide enters)
  cases target with
  | object o =>
    refine .bind (errand (iterated_errand o)) fun o => loopBody_ends (fun f core => ?_) body
    refine .bind (errand (objectKeys_errand o)) fun keys => ?_
    refine .bind (errand (objectValues_errand o)) fun values => ?_
    cases keys with
    | nil => exact .pure _
    | cons key keys =>
      refine .ofNative (enters f _ _ core fun condition counted => ?_)
      obtain rfl := Option.some.inj counted
      exact trivial
  | _ => exact .raise _

end Calls

end StubMachine
