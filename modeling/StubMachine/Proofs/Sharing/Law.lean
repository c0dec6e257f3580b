import StubMachine.Proofs.Finality
import StubMachine.Proofs.Sharing.Ledger

/-!
# The law of sharing

Whatever runs in a machine that is linked to a ledger, the machine stays linked: the
ledger grows, and no array on record changes its length.  The values of variables change
only where something assigns to them.  To say so, some variables are **sealed**, and
every activity that may assign to a sealed one is refused.  Then the sealed variables
keep their values, however much else is done (`Machine.Sequel`).

This is a law in the sense of `Law`, for machines that are in a known place: outside all
frames' business, or in a certain frame whose variables are known.  It is not a lenient
one.  An embedder must not change the store in ways in which the machine never does, nor
make up functions and enter them.  Within the machine, functions are entered that have
been found in the store, and those are rooted.
-/

namespace StubMachine

open StubMachine.Action

/-! ## What a run leaves of the variables -/

namespace Machine
variable {S : Capture → Prop} {L L₁ : Ledger} {m m₁ m₂ : Machine}

/-- **What a run leaves of the variables**: the machine is linked to a ledger that continues the
one before, and sealed variables have the values that they had. -/
structure Sequel (L : Ledger) (S : Capture → Prop) (m m' : Machine) : Prop where
  linked : ∃ L' : Ledger, L <+: L' ∧ m'.Linked L'
  kept (c : Capture) (v : Value) : S c → m.slot? c = some v → m'.slot? c = some v

theorem slot_congr (slots : m₁.slots = m.slots) (c : Capture) : m₁.slot? c = m.slot? c := by
  rw [slot?, slot?, referrables, referrables, slots]

namespace Sequel

/-- A change that assigns to no variable. -/
theorem of_linked (linked : m₁.Linked L) (slots : m₁.slots = m.slots) : m.Sequel L S m₁ where
  linked := ⟨L, List.prefix_refl L, linked⟩
  kept c _ _ there := (slot_congr slots c).trans there

/-- A change to what is not held by anything. -/
theorem of_congr (linked : m.Linked L) (slots : m₁.slots = m.slots)
    (objects : m₁.objects = m.objects) (frames : m₁.frames = m.frames)
    (stubs : m₁.stubs = m.stubs) : m.Sequel L S m₁ :=
  .of_linked (linked.congr slots objects frames stubs) slots

theorem trans (h : m.Sequel L S m₁) (h' : ∀ L₁, L <+: L₁ → m₁.Linked L₁ → m₁.Sequel L₁ S m₂) :
    m.Sequel L S m₂ := by
  obtain ⟨L₁, le, linked₁⟩ := h.linked
  have later := h' L₁ le linked₁
  obtain ⟨L₂, le', linked₂⟩ := later.linked
  exact ⟨⟨L₂, le.trans le', linked₂⟩, fun c v is_sealed there =>
    later.kept c v is_sealed (h.kept c v is_sealed there)⟩

/-- **Assigning to a variable that is not sealed.** -/
theorem setSlot (linked : m.Linked L) {c : Capture} (free : ¬ S c) (v : Value) :
    m.Sequel L S (m.setSlot c v) where
  linked := ⟨L, List.prefix_refl L, linked.setSlot c v⟩
  kept c' w is_sealed there := by
    have ne : c' ≠ c := by
      rintro rfl
      exact free is_sealed
    exact (slot_setSlot_ne m ne v).trans there

/-- **Entering a function.** -/
theorem pushFrame (linked : m.Linked L) {f : FunctionFacet} (rooted : f.Rooted L)
    (parameters : Array Value) (restart : Option Restart) :
    m.Sequel L S (m.pushFrame f parameters restart) where
  linked := ⟨_, List.prefix_append _ _, linked.pushFrame parameters restart rooted⟩
  kept _ _ _ there := slot_pushFrame f parameters restart there

end Sequel

/-- **What everything that runs does to the variables**, if a certain function is known to be
rooted. -/
def Passes (S : Capture → Prop) (known : Option FunctionFacet) (m m' : Machine) : Prop :=
  ∀ L, m.Linked L → (∀ f, known = some f → f.Rooted L) → m.Sequel L S m'

namespace Passes
variable {known : Option FunctionFacet}

theorem refl (m : Machine) : m.Passes S known m := fun _ linked _ => .of_linked linked rfl

theorem trans (h : m.Passes S known m₁) (h' : m₁.Passes S known m₂) : m.Passes S known m₂ :=
  fun L linked rooted => (h L linked rooted).trans fun L₁ le linked₁ =>
    h' L₁ linked₁ fun f eq => (rooted f eq).mono le

/-- Nothing need be known. -/
theorem of_none (h : m.Passes S none m₁) : m.Passes S known m₁ :=
  fun L linked _ => h L linked fun _ eq => by cases eq

theorem congr (slots : m₁.slots = m.slots) (objects : m₁.objects = m.objects)
    (frames : m₁.frames = m.frames) (stubs : m₁.stubs = m.stubs) : m.Passes S known m₁ :=
  fun _ linked _ => .of_congr linked slots objects frames stubs

theorem stored (h : m.Stored m₁) : m.Passes S known m₁ :=
  fun _ linked _ => .of_linked (linked.stored h) h.slots

theorem modifyFrame (m : Machine) (i : Nat) (change : Frame → Frame)
    (h : ∀ fr : Frame, fr.Progressed (change fr)) :
    m.Passes S known { m with frames := m.frames.modify i change } := fun _ linked _ =>
  .of_linked (linked.modifyFrame i change fun fr rooted => rooted.progressed (h fr)) rfl

theorem popFrame (m : Machine) : m.Passes S known m.popFrame :=
  fun _ linked _ => .of_linked linked.popFrame rfl

end Passes
end Machine

/-! ## Places -/

/-- Where something runs. -/
inductive Place
  /-- Between frames. -/
  | outside
  /-- In a frame, of which is known what its variables are. -/
  | frame (i : Nat) (site : Nat → Option Capture)

namespace Place
variable {place : Place} {r : Rank} {m m₁ : Machine}

/-- The machine is in the place. -/
def Holds : Place → Machine → Prop
  | outside, m => m.Sound
  | frame i site, m => m.RunsAt i ∧ (m.frame i).site? = site

/-- The variables to which may be assigned in the place: those of its own frame that are not
sealed. -/
def Assigns (S : Capture → Prop) : Place → Nat → Nat → Prop
  | outside, _, _ => False
  | frame i site, j, slot => j = i ∧ ∀ c, site slot = some c → ¬ S c

/-- The license of what runs in the place: to enter a certain function, and to assign. -/
def license (place : Place) (S : Capture → Prop) (known : Option FunctionFacet)
    (foreign : Procedure Value → Prop) : License :=
  ⟨foreign, False, fun f => known = some f, place.Assigns S⟩

theorem Holds.sound (h : place.Holds m) : m.Sound := by
  cases place with
  | outside => exact h
  | frame i site => exact h.1.sound

end Place

/-- No routine changes what the variables of a frame are. -/
theorem Rank.Allows.site_eq {r : Rank} {j : Nat} {f f' : Frame} (h : r.Allows j f f') :
    f'.site? = f.site? := by
  have own {i : Nat} (h : Allows (.activation i) j f f') : f'.site? = f.site? := by
    rw [Allows] at h
    split at h
    · exact h.site_eq
    · rw [h]
  cases r with
  | operation => exact congrArg Frame.site? h
  | native => exact congrArg Frame.site? h
  | instruction i => exact own h.activation
  | activation i => exact own h

theorem Place.Holds.kept {place : Place} {r : Rank} {m m₁ : Machine} (h : place.Holds m)
    (kept : m.Kept r m₁) : place.Holds m₁ := by
  cases place with
  | outside => exact kept.sound h
  | frame i site =>
    obtain ⟨runs, known⟩ := h
    have active : i < m.depth := by
      rw [runs.innermost]
      exact Nat.lt_succ_self i
    exact ⟨kept.runsAt runs, (kept.frames i active).site_eq.trans known⟩

/-! ## The law -/

/-- A state after one that was linked to a ledger, in which a certain function is known to be
rooted. -/
def Machine.Based (start : Machine) (L₀ : Ledger) (S : Capture → Prop)
    (known : Option FunctionFacet) (m : Machine) : Prop :=
  start.Sequel L₀ S m ∧ ∃ L, L₀ <+: L ∧ m.Linked L ∧ ∀ f, known = some f → f.Rooted L

namespace Machine.Based
variable {start m m₁ : Machine} {L₀ : Ledger} {S : Capture → Prop} {known : Option FunctionFacet}

/-- What runs preserves this. -/
theorem later (h : start.Based L₀ S known m) (passes : m.Passes S known m₁) :
    start.Based L₀ S known m₁ := by
  obtain ⟨before, L, le, linked, rooted⟩ := h
  have sequel := passes L linked rooted
  obtain ⟨L', le', linked'⟩ := sequel.linked
  refine ⟨⟨⟨L', le.trans le', linked'⟩, fun c v is_sealed there => ?_⟩, L', le.trans le', linked',
    fun f eq => (rooted f eq).mono le'⟩
  exact sequel.kept c v is_sealed (before.kept c v is_sealed there)

/-- What is known may be forgotten. -/
theorem forget (h : start.Based L₀ S known m) : start.Based L₀ S none m := by
  obtain ⟨sequel, L, le, linked, -⟩ := h
  exact ⟨sequel, L, le, linked, fun _ eq => by cases eq⟩

/-- A function in the store is known to be rooted. -/
theorem know (h : start.Based L₀ S none m) {f : FunctionFacet} (has : m.HasFunction f) :
    start.Based L₀ S (some f) m := by
  obtain ⟨sequel, L, le, linked, -⟩ := h
  refine ⟨sequel, L, le, linked, ?_⟩
  rintro g ⟨⟩
  exact linked.functions f has

end Machine.Based

/-- **The law of sharing**, from a certain state on that was linked to a ledger, in a certain
place, and with a certain function known to be rooted. -/
def Law.sharing (start : Machine) (L₀ : Ledger) (S : Capture → Prop) (place : Place)
    (known : Option FunctionFacet) : Law where
  Holds m := place.Holds m ∧ start.Based L₀ S known m
  Rel r m m' := m.Kept r m' ∧ m.Passes S known m'
  holds hm h := ⟨hm.1.kept h.1, hm.2.later h.2⟩
  refl r m := ⟨.refl r m, .refl m⟩
  trans h h' := ⟨h.1.trans h'.1, h.2.trans h'.2⟩
  ofNative h := ⟨Law.sound.ofNative h.1, h.2⟩
  ofInstruction h := ⟨Law.sound.ofInstruction h.1, h.2⟩
  stored h := ⟨Law.sound.stored h, .stored h⟩
  signalled m kind payload := ⟨Law.sound.signalled m kind payload, .congr rfl rfl rfl rfl⟩
  quieted m := ⟨Law.sound.quieted m, .congr rfl rfl rfl rfl⟩
  reported m c idle := ⟨Law.sound.reported m c idle, .congr rfl rfl rfl rfl⟩
  frame m i f h := ⟨Law.sound.frame m i f h, .modifyFrame m i f fun fr => (h fr).progressed⟩
  reframe m i f h := ⟨Law.sound.reframe m i f h, .modifyFrame m i f h⟩

/-! ## Assigning and making closures -/

/-- Assigning to the variable with a number changes that variable, or raises an error. -/
theorem writeReferrable_cases (i slot : Nat) (v : Value) (m : Machine) :
    (∃ c, (m.frame i).site? slot = some c ∧ writeReferrable i slot v m = .ok () (m.setSlot c v)) ∨
      writeReferrable i slot v m = (raise (.referrableRange slot) : Action Unit) m := by
  have read : Action.read (fun m => ((m.frame i).site? slot).filter fun c => (m.slot? c).isSome) m =
      .ok (((m.frame i).site? slot).filter fun c => (m.slot? c).isSome) m := rfl
  rw [writeReferrable, Action.bind_ok read]
  cases named : ((m.frame i).site? slot).filter fun c => (m.slot? c).isSome with
  | none => exact .inr rfl
  | some c =>
    obtain ⟨site, -⟩ := Option.filter_eq_some_iff.mp named
    exact .inl ⟨c, site, rfl⟩

/-- The function that a closure over a frame is. -/
def Machine.closure (m : Machine) (i : Nat) (stub : Stub) (captures : Array Capture)
    (types : Option (Array TypeId)) : FunctionFacet :=
  ⟨stub, captures, types, (m.frame i).scope, none⟩

/-- The state after a function has been taken into the store. -/
def Machine.withFunction (m : Machine) (f : FunctionFacet) : Machine :=
  { m with objects := m.objects.push (Object.ofType BuiltinType.function.id (.function f)) }

/-- The function that has been taken into the store is its newest object. -/
@[simp] theorem Machine.newest_withFunction (m : Machine) (f : FunctionFacet) :
    ((m.withFunction f).object ⟨m.objects.size + 1⟩).function? = some f := by
  show ((m.objects.push _).getD (m.objects.size + 1 - 1) _).function? = _
  rw [Nat.add_sub_cancel, Array.getD_eq_getD_getElem?, Array.getElem?_push, if_pos rfl]
  rfl

/-- A closure that can be made is taken into the store. -/
theorem makeClosure_ok {i : Nat} {id : UInt32} {m : Machine} {stub : Stub}
    (here : m.HasStub (m.frame i).stub.file id stub) {captures : Array Capture}
    (resolved : stub.captures.mapM (m.resolve (m.frame i).scope (m.frame i).stub.file id) =
      .ok captures) (types : Option (Array TypeId)) :
    makeClosure i id types m =
      .ok (.object ⟨m.objects.size + 1⟩) (m.withFunction (m.closure i stub captures types)) := by
  have known : stubBeside? i id m = .ok (some stub) m := congrArg (EStateM.Result.ok · m) here
  have framed : readFrame i (fun f => f) m = .ok (m.frame i) m := rfl
  have looked : Action.read (fun m' => stub.captures.mapM
      (m'.resolve (m.frame i).scope (m.frame i).stub.file id)) m = .ok (.ok captures) m :=
    congrArg (EStateM.Result.ok · m) resolved
  rw [makeClosure, Action.bind_ok known]
  dsimp only
  rw [Action.bind_ok framed, Action.bind_ok looked]
  rfl

/-- Making a closure raises an error or fails fatally, or takes the closure into the store. -/
theorem makeClosure_cases (i : Nat) (id : UInt32) (types : Option (Array TypeId)) (m : Machine) :
    (∃ fault, makeClosure i id types m = (raise fault : Action Value) m) ∨
      (∃ cause, makeClosure i id types m = .error (.fatal cause) m) ∨
      ∃ stub captures, m.HasStub (m.frame i).stub.file id stub ∧
        stub.captures.mapM (m.resolve (m.frame i).scope (m.frame i).stub.file id) = .ok captures ∧
        makeClosure i id types m =
          .ok (.object ⟨m.objects.size + 1⟩) (m.withFunction (m.closure i stub captures types)) := by
  cases here : m.stubs[((m.frame i).stub.file, id)]? with
  | none =>
    have known : stubBeside? i id m = .ok none m := congrArg (EStateM.Result.ok · m) here
    rw [makeClosure, Action.bind_ok known]
    exact .inl ⟨_, rfl⟩
  | some stub =>
    cases resolved :
        stub.captures.mapM (m.resolve (m.frame i).scope (m.frame i).stub.file id) with
    | error cause =>
      have known : stubBeside? i id m = .ok (some stub) m := congrArg (EStateM.Result.ok · m) here
      have framed : readFrame i (fun f => f) m = .ok (m.frame i) m := rfl
      have looked : Action.read (fun m' => stub.captures.mapM
          (m'.resolve (m.frame i).scope (m.frame i).stub.file id)) m = .ok (.error cause) m :=
        congrArg (EStateM.Result.ok · m) resolved
      rw [makeClosure, Action.bind_ok known]
      dsimp only
      rw [Action.bind_ok framed, Action.bind_ok looked]
      exact .inr (.inl ⟨cause, rfl⟩)
    | ok captures =>
      exact .inr (.inr ⟨stub, captures, here, resolved, makeClosure_ok here resolved types⟩)

section Elementary
variable {start : Machine} {L₀ : Ledger} {S : Capture → Prop} {place : Place}
  {known : Option FunctionFacet} {r : Rank} {i : Nat}

namespace Law.Lockstep

/-- **Assigning obeys the law** where the license allows it. -/
theorem assignShared {slot : Nat} (allowed : place.Assigns S i slot) (v : Value) :
    (Law.sharing start L₀ S place known).Lockstep (.instruction i)
      (StubMachine.writeReferrable i slot v)
      (StubMachine.writeReferrable i slot v) := by
  intro m hm
  refine ⟨rfl, ?_⟩
  rw [Action.after]
  rcases writeReferrable_cases i slot v m with ⟨c, named, run⟩ | run
  · rw [run]
    refine ⟨.of_frames_eq rfl rfl rfl rfl, fun L linked _ => .setSlot linked ?_ v⟩
    cases place with
    | outside => exact allowed.elim
    | frame j site =>
      -- the slot that is written is no capture that is on the list
      obtain ⟨rfl, free⟩ := allowed
      have here : (m.frame i).site? = site := hm.1.2
      rw [here] at named
      exact free c named
  · rw [run]
    exact (raiseError (L := Law.sharing start L₀ S place known) _ m hm).2

/-- **Making a closure obeys the law.** -/
theorem closeShared (id : UInt32) (types : Option (Array TypeId)) :
    (Law.sharing start L₀ S place known).Lockstep (.instruction i)
      (StubMachine.makeClosure i id types) (StubMachine.makeClosure i id types) := by
  intro m hm
  refine ⟨rfl, ?_⟩
  rw [Action.after]
  rcases makeClosure_cases i id types m with
    ⟨fault, run⟩ | ⟨cause, run⟩ | ⟨stub, captures, here, resolved, run⟩
  · rw [run]
    exact (raiseError (L := Law.sharing start L₀ S place known) _ m hm).2
  · rw [run]
    exact ⟨.refl _ m, .refl m⟩
  · rw [run]
    refine ⟨.of_frames_eq rfl rfl rfl rfl, fun L linked _ => .of_linked ?_ rfl⟩
    exact linked.newFunction (.inr (linked.closed here resolved types))

/-- What obeys the law between frames obeys it in every frame. -/
theorem anyplace {α : Type} {x x' : Action α}
    (h : (Law.sharing start L₀ S .outside known).Lockstep .native x x') :
    (Law.sharing start L₀ S place known).Lockstep .native x x' :=
  fun m hm => h m ⟨hm.1.sound, hm.2⟩

/-- What obeys the law if nothing is known obeys it if something is. -/
theorem knowing {α : Type} {x x' : Action α}
    (h : (Law.sharing start L₀ S place none).Lockstep r x x') :
    (Law.sharing start L₀ S place known).Lockstep r x x' := by
  intro m hm
  obtain ⟨same, kept, passes⟩ := h m ⟨hm.1, hm.2.forget⟩
  exact ⟨same, kept, passes.of_none⟩

end Law.Lockstep

/-! ## Routines -/

/-- **Two engines that obey the law and carry out requests alike.**  A function that is entered
has to be rooted. -/
structure Law.Shared (start : Machine) (L₀ : Ledger) (S : Capture → Prop) (e e' : Engine) :
    Prop where
  fuel : e'.fuel = e.fuel
  called (function : Value) (arguments : Arguments) (binding : Option Value) :
    (Law.sharing start L₀ S .outside none).Lockstep .native
      (e.callBound function arguments binding) (e'.callBound function arguments binding)
  entered (f : FunctionFacet) (parameters : Array Value) (restart : Option Restart) :
    (Law.sharing start L₀ S .outside (some f)).Lockstep .native (e.enter f parameters restart)
      (e'.enter f parameters restart)

/-- **A routine obeys the law of sharing** if it assigns to no sealed variable of its frame and
enters no function but the known one. -/
theorem Routine.shared {e e' : Engine} (engines : Law.Shared start L₀ S e e')
    {foreign : Procedure Value → Prop}
    (obeys : ∀ x, foreign x →
      (Law.sharing start L₀ S .outside none).Lockstep .native (x e) (x e'))
    {α : Type} {x : Procedure α} (h : Routine (place.license S known foreign) r x) :
    (Law.sharing start L₀ S place known).Lockstep r (x e) (x e') := by
  refine h.admitted (L := Law.sharing start L₀ S place known) ?_
  constructor
  · exact engines.fuel
  · exact fun function arguments binding =>
      .knowing (.anyplace (engines.called function arguments binding))
  · exact fun x hx => .knowing (.anyplace (obeys x hx))
  · exact False.elim
  · intro f parameters restart entering
    have known_eq : known = some f := entering
    rw [known_eq]
    exact .anyplace (engines.entered f parameters restart)
  · exact fun i slot v allowed => .assignShared allowed v
  · exact fun i id types => .closeShared id types

end Elementary

end StubMachine
