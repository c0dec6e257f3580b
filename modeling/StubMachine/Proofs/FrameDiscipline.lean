import StubMachine.Proofs.Embedder

/-!
# Frames are entered and left in good order

The active frames are entries of one pool, addressed by place, and everything that runs
in the machine runs in one of them.  This module shows that nobody gets at the frames of
others.  **However a request ends, the call depth and the number of calls under way are
what they were before it, and so is every frame that was active then.**

That says nothing about the time in between.  So there is a second account of how
requests are carried out, `performWatched`, which looks at the machine at every step and
sounds an alarm if something is amiss: at the start and the end of each request, when a
frame has been entered and before it is left, and before and after each instruction.
**It never sounds the alarm**: for every alarm it does what `perform` does.

What is watched for is that the active frames are within the bound and within the pool
(`Machine.Sound`), and that between two moments only that has changed which may change
(`Machine.Kept`): for a request no active frame, for an instruction the program counter
and the value stack of its own frame, for an activation also the restart condition of
its own frame.  Since an activation is watched to be innermost when it ends, and the
frame that is left is the innermost one, a frame is left by the activation that entered
it.
-/

namespace StubMachine

open StubMachine.Action

/-! ## What is watched for -/

/-- How a routine of a rank may change the frame at a place. -/
def Rank.Allows : Rank → Nat → Frame → Frame → Prop
  | operation, _, f, f' => f' = f
  | native, _, f, f' => f' = f
  | instruction i, j, f, f' => if j = i then f.Advanced f' else f' = f
  | activation i, j, f, f' => if j = i then f.Progressed f' else f' = f

namespace Machine

/-- **The active frames are within the bound and within the pool.** -/
structure Sound (m : Machine) : Prop where
  bounded : m.depth ≤ m.config.maxCallDepth
  pooled : m.depth ≤ m.frames.size

/-- **Only that has changed which a routine of the rank may change**: the depth and the number
of calls under way have not, and of the active frames at most the routine's own has. -/
structure Kept (r : Rank) (m m' : Machine) : Prop where
  config : m'.config = m.config
  depth : m'.depth = m.depth
  reentry : m'.reentry = m.reentry
  pool : m.frames.size ≤ m'.frames.size
  frames : ∀ j < m.depth, r.Allows j (m.frame j) (m'.frame j)

/-- A frame is running, and it is the innermost one. -/
structure RunsAt (i : Nat) (m : Machine) : Prop where
  sound : m.Sound
  innermost : m.depth = i + 1

end Machine

/-! ## How frames may change -/

namespace Frame
variable {f f₁ f₂ : Frame}

theorem Advanced.trans (h : f.Advanced f₁) (h' : f₁.Advanced f₂) : f.Advanced f₂ := by
  rw [Advanced] at *
  rw [h', h]

theorem Progressed.trans (h : f.Progressed f₁) (h' : f₁.Progressed f₂) : f.Progressed f₂ := by
  rw [Progressed] at *
  rw [h', h]

theorem Advanced.progressed (h : f.Advanced f₁) : f.Progressed f₁ := by
  rw [Advanced] at h
  rw [Progressed, h]

end Frame

namespace Rank.Allows
variable {r : Rank} {i j : Nat} {f f₁ f₂ : Frame}

theorem refl (r : Rank) (j : Nat) (f : Frame) : r.Allows j f f := by
  cases r with
  | operation => rfl
  | native => rfl
  | instruction i => rw [Allows]; split <;> rfl
  | activation i => rw [Allows]; split <;> rfl

/-- Changes to one frame only follow each other if those to that frame do. -/
theorem own_trans {P : Frame → Frame → Prop} (trans : P f f₁ → P f₁ f₂ → P f f₂)
    (h : if j = i then P f f₁ else f₁ = f) (h' : if j = i then P f₁ f₂ else f₂ = f₁) :
    if j = i then P f f₂ else f₂ = f := by
  split at h
  · rw [if_pos ‹_›] at h' ⊢
    exact trans h h'
  · rw [if_neg ‹_›] at h' ⊢
    exact h'.trans h

theorem trans (h : r.Allows j f f₁) (h' : r.Allows j f₁ f₂) : r.Allows j f f₂ := by
  cases r with
  | operation => exact Eq.trans h' h
  | native => exact Eq.trans h' h
  | instruction i => exact own_trans Frame.Advanced.trans h h'
  | activation i => exact own_trans Frame.Progressed.trans h h'

/-- What leaves a frame as it is may be done to every frame. -/
theorem of_eq (h : f' = f) : r.Allows j f f' := h ▸ refl r j f

theorem activation (h : Allows (.instruction i) j f f₁) : Allows (.activation i) j f f₁ := by
  simp only [Allows] at h ⊢
  split at h
  · rw [if_pos ‹_›]
    exact h.progressed
  · rw [if_neg ‹_›]
    exact h

/-- Frames other than the routine's own stay as they are. -/
theorem other (h : Allows (.activation i) j f f₁) (ne : j ≠ i) : f₁ = f := by
  rw [Allows, if_neg ne] at h
  exact h

end Rank.Allows

namespace Machine

/-- The frame at a place after one frame has been changed. -/
theorem frame_modify (m : Machine) (i j : Nat) (f : Frame → Frame) :
    ({ m with frames := m.frames.modify i f } : Machine).frame j =
      if i = j ∧ j < m.frames.size then f (m.frame j) else m.frame j := by
  simp only [frame, Array.getD_eq_getD_getElem?, Array.getElem?_modify]
  by_cases inside : j < m.frames.size
  · by_cases eq : i = j
    · simp [eq, inside]
    · simp [eq]
  · simp [inside]

namespace Kept
variable {r : Rank} {i : Nat} {m m₁ m₂ : Machine}

theorem refl (r : Rank) (m : Machine) : m.Kept r m :=
  ⟨rfl, rfl, rfl, Nat.le_refl _, fun _ _ => .refl _ _ _⟩

theorem trans (h : m.Kept r m₁) (h' : m₁.Kept r m₂) : m.Kept r m₂ where
  config := h'.config.trans h.config
  depth := h'.depth.trans h.depth
  reentry := h'.reentry.trans h.reentry
  pool := Nat.le_trans h.pool h'.pool
  frames := fun j hj => (h.frames j hj).trans (h'.frames j (h.depth ▸ hj))

theorem sound (h : m.Kept r m₁) (s : m.Sound) : m₁.Sound where
  bounded := by rw [h.depth, h.config]; exact s.bounded
  pooled := by rw [h.depth]; exact Nat.le_trans s.pooled h.pool

theorem runsAt (h : m.Kept r m₁) (s : m.RunsAt i) : m₁.RunsAt i :=
  ⟨h.sound s.sound, h.depth.trans s.innermost⟩

/-- States with the same frames. -/
theorem of_frames_eq (config : m₁.config = m.config) (depth : m₁.depth = m.depth)
    (reentry : m₁.reentry = m.reentry) (frames : m₁.frames = m.frames) : m.Kept r m₁ where
  config := config
  depth := depth
  reentry := reentry
  pool := Nat.le_of_eq (by rw [frames])
  frames := fun j _ => .of_eq (by rw [frame, frame, frames])

/-- Changing one frame is allowed if the change is. -/
theorem modify (m : Machine) (i : Nat) (f : Frame → Frame)
    (h : ∀ fr : Frame, r.Allows i fr (f fr)) :
    m.Kept r { m with frames := m.frames.modify i f } where
  config := rfl
  depth := rfl
  reentry := rfl
  pool := Nat.le_of_eq Array.size_modify.symm
  frames := fun j _ => by
    rw [frame_modify]
    split
    · rename_i own
      rw [← own.1]
      exact h _
    · exact .refl _ _ _

end Kept
end Machine

/-- **The law of frames**, for states of any kind that lasts while frames are kept. -/
def Law.frames (P : Machine → Prop) (lasts : ∀ {r m m'}, P m → m.Kept r m' → P m') : Law where
  Holds := P
  Rel := Machine.Kept
  holds := lasts
  refl := Machine.Kept.refl
  trans h h' := h.trans h'
  ofNative h := ⟨h.config, h.depth, h.reentry, h.pool, fun j hj => .of_eq (h.frames j hj)⟩
  ofInstruction h := ⟨h.config, h.depth, h.reentry, h.pool, fun j hj => (h.frames j hj).activation⟩
  stored h := .of_frames_eq h.config h.depth h.reentry h.frames
  signalled _ _ _ := .of_frames_eq rfl rfl rfl rfl
  quieted _ := .of_frames_eq rfl rfl rfl rfl
  reported _ _ _ := .of_frames_eq rfl rfl rfl rfl
  frame m i f h := .modify m i f fun fr => by rw [Rank.Allows, if_pos rfl]; exact h fr
  reframe m i f h := .modify m i f fun fr => by rw [Rank.Allows, if_pos rfl]; exact h fr

instance (P : Machine → Prop) (lasts : ∀ {r m m'}, P m → m.Kept r m' → P m') :
    (Law.frames P lasts).Lenient :=
  ⟨fun h => .of_frames_eq h.config h.depth h.reentry h.frames⟩

/-- The law of frames for sound states. -/
def Law.sound : Law := .frames Machine.Sound fun s h => h.sound s

/-- The law of frames while the frame at a place runs. -/
def Law.runsAt (i : Nat) : Law := .frames (Machine.RunsAt i) fun s h => h.runsAt s

instance : Law.sound.Lenient := inferInstanceAs (Law.frames _ _).Lenient

instance (i : Nat) : (Law.runsAt i).Lenient := inferInstanceAs (Law.frames _ _).Lenient

/-! ## Entering and leaving -/

namespace Machine
variable {m m₁ : Machine} (f : FunctionFacet) (parameters : Array Value) (restart : Option Restart)

theorem pushFrame_runsAt (s : m.Sound) (room : m.depth < m.config.maxCallDepth) :
    (m.pushFrame f parameters restart).RunsAt m.depth :=
  ⟨⟨room, size_pushFrame f parameters restart s.pooled⟩, rfl⟩

theorem pushFrame_pool : m.frames.size ≤ (m.pushFrame f parameters restart).frames.size := by
  show m.frames.size ≤ (m.roomyFrames.setIfInBounds m.depth _).size
  rw [Array.size_setIfInBounds, roomyFrames]
  split
  · exact Nat.le_refl _
  · rw [Array.size_push]
    exact Nat.le_succ _

/-- Entering a function leaves the active frames as they are. -/
theorem pushFrame_frame (s : m.Sound) {j : Nat} (active : j < m.depth) :
    (m.pushFrame f parameters restart).frame j = m.frame j := by
  rw [frame_pushFrame_eq f parameters restart s.pooled, if_neg (Nat.ne_of_lt active)]

/-- **Leaving the frame that was entered** restores the depth, and no active frame has changed
in the meantime. -/
theorem Kept.entered (s : m.Sound)
    (h : (m.pushFrame f parameters restart).Kept (.activation m.depth) m₁) :
    m.Kept .native m₁.popFrame where
  config := h.config
  depth := by
    show m₁.depth - 1 = m.depth
    rw [h.depth]
    rfl
  reentry := h.reentry
  pool := by
    show m.frames.size ≤ (m₁.frames.modify _ _).size
    rw [Array.size_modify]
    exact Nat.le_trans (pushFrame_pool f parameters restart) h.pool
  frames := fun j active => by
    have place : m₁.depth - 1 = m.depth := by rw [h.depth]; rfl
    have kept : m₁.frame j = (m.pushFrame f parameters restart).frame j :=
      (h.frames j (Nat.lt_succ_of_lt active)).other (Nat.ne_of_lt active)
    show m₁.popFrame.frame j = m.frame j
    rw [← pushFrame_frame f parameters restart s active, ← kept]
    refine (frame_modify m₁ (m₁.depth - 1) j retire).trans (if_neg fun own => ?_)
    exact Nat.ne_of_gt active (place ▸ own.1)

/-- Counting one more call under way for a while. -/
theorem Kept.underway (h : ({ m with reentry := m.reentry + 1 } : Machine).Kept r m₁) :
    m.Kept r { m₁ with reentry := m₁.reentry - 1 } where
  config := h.config
  depth := h.depth
  reentry := by
    show m₁.reentry - 1 = m.reentry
    rw [h.reentry]
    rfl
  pool := h.pool
  frames := h.frames

end Machine

/-! ## Watching -/

open Classical in
/-- **Look at the machine before and after an action**, and end with an alarm if it is not as it
should be. -/
noncomputable def watched {α : Type} (alarm : Failure) (before : Machine → Prop)
    (between : Machine → Machine → Prop) (x : Action α) : Action α := fun m =>
  if before m ∧ between m (x.after m) then x m else .error alarm m

/-- `proceed`, with the machine looked at before and after the instruction is fetched and
before and after it is executed, or before and after the frame starts over. -/
noncomputable def proceedWatched (alarm : Failure) (e : Engine) (i : Nat) : Action Flow := do
  match ← watched alarm (Machine.RunsAt i) (Machine.Kept (.instruction i))
    (fetchInstruction i) with
  | some ins =>
    watched alarm (Machine.RunsAt i) (Machine.Kept (.instruction i)) (step e i ins)
  | none =>
    watched alarm (Machine.RunsAt i) (Machine.Kept (.activation i)) do
      if ← startOver e i then return .next else return .done .empty

/-- `runFrame`, with the machine looked at at every step. -/
noncomputable def runFrameWatched (alarm : Failure) (e : Engine) (i : Nat) : Nat → Action Value
  | 0 => throw .exhausted
  | steps + 1 => proceedWatched alarm e i >>= Flow.resume (runFrameWatched alarm e i steps)

/-- `perform`, with the machine looked at before and after each request, and before and after
the run of each frame, which is when it has just been entered and is about to be left. -/
noncomputable def performWatched (alarm : Failure) (host : Host) : Nat → Request → Action Value
  | 0, _ => throw .exhausted
  | fuel + 1, request =>
    let e : Engine := ⟨fuel, performWatched alarm host fuel⟩
    watched alarm Machine.Sound (Machine.Kept .native) <|
      match request with
      | .call function arguments binding =>
        underway (callValue host e function arguments binding)
      | .enter facet parameters restart =>
        withFrame facet parameters restart fun i =>
          watched alarm (Machine.RunsAt i) (Machine.Kept (.activation i))
            (runFrameWatched alarm e i fuel)

namespace Law.Lockstep
variable {α : Type} {alarm : Failure}

/-- What is watched for is the law: an action that obeys it sounds no alarm. -/
theorem watched {L : Law} {r : Rank} {x x' : Action α} (h : L.Lockstep r x x') :
    L.Lockstep r x (StubMachine.watched alarm L.Holds (L.Rel r) x') := by
  intro m hm
  obtain ⟨same, rel⟩ := h m hm
  refine ⟨?_, rel⟩
  have after : x'.after m = x.after m := by rw [Action.after, Action.after, same]
  rw [StubMachine.watched, after, if_pos ⟨hm, rel⟩]
  exact same

/-- What is in step in all sound states is in step while a frame runs. -/
theorem runsAt {i : Nat} {r : Rank} {x x' : Action α} (h : Law.sound.Lockstep r x x') :
    (Law.runsAt i).Lockstep r x x' :=
  fun m hm => h m hm.sound

/-- **Counting a call under way obeys the law of frames.** -/
theorem underway {x x' : Action Value} (h : Law.sound.Lockstep .native x x') :
    Law.sound.Lockstep .native (StubMachine.underway x) (StubMachine.underway x') := by
  intro m s
  obtain ⟨same, kept⟩ := h { m with reentry := m.reentry + 1 } ⟨s.bounded, s.pooled⟩
  constructor
  · rw [underway_eq, underway_eq, finally_, finally_, same]
  · show m.Kept .native ((finally_ x _).after { m with reentry := m.reentry + 1 })
    rw [Action.after_finally]
    exact Machine.Kept.underway kept

/-- **Running something in a frame of its own obeys the law of frames** if what runs does as
long as its frame is the innermost one. -/
theorem withFrame {body body' : Nat → Action Value}
    (h : ∀ i, (Law.runsAt i).Lockstep (.activation i) (body i) (body' i)) (f : FunctionFacet)
    (parameters : Array Value) (restart : Option Restart) :
    Law.sound.Lockstep .native (StubMachine.withFrame f parameters restart body)
      (StubMachine.withFrame f parameters restart body') := by
  intro m s
  by_cases full : m.config.maxCallDepth ≤ m.depth
  · rw [withFrame_eq, Action.after, withFrame_eq, if_pos full, if_pos full]
    exact raiseError (L := .sound) _ m s
  · have runs := Machine.pushFrame_runsAt f parameters restart s (Nat.lt_of_not_le full)
    obtain ⟨same, kept⟩ := h m.depth _ runs
    constructor
    · rw [withFrame_eq, withFrame_eq, if_neg full, if_neg full, finally_, finally_, same]
    · rw [after_withFrame full]
      exact Machine.Kept.entered f parameters restart s kept

end Law.Lockstep

/-! ## Requests -/

section Requests
variable {alarm : Failure} {e e' : Engine}

/-- **One step** of a frame obeys the law, and watching it makes no difference. -/
theorem proceedWatched_lockstep (fuel : e'.fuel = e.fuel)
    (requests : ∀ q, Law.sound.Lockstep .native (e.perform q) (e'.perform q)) (i : Nat) :
    (Law.runsAt i).Lockstep (.activation i) (proceed e i) (proceedWatched alarm e' i) := by
  have own {r : Rank} {α : Type} {x : Procedure α} (h : Routine .alone r x) :
      (Law.runsAt i).Lockstep r (x e) (x e') :=
    h.lockstep fuel (fun q => (requests q).runsAt) (fun _ => False.elim)
  have within {α : Type} {x x' : Action α} (h : (Law.runsAt i).Lockstep (.instruction i) x x') :
      (Law.runsAt i).Lockstep (.activation i) x x' :=
    fun m hm => ⟨(h m hm).1, (Law.runsAt i).ofInstruction (h m hm).2⟩
  refine .bind (within (own (fetchInstruction_routine i)).watched) fun ins? => ?_
  cases ins? with
  | some ins => exact within (own (step_routine i ins)).watched
  | none =>
    have again : Routine .alone (.activation i) fun e => (do
        if ← startOver e i then return .next else return .done .empty : Action Flow) :=
      .bind (startOver_routine i) fun _ => .ite (.pure _) (.pure _)
    exact (own again).watched

/-- From one step to the run of a frame. -/
theorem runFrameWatched_lockstep (fuel : e'.fuel = e.fuel)
    (requests : ∀ q, Law.sound.Lockstep .native (e.perform q) (e'.perform q)) (i steps : Nat) :
    (Law.runsAt i).Lockstep (.activation i) (runFrame e i steps)
      (runFrameWatched alarm e' i steps) := by
  induction steps with
  | zero => exact .of_rel fun m => .refl _ m
  | succ steps ih =>
    rw [runFrame_succ, runFrameWatched]
    refine .bind (proceedWatched_lockstep fuel requests i) fun flow => ?_
    cases flow with
    | next => exact ih
    | done v => exact .of_rel fun m => .refl _ m

end Requests

/-- **Requests obey the law of frames**, and watching them makes no difference.  The induction
is on the bound. -/
theorem performWatched_lockstep {host : Host} (confined : host.Confined) (alarm : Failure)
    (fuel : Nat) (q : Request) :
    Law.sound.Lockstep .native (perform host fuel q) (performWatched alarm host fuel q) := by
  -- both engines hand the requests that they meet to themselves with less fuel
  induction fuel generalizing q with
  | zero => exact .of_rel fun m => .refl _ m
  | succ fuel ih =>
    let e := Engine.ofHost host fuel
    let e' : Engine := ⟨fuel, performWatched alarm host fuel⟩
    have requests : ∀ q, Law.sound.Lockstep .native (e.perform q) (e'.perform q) := ih
    have sameFuel : e'.fuel = e.fuel := rfl
    cases q with
    | call function arguments binding =>
      refine Law.Lockstep.watched (L := .sound) (.underway ?_)
      exact callValue_lockstep confined sameFuel requests function arguments binding
    | enter facet parameters restart =>
      refine Law.Lockstep.watched (L := .sound) (.withFrame (fun i => ?_) facet parameters restart)
      exact (runFrameWatched_lockstep sameFuel requests i fuel).watched

/-- Requests obey the law of frames. -/
theorem perform_frames {host : Host} (confined : host.Confined) (fuel : Nat) (q : Request) :
    Law.sound.Lockstep .native (perform host fuel q) (perform host fuel q) :=
  fun m s => ⟨rfl, (performWatched_lockstep confined .exhausted fuel q m s).2⟩

/-- **A machine is sound in every state that it can be in.** -/
theorem Reachable.sound {host : Host} (confined : host.Confined) {m : Machine}
    (h : Reachable host m) : m.Sound := by
  induction h with
  | initial config => exact ⟨Nat.zero_le _, Nat.zero_le _⟩
  | act fuel _ hx ih =>
    have step := hx.lockstep (e := .ofHost host fuel) rfl (perform_frames confined fuel)
    exact (step _ ih).2.sound ih

/-- **Frames are entered and left in good order.**  Every state that a machine can be in is
sound.  From a sound state, a call leaves the depth, the number of calls under way and the
active frames as they were, and nothing is amiss on the way. -/
theorem call_frames_kept {host : Host} (confined : host.Confined) :
    (∀ m, Reachable host m → m.Sound) ∧
      ∀ m, m.Sound → ∀ fuel function arguments binding,
        let call := perform host fuel (.call function arguments binding)
        ((call.after m).depth = m.depth ∧ (call.after m).reentry = m.reentry ∧
            ∀ j < m.depth, (call.after m).frame j = m.frame j) ∧
          ∀ alarm,
            performWatched alarm host fuel (.call function arguments binding) m = call m := by
  refine ⟨fun m h => h.sound confined, fun m s fuel function arguments binding => ?_⟩
  have kept := (perform_frames confined fuel (.call function arguments binding) m s).2
  refine ⟨⟨kept.depth, kept.reentry, kept.frames⟩, fun alarm => ?_⟩
  exact (performWatched_lockstep confined alarm fuel _ m s).1

/-- In a new machine a call is watched to be in order. -/
theorem new_machine_frames_kept :
    let m := Machine.initial .standard
    let call := perform .complaining 5 (.call (.number 1.0) [] none)
    (call.after m).depth = 0 ∧
      ∀ alarm, performWatched alarm .complaining 5 (.call (.number 1.0) [] none) m = call m := by
  have kept := call_frames_kept Host.complaining_modest.confined
  have new := kept.2 (.initial .standard) (kept.1 _ (.initial .standard)) 5 (.number 1.0) [] none
  exact ⟨new.1.1, new.2⟩

end StubMachine
