import StubMachine.Proofs.Demand

/-!
# Frames that are left leave no trace

A frame that is left stays in the pool, with its program counter and its captures, and the
next function that is entered at its level gets the same frame.  This module compares two
states that agree on everything but on the pool: on how many frames it was made with and how
much room was set aside for values, and on the number and the contents of the frames that are
not active (`Machine.AgreeActive`).  **Whatever an embedder does with them, it gets the same
answers, and the states agree again in that way** (`pooled_frames_traceless`).

Which frames are active changes during a run, so there is a likeness for each level of the
call stack (`Likeness.pooled`).  At a level the states agree on the frames below it.  Entering
a function writes one more frame, in full, on which they then agree as well
(`AgreeBelow.pushed`); leaving it gives that up (`AgreeBelow.popped`).
-/

namespace StubMachine

open StubMachine.Action

/-! ## States that agree on what is active -/

namespace Machine

/-- **States that agree on the frames below a level**, which is the level at which they are, and on
all that is not a frame or about the pool. -/
structure AgreeBelow (level : Nat) (m n : Machine) : Prop where
  rest : n = { m with config := n.config, frames := n.frames }
  config : n.config =
    { m.config with framePool := n.config.framePool, valueStackReserve := n.config.valueStackReserve }
  depth : m.depth = level
  left : level ≤ m.frames.size
  right : level ≤ n.frames.size
  frames : ∀ i < level, n.frame i = m.frame i

/-- **States that agree on everything but the pool**: all active frames are in the pool, and they and
all the rest are the same. -/
def AgreeActive (m n : Machine) : Prop := m.AgreeBelow m.depth n

namespace AgreeBelow
variable {level : Nat} {m n : Machine} (h : m.AgreeBelow level n)
include h

/-- What depends neither on frames nor on settings is the same. -/
theorem same {α : Type} (g : Machine → α)
    (blind : ∀ (m : Machine) config frames, g { m with config, frames } = g m := by intros; rfl) :
    g n = g m :=
  (congrArg g h.rest).trans (blind m _ _)

/-- A change that leaves frames and settings alone, and does not depend on them. -/
theorem change (f : Machine → Machine)
    (keeps : ∀ m, (f m).config = m.config ∧ (f m).frames = m.frames ∧ (f m).depth = m.depth := by
      intros; exact ⟨rfl, rfl, rfl⟩)
    (blind : ∀ (m : Machine) config frames, f { m with config, frames } = { f m with config, frames } := by
      intros; rfl) :
    (f m).AgreeBelow level (f n) := by
  obtain ⟨config, frames, depth⟩ := keeps m
  obtain ⟨config', frames', -⟩ := keeps n
  refine ⟨?_, ?_, depth.trans h.depth, ?_, ?_, fun i hi => ?_⟩
  · rw [config', frames']
    exact (congrArg f h.rest).trans (blind m _ _)
  · rw [config', config]
    exact h.config
  · rw [frames]
    exact h.left
  · rw [frames']
    exact h.right
  · rw [frame, frame, frames, frames']
    exact h.frames i hi

theorem depth_eq : n.depth = level := (h.same Machine.depth).trans h.depth

theorem limit : n.config.maxCallDepth = m.config.maxCallDepth :=
  (congrArg Config.maxCallDepth h.config).trans rfl

/-- The active frames are the same. -/
theorem active : n.frames.toList.take n.depth = m.frames.toList.take m.depth := by
  have left := h.left
  have right := h.right
  rw [h.depth_eq, h.depth]
  refine List.ext_getElem ?_ fun i hi hi' => ?_
  · simp only [List.length_take, Array.length_toList]
    omega
  · simp only [List.length_take, Array.length_toList] at hi hi'
    have frames := h.frames i (by omega)
    rw [frame, frame, Array.getD_eq_getD_getElem?, Array.getD_eq_getD_getElem?,
      Array.getElem?_eq_getElem (by omega), Array.getElem?_eq_getElem (by omega)] at frames
    simpa using frames

theorem callStack : n.callStack = m.callStack := by
  rw [Machine.callStack, h.active, Machine.callStack]
  simp only [Machine.fileName, h.same Machine.files]

theorem location : n.location = m.location := by
  rw [Machine.location, Machine.location, h.depth_eq, h.depth]
  cases level with
  | zero => rfl
  | succ d =>
    dsimp only
    rw [h.frames d (Nat.lt_succ_self d), fileName, fileName, h.same Machine.files]

/-- Changing the same frame of both. -/
theorem reframed (i : Nat) (f : Frame → Frame) :
    ({ m with frames := m.frames.modify i f } : Machine).AgreeBelow level
      { n with frames := n.frames.modify i f } where
  rest := congrArg (fun k => { k with frames := n.frames.modify i f }) h.rest
  config := h.config
  depth := h.depth
  left := by
    rw [Array.size_modify]
    exact h.left
  right := by
    rw [Array.size_modify]
    exact h.right
  frames j hj := by
    have left := h.left
    have right := h.right
    rw [frame_modify, frame_modify, h.frames j hj]
    by_cases here : i = j
    · rw [if_pos ⟨here, by omega⟩, if_pos ⟨here, by omega⟩]
    · rw [if_neg fun own => here own.1, if_neg fun own => here own.1]

/-- **A function that is entered starts in the same frame**, whatever was there before. -/
theorem pushed (f : FunctionFacet) (parameters : Array Value) (restart : Option Restart) :
    (m.pushFrame f parameters restart).AgreeBelow (level + 1) (n.pushFrame f parameters restart) := by
  have slots := h.same Machine.slots
  have left : m.depth ≤ m.frames.size := h.depth ▸ h.left
  have right : n.depth ≤ n.frames.size := h.depth_eq ▸ h.right
  refine ⟨?_, h.config, congrArg (· + 1) h.depth, ?_, ?_, fun i hi => ?_⟩
  · have entered (frames : Array Frame) :
        ({ n with
          frames, slots := n.slots.push (freshReferrables f.stub parameters)
          depth := n.depth + 1 } : Machine) =
        { m with
          config := n.config, frames, slots := m.slots.push (freshReferrables f.stub parameters)
          depth := m.depth + 1 } := by
      rw [slots, h.depth_eq, h.depth]
      exact congrArg (fun k => { k with
        frames, slots := m.slots.push (freshReferrables f.stub parameters)
        depth := level + 1 }) h.rest
    exact entered _
  · rw [← h.depth]
    exact size_pushFrame f parameters restart left
  · rw [← h.depth_eq]
    exact size_pushFrame f parameters restart right
  · -- a frame is made anew when it is pushed, whatever the pool has in its place
    rw [frame_pushFrame_eq f parameters restart right,
      frame_pushFrame_eq f parameters restart left, h.depth_eq, h.depth,
      startFrame, startFrame, slots]
    split
    · rfl
    · exact h.frames i (by omega)

omit h in
/-- Leaving a function leaves the frames below as they are. -/
theorem popped (h : m.AgreeBelow (level + 1) n) : m.popFrame.AgreeBelow level n.popFrame := by
  obtain ⟨rest, config, depth, left, right, frames⟩ :=
    h.reframed level Machine.retire
  have place : m.depth - 1 = level := by rw [h.depth]; rfl
  have place' : n.depth - 1 = level := by rw [h.depth_eq]; rfl
  refine ⟨?_, h.config, place, ?_, ?_, fun i hi => ?_⟩
  · rw [popFrame, popFrame, place, place']
    exact congrArg (fun k => { k with depth := level }) rest
  · show level ≤ (m.frames.modify (m.depth - 1) retire).size
    rw [place]
    exact Nat.le_of_succ_le left
  · show level ≤ (n.frames.modify (n.depth - 1) retire).size
    rw [place']
    exact Nat.le_of_succ_le right
  · show (n.frames.modify (n.depth - 1) retire).getD i _ = (m.frames.modify (m.depth - 1) retire).getD i _
    rw [place, place']
    exact frames i (Nat.lt_succ_of_lt hi)

end AgreeBelow

end Machine

/-! ## The likenesses -/

/-- **States are alike at a level** that agree on the frames below it. -/
def Likeness.pooled (level : Nat) : Likeness where
  Rel := Machine.AgreeBelow level
  Binds _ _ _ _ := False
  Asks _ _ q q' := q' = q
  contents h := h.same Machine.contents
  location h := h.location
  callStack h := h.callStack
  size h := h.same fun m => m.objects.size
  objects h o := by rw [h.same fun m => m.object o]; exact .refl _
  refilled h c := h.change (Machine.refill · c)
  updated {m n} h o {f f'} _ like := by
    have same : f' = f := funext fun a => (like a a (.refl a)).eq_of_never
    rw [same]
    exact h.change fun m => { m with objects := m.objects.modify (o.serial - 1) f }
  pushed h object := h.change fun m => { m with objects := m.objects.push object }
  reframed h i f := h.reframed i f
  call _ _ _ := rfl
  accessor {m n o members x y function arguments} h left right _ := by
    rw [h.same fun m => m.object o] at right
    cases left.symm.trans right
    rfl
  loop _ _ := rfl

/-- **Entering and leaving a frame lead from one level to the next.** -/
theorem Likeness.pooled_layered : Layered pooled where
  converses level := {
    akin := by
      rintro m n q q' - rfl
      exact .refl m q'
    counted := id
    entering := fun _ _ _ _ _ => rfl }
  depth h := h.same Machine.depth
  sees {level m n} h m' n' h' := by
    rw [h.depth]
    exact h'.frames level (Nat.lt_succ_self level)
  pushed h := h.pushed
  popped h := h.popped

theorem Likeness.pooled_concerted : Concerted pooled .idle .idle where
  request _ h _ := .inr ⟨rfl, rfl, fun _ => by rw [h.limit, h.depth_eq, h.depth]⟩
  instruction _ _ _ _ _ := ⟨rfl, rfl⟩
  startOver _ _ _ _ := ⟨rfl, rfl⟩

/-- **Functions of the embedder that do not look at the pool**: they do the same in states that
agree on the active frames. -/
def Host.Oblivious (host : Host) : Prop := ∀ level, host.Respects (Likeness.pooled level)

theorem Host.Scripted.oblivious {host : Host} (scripted : host.Scripted) : host.Oblivious :=
  fun level => scripted.respects (Likeness.pooled level)

/-- **Pooled frames leave no trace.**  From states that agree on everything but the pool, a session
gives the same answers and ends in states that again agree on everything but the pool.  So what is
pending, and what the embedder has been asked and told, is the same, too. -/
theorem pooled_frames_traceless {host : Host} (oblivious : host.Oblivious) {m n : Machine}
    (agree : m.AgreeActive n) (fuel : Nat) (session : Session) :
    let ended := session.run host (.ofHost host fuel) m
    let ended' := session.run host (.ofHost host fuel) n
    ended'.1 = ended.1 ∧ ended.2.AgreeActive ended'.2 ∧
      ended'.2.pending = ended.2.pending ∧ ended'.2.events = ended.2.events := by
  intro ended ended'
  let L := Likeness.pooled m.depth
  have engines : L.Engines (.ofHost host fuel) (.ofHost host fuel) := by
    have planned := Likeness.pooled_layered.engines Likeness.pooled_concerted oblivious fuel m.depth
    rwa [Plan.engine_truthful (Plan.idle_truthful host)] at planned
  obtain ⟨answers, rel⟩ := L.session engines host session agree
  refine ⟨answers, ?_, rel.same Machine.pending, rel.same Machine.events⟩
  show ended.2.AgreeBelow ended.2.depth ended'.2
  rw [Machine.AgreeBelow.depth rel]
  exact rel

/-- A frame in which a loop was under way. -/
def Frame.stale : Frame :=
  { Frame.idle with pc := 3, stack := [.string "left"], restart := some .forever }

/-- It makes no difference to a call that a loop was under way in the frame that it gets. -/
theorem stale_frame_traceless :
    let m : Machine := Machine.offering (.ofStub (Stub.blank 1 1))
    let n : Machine := { m with
      config := { m.config with framePool := 1 }
      frames := #[Frame.stale] }
    let session := Session.deals (.enter (.callFunction (.object ⟨1⟩) [])) fun _ => .ends
    (session.run .complaining (.ofHost .complaining 3) n).1 =
      (session.run .complaining (.ofHost .complaining 3) m).1 := by
  intro m n session
  have agree : m.AgreeActive n := by
    show m.AgreeBelow 0 n
    exact ⟨rfl, rfl, rfl, Nat.zero_le _, Nat.zero_le _, fun i hi => absurd hi (Nat.not_lt_zero i)⟩
  exact (pooled_frames_traceless (fun _ => Host.complaining_respects _) agree 3 session).1

end StubMachine
