import StubMachine.Proofs.Growth
import StubMachine.Proofs.Routine

/-!
# What raising, listening and settling come to

Three things touch what is on its way to a handler: raising puts it there, listening
takes it away and may put it back, and settling takes it away for good.  Each is
described here by its outcomes, so that no proof beyond this module has to follow their
code.

**Raising an error only makes objects before it signals**, so the error is signalled in
a state that agrees with the one before on all that governs the course of a run.
**Listening ends as its function does, or as its handler does, or with the payload of a
signal**; an error that no handler takes is put back as it was, and so the state is the
one in which the function ended.
-/

namespace StubMachine

open StubMachine.Action

namespace Machine

/-- What a raising puts on its way, from the place where the machine is. -/
def catchable (m : Machine) (kind : CatchableKind) (payload : Value) : Catchable :=
  ⟨kind, payload, m.location.1, m.location.2⟩

/-- The state after a raising. -/
def signalled (m : Machine) (kind : CatchableKind) (payload : Value) : Machine :=
  { m with
    pending := some (m.catchable kind payload)
    raised := ⟨m.catchable kind payload, m.pending⟩ :: m.raised }

/-- The state after what was pending has been taken. -/
def quieted (m : Machine) : Machine := { m with pending := none }

namespace SameCourse
variable {m m₁ m₂ : Machine}

theorem refl (m : Machine) : m.SameCourse m := ⟨rfl, rfl, rfl, rfl, rfl, rfl, rfl, rfl⟩

theorem trans (h : m.SameCourse m₁) (h' : m₁.SameCourse m₂) : m.SameCourse m₂ where
  config := h'.config.trans h.config
  frames := h'.frames.trans h.frames
  depth := h'.depth.trans h.depth
  reentry := h'.reentry.trans h.reentry
  pending := h'.pending.trans h.pending
  raised := h'.raised.trans h.raised
  lastUnhandled := h'.lastUnhandled.trans h.lastUnhandled
  notifications := h'.notifications.trans h.notifications

end SameCourse

namespace Stored
variable {m m₁ m₂ : Machine}

theorem refl (m : Machine) : m.Stored m := .aside (.refl m) rfl rfl rfl

theorem trans (h : m.Stored m₁) (h' : m₁.Stored m₂) : m.Stored m₂ where
  toSameCourse := h.toSameCourse.trans h'.toSameCourse
  slots := h'.slots.trans h.slots
  functions f has := by
    rcases h'.functions f has with before | bare
    · exact h.functions f before
    · exact .inr bare
  stubs file id s has := by
    rcases h'.stubs file id s has with before | placed
    · exact h.stubs file id s before
    · exact .inr placed

end Stored

namespace Furnished
variable {m m₁ m₂ : Machine}

theorem refl (m : Machine) : m.Furnished m := ⟨.refl m, rfl, fun _ => rfl, rfl, rfl, rfl⟩

theorem trans (h : m.Furnished m₁) (h' : m₁.Furnished m₂) : m.Furnished m₂ where
  toSameCourse := h.toSameCourse.trans h'.toSameCourse
  slots := h'.slots.trans h.slots
  functions o := (h'.functions o).trans (h.functions o)
  stubs := h'.stubs.trans h.stubs
  files := h'.files.trans h.files
  natives := h'.natives.trans h.natives

end Furnished
end Machine

/-! ## Raising -/

/-- An action that always has a result and only makes objects, none of them a function. -/
def Action.Quiet {α : Type} (x : Action α) : Prop :=
  ∀ m, ∃ a m', x m = .ok a m' ∧ m.Furnished m' ∧ m.Grown (fun _ => False) m'

namespace Action.Quiet
variable {α β : Type}

theorem pure (a : α) : Quiet (Pure.pure a) := fun m => ⟨a, m, rfl, .refl m, .refl m⟩

theorem read (f : Machine → α) : Quiet (Action.read f) := fun m => ⟨f m, m, rfl, .refl m, .refl m⟩

theorem bind {x : Action α} {k : α → Action β} (hx : Quiet x) (hk : ∀ a, Quiet (k a)) :
    Quiet (x >>= k) := by
  intro m
  obtain ⟨a, m₁, run, same, grown⟩ := hx m
  obtain ⟨b, m₂, run', same', grown'⟩ := hk a m₁
  refine ⟨b, m₂, ?_, same.trans same', grown.trans grown'⟩
  rw [Action.bind_ok run]
  exact run'

theorem mapM {γ : Type} {f : γ → Action β} (hf : ∀ c, Quiet (f c)) :
    ∀ l : List γ, Quiet (l.mapM f)
  | [] => .pure []
  | c :: l => by
    rw [List.mapM_cons]
    exact .bind (hf c) fun b => .bind (mapM hf l) fun bs => .pure _

theorem newObject {o : Object} (h : o.function? = none) : Quiet (Action.newObject o) := fun m => by
  obtain ⟨m', made, grown, -⟩ := newObject_grows m o fun _ => False
  cases made
  exact ⟨_, _, rfl, .added h, grown⟩

theorem newList (values : Array Value) : Quiet (Action.newList values) :=
  .bind (.newObject rfl) fun _ => .pure _

theorem newCallStack : Quiet Action.newCallStack :=
  .bind (.read _) fun places => .bind (.mapM newPlace places) fun _ => .newList _
where
  newPlace (place : String × UInt32) : Quiet (Action.newPlace place) :=
    .bind (.newObject rfl) fun _ => .pure _

end Action.Quiet

/-- Make the payload of an error. -/
def Action.newError (detail : Value) : Action ObjectId := do
  let summary ← Action.read fun m => summaryOf m detail
  let stack ← newCallStack
  newObject (((Object.blank.setText "summary" (.string summary)).setText "detail"
    detail).setText "callstack" stack)

theorem Action.Quiet.newError (detail : Value) : Quiet (Action.newError detail) :=
  .bind (.read _) fun _ => .bind .newCallStack fun _ => .newObject rfl

/-- **Raising an error** signals it, after making its payload, and changes no object. -/
theorem raiseError_grows {α : Type} (detail : Value) (m : Machine) :
    ∃ o m', m.Furnished m' ∧ m.Grown (fun _ => False) m' ∧
      (raiseError detail : Action α) m = .error .unwinding (m'.signalled .error (.object o)) := by
  have split : (raiseError detail : Action α) =
      newError detail >>= fun o => signal .error (.object o) >>= fun _ => throw .unwinding := by
    simp only [raiseError, signalError, newError, bind_assoc]
  obtain ⟨o, m', run, same, grown⟩ := Action.Quiet.newError detail m
  refine ⟨o, m', same, grown, ?_⟩
  rw [split]
  rw [Action.bind_ok run]
  rfl

theorem raiseError_eq {α : Type} (detail : Value) (m : Machine) :
    ∃ o m', m.Furnished m' ∧
      (raiseError detail : Action α) m = .error .unwinding (m'.signalled .error (.object o)) := by
  obtain ⟨o, m', same, -, raised⟩ := @raiseError_grows α detail m
  exact ⟨o, m', same, raised⟩

/-- What becomes of the failure of a native function: it is raised, unless it is raised
already or final. -/
theorem raiseFailure_eq (failure : Failure) (m : Machine) :
    raiseFailure failure m = .error failure m ∨
      ∃ detail, raiseFailure failure = raiseError detail := by
  cases failure with
  | unwinding => exact .inl rfl
  | fatal cause => exact .inl rfl
  | exhausted => exact .inl rfl
  | unhandled error => exact .inr ⟨_, rfl⟩
  | plain fault => exact .inr ⟨_, rfl⟩

/-! ## Entering -/

theorem Action.after_finally {α : Type} (x : Action α) (f : Machine → Machine) (m : Machine) :
    (finally_ x f).after m = f (x.after m) := by
  rw [Action.after, Action.after, finally_]
  cases x m with
  | ok a m' => rfl
  | error failure m' => rfl

theorem underway_eq (x : Action Value) (m : Machine) :
    underway x m = finally_ x (fun m => { m with reentry := m.reentry - 1 })
      { m with reentry := m.reentry + 1 } := rfl

namespace Machine
variable {m : Machine} (f : FunctionFacet) (parameters : Array Value) (restart : Option Restart)

/-- There is room in the pool for one more frame. -/
theorem depth_lt_roomyFrames (pooled : m.depth ≤ m.frames.size) :
    m.depth < m.roomyFrames.size := by
  rw [roomyFrames]
  split
  · assumption
  · rw [Array.size_push]
    exact Nat.lt_succ_of_le pooled

/-- Making room in the pool changes no frame. -/
theorem roomyFrames_getD (m : Machine) (j : Nat) :
    m.roomyFrames.getD j Frame.idle = m.frame j := by
  rw [roomyFrames, frame]
  split
  · rfl
  · rw [Array.getD_eq_getD_getElem?, Array.getD_eq_getD_getElem?, Array.getElem?_push]
    split
    · rename_i last
      rw [last, Array.getElem?_eq_none (Nat.le_refl _)]
      rfl
    · rfl

/-- **Entering a function writes one frame**, at the depth where it is entered. -/
theorem frame_pushFrame_eq (pooled : m.depth ≤ m.frames.size) (j : Nat) :
    (m.pushFrame f parameters restart).frame j =
      if j = m.depth then m.startFrame f restart else m.frame j := by
  show (m.roomyFrames.setIfInBounds m.depth (m.startFrame f restart)).getD j Frame.idle = _
  rw [Array.getD_eq_getD_getElem?]
  by_cases own : j = m.depth
  · rw [if_pos own, own, Array.getElem?_setIfInBounds_self_of_lt (depth_lt_roomyFrames pooled)]
    rfl
  · rw [if_neg own, Array.getElem?_setIfInBounds_ne (Ne.symm own), ← Array.getD_eq_getD_getElem?,
      roomyFrames_getD]

theorem size_pushFrame (pooled : m.depth ≤ m.frames.size) :
    m.depth + 1 ≤ (m.pushFrame f parameters restart).frames.size := by
  show m.depth < (m.roomyFrames.setIfInBounds m.depth _).size
  rw [Array.size_setIfInBounds]
  exact depth_lt_roomyFrames pooled

end Machine

/-- Nothing follows a raising. -/
theorem raiseError_bind {α β : Type} (detail : Value) (k : α → Action β) :
    (raiseError detail >>= k) = raiseError detail := by
  have stop : ((throw .unwinding : Action α) >>= k) = throw .unwinding := rfl
  simp only [raiseError, bind_assoc, stop]

/-- **Running something in a frame of its own** raises an error if too many frames are active,
and else enters the frame and leaves it. -/
theorem withFrame_eq (f : FunctionFacet) (parameters : Array Value) (restart : Option Restart)
    (body : Nat → Action Value) (m : Machine) :
    withFrame f parameters restart body m =
      if m.config.maxCallDepth ≤ m.depth then (raise .depthExceeded : Action Value) m
      else finally_ (body m.depth) Machine.popFrame (m.pushFrame f parameters restart) := by
  unfold withFrame
  simp only [raise, raiseError_bind]
  show (if decide (m.config.maxCallDepth ≤ m.depth) = true then _ else _ : Action Value) m = _
  by_cases full : m.config.maxCallDepth ≤ m.depth
  · simp only [full, decide_true, if_true]
  · simp only [full, decide_false]
    rfl

/-- The state after something has run in a frame of its own. -/
theorem after_withFrame {f : FunctionFacet} {parameters : Array Value} {restart : Option Restart}
    {body : Nat → Action Value} {m : Machine} (room : ¬ m.config.maxCallDepth ≤ m.depth) :
    (withFrame f parameters restart body).after m =
      ((body m.depth).after (m.pushFrame f parameters restart)).popFrame := by
  rw [← Action.after_finally (body m.depth) Machine.popFrame, Action.after, Action.after,
    withFrame_eq, if_neg room]

/-! ## Listening -/

section Listening
variable (e : Engine) (function response : Value) (m : Machine)

/-- Dealing with what was raised calls the handler, once, or does without. -/
theorem respond_eq (c : Catchable) :
    respond e response c m =
      match handler? m response c.kind with
      | some handler => e.call handler [("message", c.payload)] m
      | none =>
        match c.kind with
        | .send => .ok c.payload m
        | .error => .error .unwinding { m with pending := some c } := by
  simp only [respond, Action.bind_eq, Action.read]
  cases handler? m response c.kind with
  | some handler => rfl
  | none =>
    dsimp only
    cases c.kind with
    | send => rfl
    | error => rfl

/-- Putting back what was taken restores the state. -/
theorem Machine.quieted_rearmed {m : Machine} {c : Catchable} (h : m.pending = some c) :
    { m.quieted with pending := some c } = m := by
  cases m
  cases h
  rfl

variable {e function response m}

/-- A result of the function is the result. -/
theorem listen_ok {v : Value} {m' : Machine} (run : e.call function [] m = .ok v m') :
    listen e function response m = .ok v m' := by
  rw [listen, run]

/-- A failure other than a raising is not intercepted. -/
theorem listen_failure {failure : Failure} {m' : Machine}
    (run : e.call function [] m = .error failure m') (ne : failure ≠ .unwinding) :
    listen e function response m = .error failure m' := by
  rw [listen, run]
  cases failure with
  | unwinding => exact absurd rfl ne
  | _ => rfl

/-- What the function raised is taken and dealt with. -/
theorem listen_unwinding {m' : Machine} {c : Catchable}
    (run : e.call function [] m = .error .unwinding m') (onWay : m'.pending = some c) :
    listen e function response m = respond e response c m'.quieted := by
  rw [listen, run]
  simp only [onWay]
  rfl

variable (e function response m)

/-- **The outcomes of listening**: that of the function, that of the handler, or the payload
of a signal for which there is no handler. -/
theorem listen_cases :
    listen e function response m = e.call function [] m ∨
      ∃ m' c, e.call function [] m = .error .unwinding m' ∧ m'.pending = some c ∧
        ((∃ handler,
            listen e function response m =
              e.call handler [("message", c.payload)] m'.quieted) ∨
          listen e function response m = .ok c.payload m'.quieted) := by
  cases run : e.call function [] m with
  | ok v m' => exact .inl (listen_ok run)
  | error failure m' =>
    cases failure with
    | unwinding =>
      cases onWay : m'.pending with
      | none => exact .inl (by rw [listen, run]; simp only [onWay])
      | some c =>
        rw [listen_unwinding run onWay, respond_eq]
        cases handler? m'.quieted response c.kind with
        | some handler => exact .inr ⟨m', c, rfl, onWay, .inl ⟨handler, rfl⟩⟩
        | none =>
          dsimp only
          cases c.kind with
          | send => exact .inr ⟨m', c, rfl, onWay, .inr rfl⟩
          | error => exact .inl (by rw [Machine.quieted_rearmed onWay])
    | _ => exact .inl (listen_failure run nofun)

end Listening

/-! ## Settling -/

namespace Machine

/-- What the embedder is told about an error that escaped: where it was raised, and the
summary that its payload carries. -/
def unhandled (m : Machine) (c : Catchable) : UnhandledError :=
  ⟨c.file, c.line,
    match c.payload with
    | .object _ => summaryOf m c.payload
    | _ => "Unknown error"⟩

/-- The state after an error that escaped has been reported. -/
def reported (m : Machine) (c : Catchable) : Machine :=
  { m with
    pending := none
    lastUnhandled := some c.payload
    events := m.events.push (.unhandled (m.unhandled c)) }

end Machine

/-- **The outcomes of settling**: it changes nothing, or no call is under way any more and
what was pending is gone, an error after it has been reported. -/
theorem settle_cases (x : Action Value) (m : Machine) :
    settle x m = x m ∨
      ∃ failure m', x m = .error failure m' ∧ m'.reentry = 0 ∧
        ((∃ c, failure = .unwinding ∧ m'.pending = some c ∧ c.kind = .send ∧
            settle x m = .ok c.payload m'.quieted) ∨
          (∃ c, failure = .unwinding ∧ m'.pending = some c ∧ c.kind = .error ∧
            settle x m = .error (.unhandled (m'.unhandled c)) (m'.reported c)) ∨
          (failure ≠ .unwinding ∧ settle x m = .error failure m'.quieted)) := by
  cases run : x m with
  | ok v m' => exact .inl (by rw [settle, run])
  | error failure m' =>
    -- inside another call the failure is handed on as it is
    by_cases busy : 0 < m'.reentry
    · exact .inl (by rw [settle, run]; simp only [busy, if_true])
    have idle : m'.reentry = 0 := Nat.eq_zero_of_not_pos busy
    cases failure with
    | unwinding =>
      cases onWay : m'.pending with
      | none => exact .inl (by rw [settle, run]; simp only [busy, if_false, onWay])
      | some c =>
        cases kind : c.kind with
        | send =>
          refine .inr ⟨_, m', rfl, idle, .inl ⟨c, rfl, onWay, kind, ?_⟩⟩
          rw [settle, run]
          simp only [busy, if_false, onWay, kind]
          rfl
        | error =>
          refine .inr ⟨_, m', rfl, idle, .inr (.inl ⟨c, rfl, onWay, kind, ?_⟩)⟩
          rw [settle, run]
          simp only [busy, if_false, onWay, kind]
          rfl
    | exhausted => exact .inl (by rw [settle, run]; simp only [busy, if_false])
    | _ =>
      refine .inr ⟨_, m', rfl, idle, .inr (.inr ⟨nofun, ?_⟩)⟩
      rw [settle, run]
      simp only [busy, if_false]
      rfl

/-! ## A call that raises -/

/-- Calling a number raises an error. -/
theorem call_number_raises (host : Host) (fuel : Nat) (n : Float) (m : Machine) :
    ∃ m' c, (Engine.ofHost host (fuel + 1)).call (.number n) [] m = .error .unwinding m' ∧
      m'.pending = some c ∧ c.kind = .error := by
  obtain ⟨o, m₁, -, run⟩ := raiseError_eq (α := Value)
    (.string (Fault.notCallable (Value.number n).kind).message) { m with reentry := m.reentry + 1 }
  let left (m : Machine) : Machine := { m with reentry := m.reentry - 1 }
  refine ⟨left (m₁.signalled .error (.object o)), _, ?_, rfl, rfl⟩
  show finally_ (raiseError _) left { m with reentry := m.reentry + 1 } = _
  rw [finally_, run]

end StubMachine
