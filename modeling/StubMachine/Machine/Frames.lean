import StubMachine.Machine.Action

/-!
# Entering and leaving frames

A function is entered by overwriting the first frame of the pool that is not active; a
pool without such a frame grows by one.  The activation gets a new array of
referrables, the parameters first and Empty after them, and this array stays when the
frame is left, for closures may still refer to it.

**A frame is left in every case**, however what ran in it ended.
-/

namespace StubMachine

open StubMachine.Action

/-- The referrables of a new activation. -/
def freshReferrables (s : Stub) (parameters : Array Value) : Array Value :=
  parameters ++ Array.replicate (s.referrableCount - parameters.size) Value.empty

namespace Machine

/-- The pool, with at least one frame that is not active. -/
def roomyFrames (m : Machine) : Array Frame :=
  if m.depth < m.frames.size then m.frames else m.frames.push Frame.idle

/-- The frame in which a function starts. -/
def startFrame (m : Machine) (f : FunctionFacet) (restart : Option Restart) : Frame :=
  ⟨0, f.stub, [], ⟨f.stub.file, f.stub.id, ⟨m.slots.size⟩⟩, f.origin, f.captures, restart⟩

/-- Enter a function. -/
def pushFrame (f : FunctionFacet) (parameters : Array Value) (restart : Option Restart)
    (m : Machine) : Machine :=
  let frame := m.startFrame f restart
  { m with
    frames := m.roomyFrames.setIfInBounds m.depth frame
    slots := m.slots.push (freshReferrables f.stub parameters)
    depth := m.depth + 1 }

/-- What a frame keeps when it is left: where it was and what it captured. -/
def retire (f : Frame) : Frame :=
  { f with
    stub := Frame.idle.stub
    stack := []
    own := Frame.idle.own
    outer := []
    restart := none }

/-- Leave the innermost frame. -/
def popFrame (m : Machine) : Machine :=
  { m with
    frames := m.frames.modify (m.depth - 1) retire
    depth := m.depth - 1 }

end Machine

/-- **Run something in a frame of its own**, unless too many are active.  What runs is
told the place of its frame. -/
def withFrame (f : FunctionFacet) (parameters : Array Value) (restart : Option Restart)
    (body : Nat → Action Value) : Action Value := do
  if ← read fun m => decide (m.config.maxCallDepth ≤ m.depth) then raise .depthExceeded
  let place ← read Machine.depth
  update (Machine.pushFrame f parameters restart)
  finally_ (body place) Machine.popFrame

end StubMachine
