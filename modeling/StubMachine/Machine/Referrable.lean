import StubMachine.Machine.Action

/-!
# Referrables and closures

The variables that an instruction can name are numbered: first the activation's own
parameters and locals, then the captured ones.  A captured variable is a slot of the
array that some other activation owns, so **whoever captures it shares it**.

A closure is made in a frame: each variable that its stub captures is looked for in the
scope of that frame, at the nearest activation of the stub that owns it.
-/

namespace StubMachine

open StubMachine.Action

/-! ## Reading and writing -/

/-- The slot that a number means in a frame. -/
def Frame.site? (f : Frame) (slot : Nat) : Option Capture :=
  if slot < f.stub.referrableCount then some ⟨f.own.slots, slot⟩
  else f.captures[slot - f.stub.referrableCount]?

/-- The value in a slot. -/
def Machine.slot? (m : Machine) (c : Capture) : Option Value := (m.referrables c.slots)[c.index]?

/-- Put a value into a slot. -/
def Machine.setSlot (m : Machine) (c : Capture) (v : Value) : Machine :=
  { m with slots := m.slots.modify c.slots.serial fun a => a.setIfInBounds c.index v }

/-- The variable with a number. -/
def readReferrable (i slot : Nat) : Action Value := do
  match ← read fun m => (m.frame i).site? slot |>.bind m.slot? with
  | some v => return v
  | none => raise (.referrableRange slot)

/-- Assign to the variable with a number. -/
def writeReferrable (i slot : Nat) (v : Value) : Action Unit := do
  match ← read fun m => ((m.frame i).site? slot).filter fun c => (m.slot? c).isSome with
  | some c => update fun m => m.setSlot c v
  | none => raise (.referrableRange slot)

/-! ## Closures -/

/-- The slot that a capture site means in a scope. -/
def Machine.resolve (m : Machine) (scope : Scope) (file stub : UInt32) (site : CaptureSite) :
    Except FatalCause Capture :=
  match scope.find? file site.stub with
  | none => .error (.captureOffScope stub site.slot site.stub)
  | some owner =>
    let count := (m.referrables owner.slots).size
    if site.slot.toNat < count then .ok ⟨owner.slots, site.slot.toNat⟩
    else .error (.captureRange stub site.slot site.stub count)

/-- A stub of the file that is running in a frame. -/
def stubBeside? (i : Nat) (id : UInt32) : Action (Option Stub) :=
  read fun m => m.stubs[((m.frame i).stub.file, id)]?

/-- **A closure** of a stub of the running file, over the scope of a frame. -/
def makeClosure (i : Nat) (id : UInt32) (types : Option (Array TypeId)) : Action Value := do
  match ← stubBeside? i id with
  | none => raise (.unknownStub (Binary64.ofInteger id.toNat))
  | some stub =>
    let frame ← readFrame i fun f => f
    match ← read fun m => stub.captures.mapM (m.resolve frame.scope frame.stub.file id) with
    | .error cause => throw (.fatal cause)
    | .ok captures => newFunction ⟨stub, captures, types, frame.scope, none⟩

end StubMachine
