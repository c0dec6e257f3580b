import StubMachine.Proofs.FrameDiscipline

/-!
# Arrays of variables and who holds them

Each activation has an array of variables of its own, which outlives it.  Its variables
are held by number: by the frame of the activation, and by every closure that captured
them, in whichever frame that closure runs.

The machine does not remember for what an array was made.  A `Ledger` does: for each
array, the stub of the activation and the length it had from the start.  **A machine is
linked** to a ledger (`Machine.Linked`) if the arrays still have these lengths, and
everything that holds variables holds such as there are: a frame can name none but
variables within their arrays, and what a closure captured is, site by site, a variable
of the nearest activation of the site's stub in the scope in which the closure was made.

This module shows what keeps a machine linked: every change of the store, of the frames
and of single variables, making a closure, and entering and leaving a frame.  A ledger
only grows, and only by entering.
-/

namespace StubMachine

open StubMachine.Action

/-! ## The ledger -/

/-- What is on record about an array of variables: the stub of the activation that it was made
for, and its length. -/
structure Deed where
  file : UInt32
  stub : UInt32
  length : Nat

/-- The records of all arrays of variables, by number. -/
abbrev Ledger := List Deed

namespace Ledger
variable {L L' : Ledger}

/-- The array of an activation is on record as one made for its stub. -/
def Registers (L : Ledger) (a : Activation) : Prop :=
  ∃ length, L[a.slots.serial]? = some ⟨a.file, a.stub, length⟩

/-- A variable lies within its array. -/
def Covers (L : Ledger) (c : Capture) : Prop :=
  ∃ deed, L[c.slots.serial]? = some deed ∧ c.index < deed.length

theorem lookup_mono (le : L <+: L') {n : Nat} {deed : Deed} (h : L[n]? = some deed) :
    L'[n]? = some deed := by
  obtain ⟨more, rfl⟩ := le
  obtain ⟨bound, -⟩ := List.getElem?_eq_some_iff.mp h
  rw [List.getElem?_append_left bound, h]

theorem Registers.mono (le : L <+: L') {a : Activation} (h : L.Registers a) : L'.Registers a := by
  obtain ⟨length, on_record⟩ := h
  exact ⟨length, lookup_mono le on_record⟩

theorem Covers.mono (le : L <+: L') {c : Capture} (h : L.Covers c) : L'.Covers c := by
  obtain ⟨deed, on_record, within_⟩ := h
  exact ⟨deed, lookup_mono le on_record, within_⟩

end Ledger

/-! ## Holders -/

/-- **A closure that holds what its stub asks for**: each of its captures is the variable that the
site means at the nearest activation of the site's stub, in the function's own file and in the
scope in which the function was made. -/
structure FunctionFacet.Closed (L : Ledger) (f : FunctionFacet) : Prop where
  origin : ∀ a ∈ f.origin, L.Registers a
  count : f.captures.size = f.stub.captures.size
  captures (k : Nat) (site : CaptureSite) : f.stub.captures[k]? = some site →
    ∃ owner, f.origin.find? f.stub.file site.stub = some owner ∧
      f.captures[k]? = some ⟨owner.slots, site.slot.toNat⟩ ∧
      L.Covers ⟨owner.slots, site.slot.toNat⟩

/-- A function that captures nothing, or such a closure. -/
def FunctionFacet.Rooted (L : Ledger) (f : FunctionFacet) : Prop := f.Bare ∨ f.Closed L

/-- **A frame that holds variables**: all that it can name lie within their arrays, and its scope
consists of activations on record. -/
structure Frame.Rooted (L : Ledger) (fr : Frame) : Prop where
  scope : ∀ a ∈ fr.scope, L.Registers a
  sites (slot : Nat) (c : Capture) : fr.site? slot = some c → L.Covers c

/-- **A machine linked to a ledger.** -/
structure Machine.Linked (L : Ledger) (m : Machine) : Prop where
  numbered : L.length = m.slots.size
  lengths (n : Nat) (deed : Deed) : L[n]? = some deed → (m.referrables ⟨n⟩).size = deed.length
  functions (f : FunctionFacet) : m.HasFunction f → f.Rooted L
  frames (j : Nat) : (m.frame j).Rooted L
  stubs (file id : UInt32) (s : Stub) : m.HasStub file id s → s.file = file ∧ s.id = id

namespace FunctionFacet
variable {L L' : Ledger} {f : FunctionFacet}

theorem Closed.mono (le : L <+: L') (h : f.Closed L) : f.Closed L' where
  origin a member := (h.origin a member).mono le
  count := h.count
  captures k site at_ := by
    obtain ⟨owner, nearest, captured, covered⟩ := h.captures k site at_
    exact ⟨owner, nearest, captured, covered.mono le⟩

theorem Rooted.mono (le : L <+: L') (h : f.Rooted L) : f.Rooted L' := h.imp id (.mono le)

theorem Rooted.origin (h : f.Rooted L) : ∀ a ∈ f.origin, L.Registers a := by
  rcases h with bare | closed
  · rw [bare.origin]
    exact fun a member => absurd member List.not_mem_nil
  · exact closed.origin

/-- What a function captured lies within its array. -/
theorem Rooted.covers (h : f.Rooted L) {k : Nat} {c : Capture} (captured : f.captures[k]? = some c) :
    L.Covers c := by
  rcases h with bare | closed
  · rw [bare.captures] at captured
    cases captured
  · obtain ⟨bound, -⟩ := Array.getElem?_eq_some_iff.mp captured
    rw [closed.count] at bound
    obtain ⟨owner, -, captured', covered⟩ :=
      closed.captures k _ (Array.getElem?_eq_getElem bound)
    rw [Option.some.inj (captured.symm.trans captured')]
    exact covered

end FunctionFacet

namespace Frame
variable {L L' : Ledger} {fr fr' : Frame}

theorem Rooted.mono (le : L <+: L') (h : fr.Rooted L) : fr.Rooted L' where
  scope a member := (h.scope a member).mono le
  sites slot c named := (h.sites slot c named).mono le

/-- The program counter, the value stack and the restart condition play no part. -/
theorem Progressed.site_eq (h : fr.Progressed fr') : fr'.site? = fr.site? := by
  rw [Progressed] at h
  rw [h]
  rfl

theorem Rooted.progressed (h : fr.Rooted L) (change : fr.Progressed fr') : fr'.Rooted L where
  scope := by
    rw [Progressed] at change
    rw [change]
    exact h.scope
  sites := by
    rw [change.site_eq]
    exact h.sites

/-- A frame that is left keeps what it captured, and nothing else. -/
theorem retire_site (fr : Frame) (slot : Nat) :
    (Machine.retire fr).site? slot = fr.site? (slot + fr.stub.referrableCount) := by
  have none_own : (Machine.retire fr).stub.referrableCount = 0 := rfl
  rw [site?, site?, none_own, if_neg (Nat.not_lt_zero _), if_neg (by omega)]
  rw [Nat.sub_zero, Nat.add_sub_cancel]
  rfl

/-- A frame is left for good: its scope is that of a frame that was never entered. -/
theorem Rooted.retire (h : fr.Rooted L) (base : L.Registers Frame.idle.own) :
    (Machine.retire fr).Rooted L where
  scope a member := by
    rw [List.mem_singleton.mp member]
    exact base
  sites slot c named := by
    rw [retire_site] at named
    exact h.sites _ c named

/-- A frame that was never entered holds nothing. -/
theorem Rooted.idle (base : L.Registers Frame.idle.own) : Frame.idle.Rooted L where
  scope a member := by
    rw [List.mem_singleton.mp member]
    exact base
  sites slot c named := by
    cases named

end Frame

/-! ## What keeps a machine linked -/

namespace Machine
variable {L : Ledger} {m m' : Machine}

/-- The record of the array that belongs to no activation. -/
def baseDeed : Deed := ⟨Frame.idle.own.file, Frame.idle.own.stub, 0⟩

/-- A new machine has no functions. -/
theorem not_hasFunction_initial (config : Config) (f : FunctionFacet) :
    ¬ (Machine.initial config).HasFunction f := by
  rintro ⟨o, function⟩
  have blank : (Machine.initial config).object o = Object.blank := rfl
  rw [blank] at function
  cases function

/-- A new machine has no code. -/
theorem not_hasStub_initial (config : Config) (file id : UInt32) (s : Stub) :
    ¬ (Machine.initial config).HasStub file id s := by
  intro has
  have none_ : (Machine.initial config).stubs[(file, id)]? = none := Std.HashMap.getElem?_empty
  rw [HasStub, none_] at has
  cases has

/-- **A new machine is linked.** -/
theorem Linked.initial (config : Config) : (Machine.initial config).Linked [baseDeed] where
  numbered := rfl
  lengths n deed on_record := by
    cases n with
    | zero =>
      cases on_record
      rfl
    | succ n => cases on_record
  functions f has := absurd has (not_hasFunction_initial config f)
  frames j := by
    have idle : (Machine.initial config).frame j = Frame.idle := by
      show (Array.replicate config.framePool Frame.idle).getD j Frame.idle = Frame.idle
      rw [Array.getD_eq_getD_getElem?, Array.getElem?_replicate]
      split
      · rfl
      · rfl
    rw [idle]
    exact .idle ⟨0, rfl⟩
  stubs file id s has := absurd has (not_hasStub_initial config file id s)

/-- What is not held by anything plays no part. -/
theorem Linked.congr (h : m.Linked L) (slots : m'.slots = m.slots) (objects : m'.objects = m.objects)
    (frames : m'.frames = m.frames) (stubs : m'.stubs = m.stubs) : m'.Linked L where
  numbered := by rw [slots, h.numbered]
  lengths n deed on_record := by
    rw [referrables, slots]
    exact h.lengths n deed on_record
  functions f has := by
    refine h.functions f ?_
    obtain ⟨o, function⟩ := has
    rw [object, objects] at function
    exact ⟨o, function⟩
  frames j := by
    rw [frame, frames]
    exact h.frames j
  stubs file id s has := by
    refine h.stubs file id s ?_
    rw [HasStub, stubs] at has
    exact has

/-- **Changes to the store keep a machine linked.** -/
theorem Linked.stored (h : m.Linked L) (change : m.Stored m') : m'.Linked L where
  numbered := by rw [change.slots, h.numbered]
  lengths n deed on_record := by
    rw [referrables, change.slots]
    exact h.lengths n deed on_record
  functions f has := by
    rcases change.functions f has with before | bare
    · exact h.functions f before
    · exact .inl bare
  frames j := by
    rw [frame, change.frames]
    exact h.frames j
  stubs file id s has := by
    rcases change.stubs file id s has with before | placed
    · exact h.stubs file id s before
    · exact placed

/-- So does changing a frame in a way that keeps it rooted. -/
theorem Linked.modifyFrame (h : m.Linked L) (i : Nat) (change : Frame → Frame)
    (keeps : ∀ fr : Frame, fr.Rooted L → (change fr).Rooted L) :
    Linked L { m with frames := m.frames.modify i change } where
  numbered := h.numbered
  lengths := h.lengths
  functions := h.functions
  frames j := by
    rw [frame_modify]
    split
    · exact keeps _ (h.frames j)
    · exact h.frames j
  stubs := h.stubs

/-! ## Single variables -/

/-- A variable within its array has a value. -/
theorem Linked.slot (h : m.Linked L) {c : Capture} (covered : L.Covers c) :
    ∃ v, m.slot? c = some v := by
  obtain ⟨deed, on_record, bound⟩ := covered
  have length : (m.referrables c.slots).size = deed.length := h.lengths _ deed on_record
  exact ⟨_, Array.getElem?_eq_getElem (length ▸ bound)⟩

/-- An array after a variable has been assigned to. -/
theorem referrables_setSlot (m : Machine) (c : Capture) (v : Value) (s : SlotsId) :
    (m.setSlot c v).referrables s =
      if c.slots.serial = s.serial then (m.referrables s).setIfInBounds c.index v
      else m.referrables s := by
  simp only [referrables, setSlot, Array.getD_eq_getD_getElem?, Array.getElem?_modify]
  by_cases same : c.slots.serial = s.serial
  · rw [if_pos same, if_pos same]
    cases m.slots[s.serial]? with
    | some a => rfl
    | none => rfl
  · rw [if_neg same, if_neg same]

/-- **Assigning to a variable keeps a machine linked.** -/
theorem Linked.setSlot (h : m.Linked L) (c : Capture) (v : Value) : (m.setSlot c v).Linked L where
  numbered := h.numbered.trans Array.size_modify.symm
  lengths n deed on_record := by
    rw [referrables_setSlot]
    split
    · rw [Array.size_setIfInBounds]
      exact h.lengths n deed on_record
    · exact h.lengths n deed on_record
  functions := h.functions
  frames := h.frames
  stubs := h.stubs

/-- A variable has the value that was assigned to it. -/
theorem slot_setSlot {c : Capture} {old : Value} (there : m.slot? c = some old) (v : Value) :
    (m.setSlot c v).slot? c = some v := by
  rw [slot?] at there ⊢
  rw [referrables_setSlot, if_pos rfl, Array.getElem?_setIfInBounds, if_pos rfl]
  obtain ⟨bound, -⟩ := Array.getElem?_eq_some_iff.mp there
  rw [if_pos bound]

/-- Assigning to one variable changes no other. -/
theorem slot_setSlot_ne (m : Machine) {c c' : Capture} (ne : c' ≠ c) (v : Value) :
    (m.setSlot c v).slot? c' = m.slot? c' := by
  rw [slot?, slot?, referrables_setSlot]
  by_cases array : c.slots.serial = c'.slots.serial
  · have index : c.index ≠ c'.index := by
      intro index
      obtain ⟨⟨n⟩, k⟩ := c
      obtain ⟨⟨n'⟩, k'⟩ := c'
      cases array
      cases index
      exact ne rfl
    rw [if_pos array, Array.getElem?_setIfInBounds, if_neg index]
  · rw [if_neg array]

/-! ## Closures -/

theorem resolve_ok {scope : Scope} {file stub : UInt32} {site : CaptureSite} {c : Capture}
    (resolved : m.resolve scope file stub site = .ok c) :
    ∃ owner, scope.find? file site.stub = some owner ∧ c = ⟨owner.slots, site.slot.toNat⟩ ∧
      site.slot.toNat < (m.referrables owner.slots).size := by
  rw [resolve] at resolved
  split at resolved
  · cases resolved
  · rename_i owner nearest
    dsimp only at resolved
    split at resolved
    · cases resolved
      exact ⟨owner, nearest, rfl, ‹_›⟩
    · cases resolved

section Traversal
variable {α β ε : Type} {f : α → Except ε β}

/-- A traversal without failure has a result for every element. -/
theorem listMapM_getElem {as : List α} {bs : List β} (ok : as.mapM f = .ok bs) :
    bs.length = as.length ∧
      ∀ (k : Nat) (a : α), as[k]? = some a → ∃ b, bs[k]? = some b ∧ f a = .ok b := by
  induction as generalizing bs with
  | nil =>
    cases ok
    exact ⟨rfl, fun k a at_ => by cases at_⟩
  | cons a as ih =>
    rw [List.mapM_cons] at ok
    cases first : f a with
    | error failure =>
      rw [first] at ok
      cases ok
    | ok b =>
      rw [first] at ok
      cases rest : as.mapM f with
      | error failure =>
        rw [rest] at ok
        cases ok
      | ok bs' =>
        rw [rest] at ok
        cases ok
        obtain ⟨length, each⟩ := ih rest
        refine ⟨congrArg (· + 1) length, fun k x at_ => ?_⟩
        cases k with
        | zero =>
          cases at_
          exact ⟨b, rfl, first⟩
        | succ k => exact each k x at_

theorem mapM_getElem {as : Array α} {bs : Array β} (ok : as.mapM f = .ok bs) :
    bs.size = as.size ∧
      ∀ (k : Nat) (a : α), as[k]? = some a → ∃ b, bs[k]? = some b ∧ f a = .ok b := by
  rw [Array.mapM_eq_mapM_toList] at ok
  cases listed : as.toList.mapM f with
  | error failure =>
    rw [listed] at ok
    cases ok
  | ok bs' =>
    rw [listed] at ok
    cases ok
    obtain ⟨length, each⟩ := listMapM_getElem listed
    refine ⟨length, fun k a at_ => ?_⟩
    rw [← Array.getElem?_toList] at at_
    rw [List.getElem?_toArray]
    exact each k a at_

end Traversal

/-- **A closure over a frame of a linked machine holds what its stub asks for.** -/
theorem Linked.closed (h : m.Linked L) {i : Nat} {id : UInt32} {stub : Stub}
    (here : m.HasStub (m.frame i).stub.file id stub) {captures : Array Capture}
    (resolved : stub.captures.mapM (m.resolve (m.frame i).scope (m.frame i).stub.file id) =
      .ok captures) (types : Option (Array TypeId)) :
    FunctionFacet.Closed L ⟨stub, captures, types, (m.frame i).scope, none⟩ := by
  obtain ⟨count, each⟩ := mapM_getElem resolved
  refine ⟨(h.frames i).scope, count, fun k site at_ => ?_⟩
  obtain ⟨c, captured, meant⟩ := each k site at_
  obtain ⟨owner, nearest, rfl, bound⟩ := resolve_ok meant
  have file : stub.file = (m.frame i).stub.file := (h.stubs _ _ stub here).1
  refine ⟨owner, ?_, captured, ?_⟩
  · show (m.frame i).scope.find? stub.file site.stub = some owner
    rw [file]
    exact nearest
  · have member : owner ∈ (m.frame i).scope := List.mem_of_find?_eq_some nearest
    obtain ⟨length, on_record⟩ := (h.frames i).scope owner member
    refine ⟨_, on_record, ?_⟩
    rw [← h.lengths _ _ on_record]
    exact bound

/-- **Taking a function into the store keeps a machine linked** if it is rooted. -/
theorem Linked.newFunction (h : m.Linked L) {f : FunctionFacet} (rooted : f.Rooted L) :
    Linked L { m with
      objects := m.objects.push (Object.ofType BuiltinType.function.id (.function f)) } where
  numbered := h.numbered
  lengths := h.lengths
  functions g has := by
    obtain ⟨o, function⟩ := has
    simp only [object, Array.getD_eq_getD_getElem?, Array.getElem?_push] at function
    split at function
    · cases function
      exact rooted
    · refine h.functions g ⟨o, ?_⟩
      rw [object, Array.getD_eq_getD_getElem?]
      exact function
  frames := h.frames
  stubs := h.stubs

/-! ## Entering and leaving -/

/-- The array that belongs to no activation is on record. -/
theorem Linked.base (h : m.Linked L) : L.Registers Frame.idle.own := by
  have idle : m.frame m.frames.size = Frame.idle := by
    rw [frame, Array.getD_eq_getD_getElem?, Array.getElem?_eq_none (Nat.le_refl _)]
    rfl
  refine (h.frames m.frames.size).scope _ ?_
  rw [idle]
  exact List.mem_singleton.mpr rfl

/-- The record of the array that is made when a function is entered. -/
def freshDeed (f : FunctionFacet) (parameters : Array Value) : Deed :=
  ⟨f.stub.file, f.stub.id, (freshReferrables f.stub parameters).size⟩

section Entering
variable (f : FunctionFacet) (parameters : Array Value) (restart : Option Restart)

/-- Entering a function changes one frame at most. -/
theorem frame_pushFrame (m : Machine) (j : Nat) :
    (m.pushFrame f parameters restart).frame j = m.startFrame f restart ∨
      (m.pushFrame f parameters restart).frame j = m.frame j := by
  rw [← roomyFrames_getD m j]
  show (m.roomyFrames.setIfInBounds m.depth (m.startFrame f restart)).getD j Frame.idle = _ ∨
    (m.roomyFrames.setIfInBounds m.depth (m.startFrame f restart)).getD j Frame.idle = _
  rw [Array.getD_eq_getD_getElem?, Array.getElem?_setIfInBounds]
  by_cases own : m.depth = j
  · rw [if_pos own]
    split
    · exact .inl rfl
    · rename_i outside
      refine .inr ?_
      rw [own] at outside
      rw [Array.getD_eq_getD_getElem?, Array.getElem?_eq_none (Nat.le_of_not_lt outside)]
  · rw [if_neg own, ← Array.getD_eq_getD_getElem?]
    exact .inr rfl

/-- The frame of a function that is entered. -/
theorem frame_pushFrame_self (s : m.Sound) :
    (m.pushFrame f parameters restart).frame m.depth = m.startFrame f restart := by
  rw [frame_pushFrame_eq f parameters restart s.pooled, if_pos rfl]

/-- The arrays after a function has been entered: one more. -/
theorem referrables_pushFrame (m : Machine) (s : SlotsId) :
    (m.pushFrame f parameters restart).referrables s =
      if s.serial = m.slots.size then freshReferrables f.stub parameters else m.referrables s := by
  show (m.slots.push (freshReferrables f.stub parameters)).getD s.serial #[] = _
  rw [Array.getD_eq_getD_getElem?, Array.getElem?_push]
  split
  · rfl
  · rw [referrables, Array.getD_eq_getD_getElem?]

/-- Entering a function changes no variable that there is. -/
theorem slot_pushFrame {c : Capture} {v : Value} (there : m.slot? c = some v) :
    (m.pushFrame f parameters restart).slot? c = some v := by
  have old : c.slots.serial ≠ m.slots.size := by
    intro new
    rw [slot?, referrables, Array.getD_eq_getD_getElem?, new,
      Array.getElem?_eq_none (Nat.le_refl _)] at there
    cases there
  rw [slot?, referrables_pushFrame, if_neg old]
  exact there

/-- The variables of an activation are there from the start. -/
theorem referrableCount_le (stub : Stub) (parameters : Array Value) :
    stub.referrableCount ≤ (freshReferrables stub parameters).size := by
  rw [freshReferrables, Array.size_append, Array.size_replicate]
  omega

variable {f}

/-- The frame in which a rooted function starts is rooted. -/
theorem startFrame_rooted (h : m.Linked L) (rooted : f.Rooted L) :
    (m.startFrame f restart).Rooted (L ++ [freshDeed f parameters]) := by
  have le : L <+: L ++ [freshDeed f parameters] := List.prefix_append _ _
  have own : (L ++ [freshDeed f parameters])[m.slots.size]? = some (freshDeed f parameters) := by
    rw [← h.numbered, List.getElem?_append_right (Nat.le_refl _), Nat.sub_self]
    rfl
  constructor
  · intro a member
    rcases List.mem_cons.mp member with rfl | outer
    · exact ⟨_, own⟩
    · exact (rooted.mono le).origin a outer
  · intro slot c named
    rw [Frame.site?] at named
    split at named
    · rename_i mine
      cases named
      exact ⟨_, own, Nat.lt_of_lt_of_le mine (referrableCount_le f.stub parameters)⟩
    · exact (rooted.mono le).covers named

/-- **Entering a function keeps a machine linked**, with one more array on record. -/
theorem Linked.pushFrame (h : m.Linked L) (rooted : f.Rooted L) :
    (m.pushFrame f parameters restart).Linked (L ++ [freshDeed f parameters]) := by
  have le : L <+: L ++ [freshDeed f parameters] := List.prefix_append _ _
  constructor
  · show (L ++ [freshDeed f parameters]).length = (m.slots.push _).size
    rw [List.length_append, Array.size_push, h.numbered]
    rfl
  · intro n deed on_record
    rw [referrables_pushFrame]
    -- the slots that are new come after all others
    by_cases new : n = m.slots.size
    · rw [if_pos new]
      rw [new, ← h.numbered, List.getElem?_append_right (Nat.le_refl _), Nat.sub_self] at on_record
      cases on_record
      rfl
    · rw [if_neg new]
      refine h.lengths n deed ?_
      obtain ⟨bound, -⟩ := List.getElem?_eq_some_iff.mp on_record
      rw [List.length_append, List.length_singleton, h.numbered] at bound
      rw [List.getElem?_append_left (by rw [h.numbered]; omega)] at on_record
      exact on_record
  · exact fun g has => (h.functions g has).mono le
  · intro j
    rcases frame_pushFrame f parameters restart m j with start | same
    · rw [start]
      exact startFrame_rooted parameters restart h rooted
    · rw [same]
      exact (h.frames j).mono le
  · exact h.stubs

end Entering

/-- **Leaving a frame keeps a machine linked.** -/
theorem Linked.popFrame (h : m.Linked L) : m.popFrame.Linked L :=
  (h.modifyFrame (m.depth - 1) retire fun _ rooted => rooted.retire h.base).congr rfl rfl rfl rfl

end Machine

end StubMachine
