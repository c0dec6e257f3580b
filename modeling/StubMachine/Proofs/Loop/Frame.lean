import StubMachine.Proofs.Loop.Pass

/-!
# The frame of a loop

What a pass cannot change is its frame, but for the program counter and the value stack: the
code, the array of variables and the condition under which the frame starts over stay
(`Machine.Loops`).  Its variables it can change at will, and so can every closure that
captured them.

Between two passes the condition is taken away, the first parameters are written, and then
the frame begins again with a new condition.  All its own variables can be read and written
at any time, and **writing to the first parameters succeeds and changes nothing else**
(`Machine.Loops.rebind`).
-/

namespace StubMachine

open StubMachine.Action

/-! ## Variables -/

/-- The value of a variable of a frame. -/
def Machine.ownValue? (m : Machine) (i slot : Nat) : Option Value :=
  ((m.frame i).site? slot).bind m.slot?

/-- **A machine that runs a loop** in the frame at a place, which was entered as it is told; the
frame starts over under a condition. -/
structure Machine.Loops (i : Nat) (entered : Frame) (restart : Option Restart) (m : Machine) :
    Prop where
  runs : m.RunsAt i
  linked : ∃ L, m.Linked L
  frame : Frame.Advanced { entered with restart } (m.frame i)

/-- **A pass starts**: with the first instruction of the body, an empty value stack, and certain
values in the first parameters, as many as there are; all other variables are as before. -/
structure Machine.StartsPass (i : Nat) (f : FunctionFacet) (given : List Value)
    (before : Nat → Option Value) (m : Machine) : Prop where
  innermost : m.depth = i + 1
  stub : (m.frame i).stub = f.stub
  pc : (m.frame i).pc = 0
  stack : (m.frame i).stack = []
  bound (slot : Nat) (v : Value) : given[slot]? = some v → slot < f.stub.arity →
    m.ownValue? i slot = some v
  others (slot : Nat) : min given.length f.stub.arity ≤ slot → slot < f.stub.referrableCount →
    m.ownValue? i slot = before slot

/-- What the variables are before a pass: what the pass before has left, and Empty before the
first one. -/
def leftBehind (i : Nat) (turns : List Turn) (slot : Nat) : Option Value :=
  match turns.getLast? with
  | none => some .empty
  | some turn => turn.finish.ownValue? i slot

/-- The state with another condition for a frame to start over, or none. -/
def Machine.rearm (m : Machine) (i : Nat) (restart : Option Restart) : Machine :=
  { m with frames := m.frames.modify i fun f => { f with restart } }

/-- The state in which a frame is at the beginning of its code. -/
def Machine.rewound (m : Machine) (i : Nat) (restart : Restart) : Machine :=
  { m with frames := m.frames.modify i fun f =>
      { f with pc := 0, stack := [], restart := some restart } }

/-! ## What routines leave -/

section Runs
variable {host : Host} {L : Ledger} {m : Machine}

/-- **The engine of a tame host obeys the law of sharing**, with nothing sealed. -/
theorem ofHost_shared (tame : host.Tame) (start : Machine) (L : Ledger) (fuel : Nat) :
    Law.Shared start L (fun _ => False) (.ofHost host fuel) (.ofHost host fuel) := by
  have pair := performUnder_shared tame start L (fun _ => False) (.exhausted, start) fuel
  rw [Plan.refusing_none_engine] at pair
  exact ⟨rfl, fun function arguments binding m hm => ⟨rfl, (pair.called function arguments binding m hm).2⟩,
    fun f parameters restart m hm => ⟨rfl, (pair.entered f parameters restart m hm).2⟩⟩

/-- **What obeys the law leaves a linked machine linked**, and the frames in order. -/
theorem Law.Lockstep.leaves {place : Place} {r : Rank} {α : Type} {x x' : Action α}
    (h : (Law.sharing m L (fun _ => False) place none).Lockstep r x x') (linked : m.Linked L)
    (held : place.Holds m) :
    m.Kept r (x.after m) ∧ ∃ L', L <+: L' ∧ (x.after m).Linked L' := by
  have nothing (f : FunctionFacet) (eq : none = some f) : f.Rooted L := by cases eq
  have here : m.Based L (fun _ => False) none m :=
    ⟨.of_linked linked rfl, L, List.prefix_refl L, linked, nothing⟩
  obtain ⟨-, kept, passes⟩ := h m ⟨held, here⟩
  exact ⟨kept, (passes L linked nothing).linked⟩

/-- **A routine between frames** leaves a linked machine linked, and the frames in order. -/
theorem Routine.leaves (tame : host.Tame) (fuel : Nat) {α : Type} {x : Procedure α}
    (h : Routine (Place.outside.license (fun _ => False) none fun _ => False) .native x)
    (linked : m.Linked L) (s : m.Sound) :
    m.Kept .native ((x (.ofHost host fuel)).after m) ∧
      ∃ L', L <+: L' ∧ ((x (.ofHost host fuel)).after m).Linked L' :=
  (Routine.alone_shared (ofHost_shared tame m L fuel) h).leaves linked s

end Runs

namespace Machine.Loops
variable {i : Nat} {entered : Frame} {restart : Option Restart} {m m' : Machine}

/-! ## What is known of the frame -/

theorem stub (h : m.Loops i entered restart) : (m.frame i).stub = entered.stub := by
  rw [h.frame]

theorem condition (h : m.Loops i entered restart) : (m.frame i).restart = restart := by
  rw [h.frame]

/-- The frame is in the pool. -/
theorem inPool (h : m.Loops i entered restart) : i < m.frames.size := by
  have pooled := h.runs.sound.pooled
  have innermost := h.runs.innermost
  omega

theorem site (h : m.Loops i entered restart) {slot : Nat}
    (own : slot < entered.stub.referrableCount) :
    (m.frame i).site? slot = some ⟨entered.own.slots, slot⟩ := by
  rw [h.frame]
  exact if_pos own

theorem variable_eq (h : m.Loops i entered restart) {slot : Nat}
    (own : slot < entered.stub.referrableCount) :
    m.ownValue? i slot = m.slot? ⟨entered.own.slots, slot⟩ := by
  rw [Machine.ownValue?, h.site own, Option.bind_some]

/-- **Every variable of the frame has a value.** -/
theorem valued (h : m.Loops i entered restart) {slot : Nat}
    (own : slot < entered.stub.referrableCount) : ∃ v, m.ownValue? i slot = some v := by
  obtain ⟨L, linked⟩ := h.linked
  rw [h.variable_eq own]
  exact linked.slot ((linked.frames i).sites slot _ (h.site own))

theorem readReferrable (h : m.Loops i entered restart) {slot : Nat} {v : Value}
    (own : slot < entered.stub.referrableCount) (there : m.ownValue? i slot = some v) :
    StubMachine.readReferrable i slot m = .ok v m :=
  Machine.readReferrable_eq (h.site own) ((h.variable_eq own).symm.trans there)

/-! ## What leaves the loop in its frame -/

/-- What instructions may do to the frame. -/
theorem kept (h : m.Loops i entered restart) (frames : m.Kept (.instruction i) m')
    (linked : ∃ L, m'.Linked L) : m'.Loops i entered restart where
  runs := frames.runsAt h.runs
  linked := linked
  frame := by
    have active : i < m.depth := by
      rw [h.runs.innermost]
      exact Nat.lt_succ_self i
    have own := frames.frames i active
    rw [Rank.Allows, if_pos rfl] at own
    exact h.frame.trans own

/-- The change of a frame between instructions. -/
theorem reframe (h : m.Loops i entered restart) (change : Frame → Frame) {next : Option Restart}
    (progress : ∀ fr : Frame, fr.Progressed (change fr))
    (condition : ∀ fr : Frame, (change fr).restart = next) :
    Machine.Loops i entered next { m with frames := m.frames.modify i change } where
  runs := by
    have kept : m.Kept (.activation i) { m with frames := m.frames.modify i change } :=
      .modify m i change fun fr => by rw [Rank.Allows, if_pos rfl]; exact progress fr
    exact kept.runsAt h.runs
  linked := by
    obtain ⟨L, linked⟩ := h.linked
    exact ⟨L, linked.modifyFrame i change fun fr rooted => rooted.progressed (progress fr)⟩
  frame := by
    have own := (Machine.frame_modify m i i change).trans (if_pos ⟨rfl, h.inPool⟩)
    have changed : Frame.Progressed entered (change (m.frame i)) := by
      refine Frame.Progressed.trans ?_ (progress (m.frame i))
      rw [Frame.Progressed, h.frame]
    rw [Frame.Advanced, own, ← condition (m.frame i)]
    exact changed

theorem rearm (h : m.Loops i entered restart) (next : Option Restart) :
    (m.rearm i next).Loops i entered next :=
  h.reframe _ (fun _ => rfl) fun _ => rfl

theorem rewound (h : m.Loops i entered restart) (next : Restart) :
    (m.rewound i next).Loops i entered (some next) :=
  h.reframe _ (fun _ => rfl) fun _ => rfl

/-- What the variables of the frame are does not depend on its condition. -/
theorem ownValue_reframed (h : m.Loops i entered restart) (h' : m'.Loops i entered next)
    (slots : m'.slots = m.slots) {slot : Nat} (own : slot < entered.stub.referrableCount) :
    m'.ownValue? i slot = m.ownValue? i slot := by
  rw [h.variable_eq own, h'.variable_eq own, slot_congr slots]

/-- **A pass starts when the frame is rewound**, with the values that its variables have then. -/
theorem startsPass (h : m.Loops i entered restart) {f : FunctionFacet}
    (body : entered.stub = f.stub) (next : Restart) {given : List Value}
    {before : Nat → Option Value}
    (bound : ∀ slot v, given[slot]? = some v → slot < f.stub.arity → m.ownValue? i slot = some v)
    (others : ∀ slot < f.stub.referrableCount, min given.length f.stub.arity ≤ slot →
      m.ownValue? i slot = before slot) :
    (m.rewound i next).StartsPass i f given before := by
  have h' := h.rewound next
  have frame := (Machine.frame_modify m i i fun f =>
    { f with pc := 0, stack := [], restart := some next }).trans (if_pos ⟨rfl, h.inPool⟩)
  have arity : f.stub.arity ≤ f.stub.referrableCount := Nat.le_add_right _ _
  refine ⟨h'.runs.innermost, h'.stub.trans body, ?_, ?_, fun slot v at_ param => ?_,
    fun slot beyond own => ?_⟩
  · rw [Machine.rewound, frame]
  · rw [Machine.rewound, frame]
  · rw [h.ownValue_reframed h' rfl (by rw [body]; omega)]
    exact bound slot v at_ param
  · rw [h.ownValue_reframed h' rfl (by rw [body]; exact own)]
    exact others slot own beyond

/-! ## Passes -/

/-- **A pass leaves the loop in its frame**, with the same condition. -/
theorem pass {host : Host} (tame : host.Tame) {fuel k : Nat} (h : m.Loops i entered restart)
    (ran : Pass (.ofHost host fuel) i m k .fallsOff m') : m'.Loops i entered restart := by
  generalize fell : PassEnd.fallsOff = ending at ran
  induction ran with
  | fallsOff next => exact h
  | returns next ret => cases fell
  | fails next failed => cases fell
  | @next m m₁ m' ins k ending next ran pass ih =>
    refine ih ?_ fell
    -- The instruction is fetched, and then it is executed.
    have fetched : (m.fetched i).Loops i entered restart := by
      obtain ⟨L, linked⟩ := h.linked
      refine h.kept (.modify m i _ fun fr => by rw [Rank.Allows, if_pos rfl]; rfl) ⟨L, ?_⟩
      exact linked.modifyFrame i _ fun fr rooted => rooted.progressed rfl
    obtain ⟨L, linked⟩ := fetched.linked
    let place : Place := .frame i ((m.fetched i).frame i).site?
    have obeys : (Law.sharing (m.fetched i) L (fun _ => False) place none).Lockstep (.instruction i)
        (step (.ofHost host fuel) i ins) (step (.ofHost host fuel) i ins) :=
      step_shared (ofHost_shared tame (m.fetched i) L fuel) fun _ _ _ => id
    obtain ⟨frames, L', -, linked'⟩ := obeys.leaves linked ⟨fetched.runs, rfl⟩
    rw [Action.after, ran] at frames linked'
    exact fetched.kept frames ⟨L', linked'⟩

/-! ## Writing to the parameters -/

/-- **A variable of the frame can be written**, and no other variable of the frame changes. -/
theorem write (h : m.Loops i entered restart) (slot : Nat)
    (own : slot < entered.stub.referrableCount) (v : Value) :
    ∃ m', writeReferrable i slot v m = .ok () m' ∧ m'.Loops i entered restart ∧
      m'.ownValue? i slot = some v ∧ ∀ other < entered.stub.referrableCount, other ≠ slot →
        m'.ownValue? i other = m.ownValue? i other := by
  obtain ⟨L, linked⟩ := h.linked
  obtain ⟨old, there⟩ := h.valued own
  rw [h.variable_eq own] at there
  have written : (m.setSlot ⟨entered.own.slots, slot⟩ v).Loops i entered restart :=
    ⟨⟨⟨h.runs.sound.bounded, h.runs.sound.pooled⟩, h.runs.innermost⟩, ⟨L, linked.setSlot _ v⟩,
      h.frame⟩
  refine ⟨_, Machine.writeReferrable_eq (h.site own) there v, written, ?_, fun other own' ne => ?_⟩
  · rw [written.variable_eq own]
    exact slot_setSlot there v
  · rw [written.variable_eq own', h.variable_eq own']
    refine slot_setSlot_ne m (fun same => ne ?_) v
    cases same
    rfl

/-- **Several variables in a row can be written**, and no other variable of the frame changes. -/
theorem writes (h : m.Loops i entered restart) (values : List Value) (first : Nat)
    (own : first + values.length ≤ entered.stub.referrableCount) :
    ∃ m', ((values.zipIdx first).forM fun p => writeReferrable i p.2 p.1) m = .ok () m' ∧
      m'.Loops i entered restart ∧
      (∀ k v, values[k]? = some v → m'.ownValue? i (first + k) = some v) ∧
      ∀ slot < entered.stub.referrableCount, slot < first ∨ first + values.length ≤ slot →
        m'.ownValue? i slot = m.ownValue? i slot := by
  -- the slots that have been written come before those that are left
  induction values generalizing first m with
  | nil =>
    refine ⟨m, rfl, h, fun k v none => ?_, fun slot _ _ => rfl⟩
    cases none
  | cons v values ih =>
    rw [List.length_cons] at own
    obtain ⟨m₁, written, h₁, got, kept₁⟩ := h.write first (by omega) v
    obtain ⟨m₂, rest, h₂, given, kept₂⟩ := ih h₁ (first + 1) (by omega)
    refine ⟨m₂, ?_, h₂, fun k w at_ => ?_, fun slot bound apart => ?_⟩
    · rw [List.zipIdx_cons]
      exact (Action.bind_ok written).trans rest
    · cases k with
      | zero =>
        cases at_
        exact (kept₂ first (by omega) (by omega)).trans got
      | succ k =>
        rw [← given k w at_, Nat.add_right_comm, Nat.add_assoc]
    · rw [List.length_cons] at apart
      rw [kept₂ slot bound (by omega), kept₁ slot bound (by omega)]

/-- **The first parameters of the frame can be written**, as many as there are, and no other
variable of the frame changes. -/
theorem rebind (h : m.Loops i entered restart) (values : List Value) :
    ∃ m', StubMachine.rebind i values m = .ok () m' ∧ m'.Loops i entered restart ∧
      (∀ slot v, values[slot]? = some v → slot < entered.stub.arity →
        m'.ownValue? i slot = some v) ∧
      ∀ slot < entered.stub.referrableCount, min values.length entered.stub.arity ≤ slot →
        m'.ownValue? i slot = m.ownValue? i slot := by
  have arity : entered.stub.arity ≤ entered.stub.referrableCount := Nat.le_add_right _ _
  have read : readFrame i (fun f => f.stub.arity) m = .ok entered.stub.arity m := by
    show EStateM.Result.ok (m.frame i).stub.arity m = _
    rw [h.stub]
  obtain ⟨m', written, h', given, others⟩ := h.writes (values.take entered.stub.arity) 0
    (by rw [List.length_take]; omega)
  refine ⟨m', ?_, h', fun slot v at_ bound => ?_, fun slot own beyond => ?_⟩
  · rw [StubMachine.rebind, Action.bind_ok read]
    exact written
  · rw [← Nat.zero_add slot]
    refine given slot v ?_
    rw [List.getElem?_take_of_lt bound, at_]
  · refine others slot own (.inr ?_)
    rw [List.length_take]
    omega

/-! ## Beginning -/

/-- **A loop that is entered** is in its frame. -/
theorem of_pushFrame {L : Ledger} (linked : m.Linked L) (s : m.Sound) {f : FunctionFacet}
    (rooted : f.Rooted L) (parameters : Array Value) (restart : Option Restart)
    (room : m.depth < m.config.maxCallDepth) :
    (m.pushFrame f parameters restart).Loops m.depth (m.startFrame f restart) restart where
  runs := Machine.pushFrame_runsAt f parameters restart s room
  linked := ⟨_, linked.pushFrame parameters restart rooted⟩
  frame := by
    rw [Machine.frame_pushFrame_self f parameters restart s]
    rfl

end Machine.Loops

/-- A function is entered with the values that it is given in its first parameters, and with
Empty in all other variables. -/
theorem freshReferrables_firstParameters (f : FunctionFacet) (given : List Value) {slot : Nat}
    (own : slot < f.stub.referrableCount) :
    (freshReferrables f.stub (firstParameters f given))[slot]? =
      some (((given.take f.stub.arity)[slot]?).getD .empty) := by
  have arity : f.stub.arity ≤ f.stub.referrableCount := Nat.le_add_right _ _
  simp only [freshReferrables, firstParameters, Array.getElem?_append, Array.size_append,
    List.size_toArray, Array.size_replicate, Array.getElem?_replicate, List.getElem?_toArray]
  have length := List.length_take (i := f.stub.arity) (l := given)
  by_cases inside : slot < (given.take f.stub.arity).length
  · rw [if_pos (by omega), if_pos inside, List.getElem?_eq_getElem inside]
    rfl
  · rw [List.getElem?_eq_none (Nat.le_of_not_lt inside), Option.getD_none, if_neg inside]
    split
    · exact if_pos (by omega)
    · exact if_pos (by omega)

/-- **The first pass starts** when the function is entered. -/
theorem Machine.Sound.startsPass {m : Machine} (s : m.Sound) (f : FunctionFacet)
    (given : List Value) (restart : Option Restart) :
    (m.pushFrame f (firstParameters f given) restart).StartsPass m.depth f given
      fun _ => some .empty := by
  have frame := Machine.frame_pushFrame_self f (firstParameters f given) restart s
  have value {slot : Nat} (own : slot < f.stub.referrableCount) :
      (m.pushFrame f (firstParameters f given) restart).ownValue? m.depth slot =
        some (((given.take f.stub.arity)[slot]?).getD .empty) := by
    have site : (m.startFrame f restart).site? slot = some ⟨⟨m.slots.size⟩, slot⟩ := if_pos own
    rw [Machine.ownValue?, frame, site, Option.bind_some, Machine.slot?,
      Machine.referrables_pushFrame, if_pos rfl, freshReferrables_firstParameters f given own]
  have arity : f.stub.arity ≤ f.stub.referrableCount := Nat.le_add_right _ _
  refine ⟨rfl, by rw [frame]; rfl, by rw [frame]; rfl, by rw [frame]; rfl, ?_, ?_⟩
  · intro slot v at_ bound
    rw [value (by omega), List.getElem?_take_of_lt bound, at_, Option.getD_some]
  · intro slot beyond own
    rw [value own, List.getElem?_eq_none (by rw [List.length_take]; omega), Option.getD_none]

end StubMachine
