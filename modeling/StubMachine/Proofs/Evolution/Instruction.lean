import StubMachine.Machine.Step
import StubMachine.Proofs.Evolution.Module

/-!
# Instructions evolve the store

-/

namespace StubMachine

open StubMachine.Action Std.Do

set_option mvcgen.warning false

theorem backs_pairs {m : Machine} {values : List Value} (h : m.Backs values) :
    m.Backs (pairs values) := by
  fun_induction pairs values with
  | case1 a b rest ih =>
    simp only [Machine.backs_cons] at h ⊢
    exact ⟨⟨h.1, h.2.1⟩, ih h.2.2⟩
  | case2 => exact Machine.backs_nil

grind_pattern backs_pairs => m.Backs values, pairs values

theorem backs_firstParameters {m : Machine} (f : FunctionFacet) {given : List Value}
    (h : m.Backs given) : m.Backs (firstParameters f given) := by
  intro v mem
  rcases Array.mem_append.mp mem with first | filled
  · exact h v (List.mem_of_mem_take (List.mem_toArray.mp first))
  · exact Machine.backs_replicate Machine.backs_empty _ v filled

grind_pattern backs_firstParameters => m.Backs (firstParameters f given)

section
variable [Latitude] {m₀ : Machine} (i : Nat)

/-! ## Referrables and closures -/

@[spec] theorem readReferrable_sound (slot : Nat) : Sound m₀ True (readReferrable i slot) := by
  apply Sound.intro
  mvcgen [readReferrable]
  all_goals grind

theorem setSlot_sound (c : Capture) (v : Value) :
    Sound m₀ (m₀.Backs v) (update fun m => m.setSlot c v) := by
  rw [sound_iff]
  intro whole backed
  have slots : m₀.Backs (m₀.slots.modify c.slots.serial fun a => a.setIfInBounds c.index v) :=
    Machine.backs_modify whole.slots fun a ha => Machine.backs_setIfInBounds ha backed c.index
  exact ⟨.change (.aside rfl), { whole with slots := slots }, trivial⟩

@[spec] theorem writeReferrable_sound (slot : Nat) (v : Value) :
    Sound m₀ (m₀.Backs v) (writeReferrable i slot v) := by
  have set := @setSlot_sound
  apply Sound.intro
  mvcgen [writeReferrable, set]
  all_goals grind

omit [Latitude] in
@[spec] theorem stubBeside_spec (id : UInt32)
    (Q : PostCond (Option Stub) (.except Failure (.arg Machine .pure))) :
    ⦃fun m => Q.1 m.stubs[((m.frame i).stub.file, id)]? m⦄
      (stubBeside? i id : EStateM Failure Machine (Option Stub)) ⦃Q⦄ :=
  fun _ h => h

@[spec] theorem makeClosure_sound (id : UInt32) (types : Option (Array TypeId)) :
    Sound m₀ True (makeClosure i id types) := by
  apply Sound.intro
  mvcgen [makeClosure]
  all_goals grind

/-! ## The value stack -/

@[spec] theorem push_sound (v : Value) : Sound m₀ (m₀.Backs v) (push i v) := by
  apply Sound.intro
  mvcgen [push]
  all_goals grind

@[spec] theorem peek_sound : Sound m₀ True (peek i) := by
  apply Sound.intro
  mvcgen [peek]
  all_goals grind

@[spec] theorem pop_sound : Sound m₀ True (pop i) := by
  apply Sound.intro
  mvcgen [pop]
  all_goals grind

@[spec] theorem popMany_sound (count : Nat) : Sound m₀ True (popMany i count) := by
  apply Sound.intro
  mvcgen [popMany]
  all_goals grind

@[spec] theorem skip_sound (count : Nat) : Sound m₀ True (skip i count) := by
  apply Sound.intro
  mvcgen [skip]
  all_goals grind

/-! ## Operands -/

@[spec] theorem pooledText_sound (operand : Float) : Sound m₀ True (pooledText i operand) := by
  apply Sound.intro
  mvcgen [pooledText]
  all_goals grind

@[spec] theorem builtinType_sound (operand : Float) : Sound m₀ True (builtinType operand) := by
  apply Sound.intro
  mvcgen [builtinType]
  all_goals grind

@[spec] theorem namedOperator_sound (operand : Float) : Sound m₀ True (namedOperator operand) := by
  apply Sound.intro
  mvcgen [namedOperator]
  all_goals grind

@[spec] theorem namedAssignment_sound (byte : Nat) : Sound m₀ True (namedAssignment byte) := by
  apply Sound.intro
  mvcgen [namedAssignment]
  all_goals grind

/-! ## Making objects -/

@[spec] theorem signatureTypes_sound (values : List Value) :
    Sound m₀ (m₀.Backs values) (signatureTypes values) := by
  induction values generalizing m₀ with
  | nil =>
    apply Sound.intro
    mvcgen [signatureTypes]
    all_goals grind
  | cons v rest ih =>
    have others (m : Machine) : Sound m (m.Backs rest) (signatureTypes rest) := ih
    cases v with
    | type t =>
      apply Sound.intro
      mvcgen [signatureTypes, others]
      all_goals grind
    | _ =>
      apply Sound.intro
      mvcgen [signatureTypes]
      all_goals grind

@[spec] theorem makeTypedClosure_sound (operand : Float) : Sound m₀ True (makeTypedClosure i operand) := by
  apply Sound.intro
  mvcgen [makeTypedClosure]
  all_goals grind

@[spec] theorem collectPairs_sound (entries : List (Value × Value)) :
    Sound m₀ (m₀.Backs entries) (collectPairs entries) := by
  have filled (o : ObjectId) (m : Machine)
      (known : m.Backs o ∧ (m.object o).facet = .plain ∧ m.Backs entries) :
      Fills m True (entries.forM fun entry => writeEntry o entry.1 entry.2) := by
    obtain ⟨exists_, facet, backed⟩ := known
    apply forM_fills
    rintro ⟨key, v⟩ mem m' evolved plain
    refine (writeEntry_spec o key v).of ?_
    have refers := Machine.Backs.mono (backed (key, v) mem) evolved
    exact ⟨refers.1, refers.2, fun k _ => .entry k v (plain o exists_ facet)⟩
  apply Sound.intro
  mvcgen [collectPairs, filled]
  all_goals grind

@[spec] theorem namedArguments_sound (entries : List (Value × Value)) :
    Sound m₀ (m₀.Backs entries) (namedArguments entries) := by
  fun_induction namedArguments entries generalizing m₀ with
  | case1 =>
    apply Sound.intro
    mvcgen
    all_goals grind
  | case2 name v rest ih =>
    have others (m : Machine) : Sound m (m.Backs rest) (namedArguments rest) := ih
    apply Sound.intro
    mvcgen [others]
    all_goals grind
  | case3 =>
    apply Sound.intro
    mvcgen
    all_goals grind

variable {e : Engine} (engine : e.Sound)

/-! ## Loops -/

@[spec] theorem loopBody_sound (body : Value) : Sound m₀ True (loopBody body) := by
  apply Sound.intro
  mvcgen [loopBody]
  all_goals grind

@[spec] theorem rebind_sound (values : List Value) : Sound m₀ (m₀.Backs values) (rebind i values) := by
  have written (arity : Nat) (m : Machine) (backed : m.Backs values) :
      Sound m True ((values.take arity).zipIdx.forM fun v => writeReferrable i v.2 v.1) := by
    apply forM_sound
    rintro ⟨v, slot⟩ mem m' evolved
    refine (writeReferrable_sound i slot v).of ?_
    exact Machine.Backs.mono (backed v (List.mem_of_mem_take (List.fst_mem_of_mem_zipIdx mem))) evolved
  apply Sound.intro
  mvcgen [rebind, written]
  all_goals grind

include engine

@[spec] theorem countLoop_sound (first stop : Float) (body : Value) :
    Sound m₀ (m₀.Backs body) (countLoop e first stop body) := by
  apply Sound.intro
  mvcgen [countLoop]
  all_goals grind

@[spec] theorem foreverLoop_sound (body : Value) : Sound m₀ (m₀.Backs body) (foreverLoop e body) := by
  apply Sound.intro
  mvcgen [foreverLoop]
  all_goals grind

@[spec] theorem iterated_sound (o : ObjectId) : Sound m₀ (m₀.Backs o) (iterated e o) := by
  apply Sound.intro
  mvcgen [iterated]
  all_goals grind

@[spec] theorem entryLoop_sound (target body : Value) :
    Sound m₀ (m₀.Backs target ∧ m₀.Backs body) (entryLoop e target body) := by
  apply Sound.intro
  mvcgen [entryLoop]
  all_goals grind

@[spec] theorem advance_sound (condition : Restart) :
    Sound m₀ (m₀.Backs condition) (advance e i condition) := by
  apply Sound.intro
  mvcgen [advance]
  all_goals grind

/-- **Starting over evolves the store.** -/
@[spec] theorem startOver_sound : Sound m₀ True (startOver e i) := by
  apply Sound.intro
  mvcgen [startOver]
  all_goals grind

/-! ## One instruction -/

@[spec] theorem callFromStack_sound (count : Nat) : Sound m₀ True (callFromStack e i count) := by
  apply Sound.intro
  mvcgen [callFromStack]
  all_goals grind

@[spec] theorem assignReferrable_sound (operand : Float) : Sound m₀ True (assignReferrable e i operand) := by
  apply Sound.intro
  mvcgen [assignReferrable, assignThrough]
  all_goals grind

@[spec] theorem assignMember_sound (operand : Float) : Sound m₀ True (assignMember e i operand) := by
  apply Sound.intro
  mvcgen [assignMember, assignThrough]
  all_goals grind

@[spec] theorem operate_sound (op : Operator) : Sound m₀ True (operate e i op) := by
  apply Sound.intro
  mvcgen [operate]
  all_goals grind

@[spec] theorem skipWhen_sound (truth : Bool) (count : Nat) : Sound m₀ True (skipWhen e i truth count) := by
  apply Sound.intro
  mvcgen [skipWhen]
  all_goals grind

theorem execute_sound (op : Opcode) (operand : Float) : Sound m₀ True (op.execute e i operand) := by
  apply Sound.intro
  mvcgen [Opcode.execute, pushResult]
  all_goals grind

/-- **Executing an instruction evolves the store.** -/
@[spec] theorem step_sound (ins : Instruction) : Sound m₀ True (step e i ins) := by
  unfold step
  cases Opcode.ofByte? ins.opcode with
  | some op => exact execute_sound i engine op _
  | none =>
    apply Sound.intro
    mvcgen
    all_goals grind

end

end StubMachine
