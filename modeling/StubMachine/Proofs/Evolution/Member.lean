import StubMachine.Machine.Operation
import StubMachine.Proofs.Evolution.Elementary

/-!
# Conversions, members and operators evolve the store

-/

namespace StubMachine

open StubMachine.Action Std.Do

set_option mvcgen.warning false

/-- Writing a key of a record that its layout declares. -/
theorem Object.Change.declared [Latitude] {m : Machine} {o : Object} {layout : Layout} {key v : Value}
    {t : TypeId} {k : Key} (record : o.facet = .record layout)
    (declares : key.text?.bind layout.get? = some t) (isA : m.isA v t = true)
    (stands : Key.ofValue key = .ok k) : o.Change m (o.set k v) := by
  cases key with
  | string name =>
    cases stands
    exact .field name v record declares isA
  | _ => cases declares

/-- A record either declares the type of a key or has no such key. -/
theorem Route.record_covered {declared : Option TypeId} {route : Route}
    (routed : Route.record declared = route) (undeclared : route = .record none → False)
    (typed : ∀ t, route = .record (some t) → False) : False := by
  cases declared with
  | none => exact undeclared routed.symm
  | some t => exact typed t routed.symm

/-- What an operator makes of two numbers is a number or a boolean. -/
theorem backs_numberOperation {m : Machine} (_whole : m.Whole) (op : Operator) (a b : Float) :
    m.Backs (numberOperation op a b) := by
  rw [Machine.backs_option]
  intro v eq
  unfold numberOperation at eq
  split at eq
  all_goals grind

grind_pattern backs_numberOperation => m.Whole, numberOperation op a b

section
variable [Latitude] {m₀ : Machine} {e : Engine} (engine : e.Sound)

/-! ## Conversions -/

section
include engine

@[spec] theorem convertObject_sound (o : ObjectId) (wanted : BuiltinType) :
    Sound m₀ (m₀.Backs o) (convertObject e o wanted) := by
  apply Sound.intro
  mvcgen [convertObject]
  all_goals grind

@[spec] theorem asNumber_sound (v : Value) : Sound m₀ (m₀.Backs v) (asNumber e v) := by
  apply Sound.intro
  mvcgen [asNumber]
  all_goals grind

@[spec] theorem asString_sound (v : Value) : Sound m₀ (m₀.Backs v) (asString e v) := by
  apply Sound.intro
  mvcgen [asString]
  all_goals grind

@[spec] theorem asBoolean_sound (v : Value) : Sound m₀ (m₀.Backs v) (asBoolean e v) := by
  apply Sound.intro
  mvcgen [asBoolean]
  all_goals grind

@[spec] theorem convertByAttribute_sound (v : Value) (t : TypeId) :
    Sound m₀ (m₀.Backs v) (convertByAttribute e v t) := by
  apply Sound.intro
  mvcgen [convertByAttribute]
  all_goals grind

@[spec] theorem convertTo_sound (v : Value) (t : TypeId) :
    Sound m₀ (m₀.Backs v) (convertTo e v t) := by
  apply Sound.intro
  mvcgen [convertTo]
  all_goals grind

end

/-! ## Members -/

@[spec] theorem routeTo_spec (target key : Value) (write : Bool) :
    Sound m₀ (m₀.Backs target) (routeTo target key write) := by
  apply Sound.intro
  mvcgen [routeTo]
  all_goals grind

@[spec] theorem raiseRecordKey_fails {α : Type} (o : ObjectId) (key : Value) :
    Fails m₀ True (raiseRecordKey o key : Action α) := by
  apply Fails.intro
  mvcgen [raiseRecordKey]
  all_goals grind

@[spec] theorem readEntry_sound (o : ObjectId) (key : Value) : Sound m₀ True (readEntry o key) := by
  apply Sound.intro
  mvcgen [readEntry]
  all_goals grind

@[spec] theorem writeEntry_spec (o : ObjectId) (key v : Value) :
    Fills m₀ (m₀.Backs key ∧ m₀.Backs v ∧
        ∀ k, Key.ofValue key = .ok k → (m₀.object o).Change m₀ ((m₀.object o).set k v))
      (writeEntry o key v) := by
  apply Fills.intro
  mvcgen [writeEntry]
  all_goals grind [Machine.backs_key]

include engine in
@[spec] theorem getMember_sound (target key : Value) (a : Accessor) :
    Sound m₀ (m₀.Backs target ∧ m₀.Backs key) (getMember e target key a) := by
  apply Sound.intro
  mvcgen [getMember]
  all_goals grind

include engine in
@[spec] theorem setMember_sound (target key v : Value) (a : Accessor) :
    Sound m₀ (m₀.Backs target ∧ m₀.Backs key ∧ m₀.Backs v) (setMember e target key v a) := by
  apply Sound.intro
  mvcgen [setMember, routeTo]
  all_goals first
    | grind [Object.Change.declared]
    | exact (Route.record_covered ‹_› ‹_› ‹_›).elim

/-! ## Enumeration -/

section
include engine

@[spec] theorem enumerationOverride_sound (hook : Value) (what : String) :
    Sound m₀ (m₀.Backs hook) (enumerationOverride e hook what) := by
  apply Sound.intro
  mvcgen [enumerationOverride]
  all_goals grind

@[spec] theorem objectKeys_sound (o : ObjectId) : Sound m₀ True (objectKeys e o) := by
  apply Sound.intro
  mvcgen [objectKeys]
  all_goals grind

@[spec] theorem interfaceValue_sound (o : ObjectId) (key : Value) :
    Sound m₀ (m₀.Backs o ∧ m₀.Backs key) (interfaceValue e o key) := by
  apply Sound.intro
  mvcgen [interfaceValue]
  all_goals grind

@[spec] theorem objectValues_sound (o : ObjectId) :
    Sound m₀ (m₀.Backs o) (objectValues e o) := by
  have members (keys : List Value) (m : Machine) (backed : m.Backs o ∧ m.Backs keys) :
      Sound m True (keys.mapM (interfaceValue e o)) :=
    mapM_sound fun key mem m' evolved => (interfaceValue_sound engine o key).of
      ⟨backed.1.mono evolved, Machine.Backs.mono (backed.2 key mem) evolved⟩
  apply Sound.intro
  mvcgen [objectValues, members]
  all_goals grind

end

/-! ## Operators -/

@[spec] theorem raiseUndefined_fails {α : Type} (symbol : String) (operand : Value) :
    Fails m₀ True (raiseUndefined symbol operand : Action α) := raise_fails _

section
include engine

@[spec] theorem binaryOperation_sound (op : Operator) (l r : Value) :
    Sound m₀ (m₀.Backs l ∧ m₀.Backs r) (binaryOperation e op l r) := by
  apply Sound.intro
  mvcgen [binaryOperation]
  all_goals grind

@[spec] theorem unaryOperation_sound (op : Operator) (v : Value) :
    Sound m₀ (m₀.Backs v) (unaryOperation e op v) := by
  apply Sound.intro
  mvcgen [unaryOperation]
  all_goals grind

@[spec] theorem compoundAssignment_sound (a : Assignment) (current operand : Value) :
    Sound m₀ (m₀.Backs current ∧ m₀.Backs operand) (compoundAssignment e a current operand) := by
  apply Sound.intro
  mvcgen [compoundAssignment]
  all_goals grind

end

end

end StubMachine
