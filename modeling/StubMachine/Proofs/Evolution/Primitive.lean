import StubMachine.Machine.Calling
import StubMachine.Proofs.Evolution.Module
import StubMachine.Proofs.Evolution.Native
import StubMachine.Proofs.Evolution.Text

/-!
# Primitives and calls evolve the store

-/

namespace StubMachine

open StubMachine.Action Std.Do

set_option mvcgen.warning false

namespace Native

/-! ## Primitives -/

section
variable [L : Latitude] {m₀ : Machine} (args : Array Value)

@[spec] theorem printed_sound (text : String) :
    Sound m₀ True (update fun m => { m with events := m.events.push (.printed text) }) := by
  rw [sound_iff]
  intro whole _
  have asked : { m₀ with events := m₀.events.push (.printed text) : Machine }.asked = m₀.asked :=
    Machine.asked_told rfl fun _ => nofun
  have same := congrArg (Estate.mk m₀.types m₀.objects m₀.modules · m₀.files m₀.history) asked
  exact ⟨.change (.aside same), { whole with }, trivial⟩

@[spec] theorem handedOut_sound (name : String) :
    Sound m₀ True (update fun m => { m with externals := m.externals.erase name }) := by
  rw [sound_iff]
  intro whole _
  exact ⟨.change (.aside rfl), { whole with }, trivial⟩

@[spec] theorem externalFunction_sound : Sound m₀ (m₀.Backs args) (externalFunction args) := by
  apply Sound.intro
  mvcgen [externalFunction]
  all_goals grind

@[spec] theorem random_sound (host : Host) : Sound m₀ True (random host) := by
  rw [sound_iff]
  intro whole _
  exact ⟨.change (.aside rfl), { whole with }, Machine.backs_number _⟩

@[spec] theorem parentOf_sound (v : Value) : Sound m₀ (m₀.Backs v) (parentOf v) := by
  apply Sound.intro
  mvcgen [parentOf]
  all_goals grind

@[spec] theorem layoutEntryOf_sound (entry : String × Value) :
    Sound m₀ (m₀.Backs entry) (layoutEntryOf entry) := by
  apply Sound.intro
  mvcgen [layoutEntryOf]
  all_goals grind

@[spec] theorem layoutOf_sound (v : Value) : Sound m₀ (m₀.Backs v) (layoutOf v) := by
  apply Sound.intro
  mvcgen [layoutOf, mapM_each]
  all_goals grind [Machine.backs_mapOfList]

/-- A store with one more type. -/
theorem madeType {m : Machine} (whole : m.Whole) {name : String} {parents : Option (List TypeId)}
    {layout : Option Layout} {t : TypeId} {types : TypeTable}
    (made : m.types.create name parents layout = .ok (t, types)) :
    m.Evolves { m with types } ∧ { m with types : Machine }.Whole ∧
      { m with types : Machine }.Backs t := by
  obtain ⟨rfl, merged, -, pushed⟩ := TypeTable.create_ok made
  have one : types.records.size = m.types.records.size + 1 :=
    (congrArg Array.size pushed).trans (Array.size_push _)
  have evolves : m.Evolves { m with types } := .change (.type made rfl)
  refine ⟨evolves, ?_, ?_⟩
  · exact {
      builtins := Nat.le_trans whole.builtins (one ▸ Nat.le_succ _)
      objects := whole.objects.mono evolves
      slots := whole.slots.mono evolves
      frames := whole.frames.mono evolves
      modules := fun name v known => (whole.modules name v known).mono evolves
      natives := whole.natives.mono evolves
      pending := whole.pending.mono evolves
      lastUnhandled := whole.lastUnhandled.mono evolves }
  · exact ⟨Nat.le_add_left _ _, Nat.le_of_eq one.symm⟩

@[spec] theorem madeType_spec (types : TypeTable) :
    ⦃fun m => ⌜m = m₀ ∧ m.Whole ∧
      ∃ name parents layout t, m₀.types.create name parents layout = .ok (t, types)⌝⦄
      (update fun m => { m with types } : EStateM Failure Machine Unit)
    ⦃⇓ _ m => ⌜m₀.Evolves m ∧ m.Whole ∧ ∀ name parents layout t,
      m₀.types.create name parents layout = .ok (t, types) → m.Backs t⌝⦄ := by
  rintro m ⟨rfl, whole, name, parents, layout, t, made⟩
  have ⟨evolves, whole', _⟩ := madeType whole made
  exact ⟨evolves, whole', fun _ _ _ _ made => (madeType whole made).2.2⟩

@[spec] theorem instantiate_sound : Sound m₀ (m₀.Backs args) (instantiate args) := by
  apply Sound.intro
  mvcgen [instantiate]
  all_goals grind

variable {e : Engine} (engine : e.Sound)
include engine

@[spec] theorem print_sound : Sound m₀ (m₀.Backs args) (print e args) := by
  apply Sound.intro
  mvcgen [print]
  all_goals grind

@[spec] theorem parseNumber_sound : Sound m₀ (m₀.Backs args) (parseNumber e args) := by
  refine ((asString_sound engine _).weaken fun backed => backs_argument backed 0).bind
    fun text m _ => ?_
  cases Literal.read? (Text.trim text) with
  | some n =>
    apply Sound.intro
    mvcgen
    all_goals grind
  | none =>
    apply Sound.intro
    mvcgen
    all_goals grind

@[spec] theorem combine_sound : Sound m₀ (m₀.Backs args) (combine e args) := by
  apply Sound.intro
  mvcgen [combine, mapM_each]
  all_goals grind

@[spec] theorem parentsOf_sound (v : Value) : Sound m₀ (m₀.Backs v) (parentsOf e v) := by
  apply Sound.intro
  mvcgen [parentsOf, mapM_each]
  all_goals grind

@[spec] theorem newType_sound : Sound m₀ (m₀.Backs args) (newType e args) := by
  apply Sound.intro
  mvcgen [newType]
  all_goals grind

@[spec] theorem runPrimitive_sound (host : Host) (p : Primitive) :
    Sound m₀ (m₀.Backs args) (runPrimitive host e args p) := by
  apply Sound.intro
  mvcgen [runPrimitive]
  all_goals grind

omit engine in
@[spec] theorem isA_sound : Sound m₀ (m₀.Backs args) (isA args) := by
  apply Sound.intro
  mvcgen [isA]
  all_goals grind

@[spec] theorem atan2_sound : Sound m₀ (m₀.Backs args) (atan2 e args) := by
  apply Sound.intro
  mvcgen [atan2]
  all_goals grind

@[spec] theorem runQuery_sound (q : Query) : Sound m₀ (m₀.Backs args) (runQuery e args q) := by
  apply Sound.intro
  mvcgen [runQuery]
  all_goals grind

end

end Native

/-- The functions that the embedder adds are sound. -/
def Host.Sound [L : Latitude] (host : Host) : Prop :=
  ∀ handle args e m, e.Sound → StubMachine.Sound m (m.Backs args) (host.native handle e args)

/-! ## Binding -/

theorem backs_suppliedArguments {m : Machine} {f : FunctionFacet} {arguments : Arguments}
    (hf : m.Backs f) (given : m.Backs arguments) : m.Backs (suppliedArguments f arguments) := by
  intro argument mem
  rcases List.mem_append.mp mem with listed | bound
  · exact given argument listed
  · obtain ⟨base, at_, rfl⟩ := Option.map_eq_some_iff.mp (Option.mem_toList.mp bound)
    exact ⟨trivial, hf base at_⟩

theorem backs_bindPrivate {m : Machine} {s : Stub} {binding : Option Value} {parameters : Array Value}
    (hb : m.Backs binding) (h : m.Backs parameters) : m.Backs (bindPrivate s binding parameters) := by
  fun_cases bindPrivate s binding parameters with
  | case1 i v => exact Machine.backs_setIfInBounds h (hb v rfl) i
  | case2 => exact h

theorem backs_bindNamed {m : Machine} {s : Stub} {supplied : Arguments} (h : m.Backs supplied) :
    m.Backs (bindNamed s supplied) := by
  intro parameters named
  have none : m.Backs (none : Option Value) := Machine.backs_none
  obtain ⟨bound, backed, rfl⟩ := bindNamed_ok named (P := m.Backs)
    (Machine.backs_replicate none s.arity) fun given b b' argument mem backed one => by
      unfold bindOne at one
      split at one
      · cases one
      · split at one
        · cases one
          exact Machine.backs_setIfInBounds backed (fun v eq => Option.some.inj eq ▸ (h argument mem).2) _
        · cases one
  intro v mem
  obtain ⟨v?, listed, rfl⟩ := Array.mem_map.mp mem
  exact Machine.backs_ofOption (backed v? listed)

/-- What the arguments of a call are bound to. -/
theorem backs_bound {m : Machine} {f : FunctionFacet} {arguments : Arguments} (hf : m.Backs f)
    (given : m.Backs arguments) : m.Backs (bindNamed f.stub (suppliedArguments f arguments)) :=
  backs_bindNamed (backs_suppliedArguments hf given)

grind_pattern backs_bound => m.Backs f, bindNamed f.stub (suppliedArguments f arguments)

/-- The bag of arguments is a map like any other. -/
theorem newborn_argumentBag (m : Machine) (supplied : Arguments) :
    (argumentBag supplied).Newborn m := by
  have map : (argumentBag supplied).type = BuiltinType.object.id ∧
      (argumentBag supplied).facet = .plain ∧ (argumentBag supplied).attributes = none :=
    argumentBag_induction (P := fun bag =>
        bag.type = BuiltinType.object.id ∧ bag.facet = .plain ∧ bag.attributes = none)
      ⟨rfl, rfl, rfl⟩ (fun _ _ _ kept => kept) fun _ _ _ kept => kept
  exact .map map.1 map.2.1 map.2.2

theorem backs_argumentBag {m : Machine} (whole : m.Whole) {supplied : Arguments}
    (h : m.Backs supplied) : m.Backs (argumentBag supplied) :=
  argumentBag_induction (P := fun bag => m.Backs bag) whole.blank
    (fun _ a mem backed => Machine.backs_push backed (h a mem).2)
    fun _ a mem backed => Machine.backs_setText backed (h a mem).2

/-! ## Calling -/

/-- A failure does not undo what was done. -/
theorem not_undone (m m₀ : Machine) :
    EStateM.Backtrackable.restore m (EStateM.Backtrackable.save m₀) = m := rfl

section
variable [L : Latitude] {m₀ : Machine}

@[spec] theorem bindArguments_sound (f : FunctionFacet) (arguments : Arguments) (binding : Option Value) :
    Sound m₀ (m₀.Backs f ∧ m₀.Backs arguments ∧ m₀.Backs binding)
      (bindArguments f arguments binding) := by
  apply Sound.intro
  mvcgen [bindArguments]
  all_goals grind [backs_suppliedArguments, backs_bindPrivate, newborn_argumentBag,
    backs_argumentBag]

@[spec] theorem checkParameters_sound (f : FunctionFacet) (parameters : Array Value) :
    Sound m₀ True (checkParameters f parameters) := by
  apply Sound.intro
  mvcgen [checkParameters]
  all_goals grind

@[spec] theorem checkResult_sound (f : FunctionFacet) (v : Value) :
    Sound m₀ (m₀.Backs v) (checkResult f v) := by
  apply Sound.intro
  mvcgen [checkResult]
  all_goals grind

@[spec] theorem raiseFailure_sound (failure : Failure) : Sound m₀ True (raiseFailure failure) := by
  apply Sound.intro
  mvcgen [raiseFailure]
  all_goals grind

variable {e : Engine} (engine : e.Sound) {host : Host} (hosted : host.Sound)
include engine

@[spec] theorem callType_sound (t : TypeId) (arguments : Arguments) :
    Sound m₀ (m₀.Backs arguments) (callType e t arguments) := by
  apply Sound.intro
  mvcgen [callType]
  all_goals grind

include hosted

@[spec] theorem run_sound (args : Array Value) (body : NativeBody) :
    Sound m₀ (m₀.Backs args) (Native.run host e args body) := by
  cases body with
  | primitive p => exact Native.runPrimitive_sound args engine host p
  | query q => exact Native.runQuery_sound args engine q
  | hosted handle => exact hosted handle args e m₀ engine

@[spec] theorem callNative_sound (stub : Stub) (args : Array Value) :
    Sound m₀ (m₀.Backs args) (callNative host e stub args) := by
  apply Sound.intro
  mvcgen [callNative]
  all_goals grind [not_undone]

@[spec] theorem callFacet_sound (f : FunctionFacet) (arguments : Arguments) (binding : Option Value) :
    Sound m₀ (m₀.Backs f ∧ m₀.Backs arguments ∧ m₀.Backs binding)
      (callFacet host e f arguments binding) := by
  apply Sound.intro
  mvcgen [callFacet]
  all_goals grind

/-- **Calling a value evolves the store.** -/
@[spec] theorem callValue_sound (function : Value) (arguments : Arguments) (binding : Option Value) :
    Sound m₀ (m₀.Backs function ∧ m₀.Backs arguments ∧ m₀.Backs binding)
      (callValue host e function arguments binding) := by
  apply Sound.intro
  mvcgen [callValue]
  all_goals grind

end

end StubMachine
