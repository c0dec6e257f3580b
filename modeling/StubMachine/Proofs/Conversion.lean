import StubMachine.Proofs.Embedder
import StubMachine.Proofs.InTurn

/-!
# Conversions are sound

A value can become an instance of a type in three ways.  To the four types whose conversions have
rules of their own it is converted by these, which for an object ask its attribute set.  For any
other type it may be an instance already, and stays what it is; or its attribute set has a converter
for that type, and the converter returns an instance (`convertTo_other_iff`).  **Whatever comes out
is an instance of the type** (`conversion_sound`), in the state in which it comes out: a converter
is arbitrary code, which may also have changed what the types of objects are.
-/

namespace StubMachine

open StubMachine.Action

/-- The types whose conversions have rules of their own. -/
def ruledTypes : List TypeId :=
  [BuiltinType.number.id, BuiltinType.string.id, BuiltinType.boolean.id, BuiltinType.type.id]

/-- **An action ends as another does**, with the payload of what the other returns. -/
structure Action.PayloadOf {α : Type} (value : α → Value) (payload : Action α)
    (whole : Action Value) : Prop where
  result (m : Machine) (v : Value) (m' : Machine) :
    whole m = .ok v m' ↔ ∃ a, payload m = .ok a m' ∧ v = value a
  failure (m : Machine) (failure : Failure) (m' : Machine) :
    whole m = .error failure m' ↔ payload m = .error failure m'

theorem Action.payloadOf_bind {α : Type} (value : α → Value) (x : Action α) :
    PayloadOf value x (x >>= fun a => pure (value a)) := by
  refine ⟨fun m v m' => ?_, fun m failure m' => ?_⟩
  · rw [Action.bind_eq_ok]
    constructor
    · rintro ⟨a, m₁, ok, same⟩
      cases same
      exact ⟨a, ok, rfl⟩
    · rintro ⟨a, ok, rfl⟩
      exact ⟨a, m', ok, rfl⟩
  · rw [bind_eq_error]
    refine or_iff_left ?_
    rintro ⟨a, m₁, -, failed⟩
    cases failed

section
variable {e : Engine} {v r : Value} {t : TypeId} {m m' : Machine}

/-! ## To the types with rules of their own -/

theorem convertTo_number (e : Engine) (v : Value) :
    PayloadOf .number (asNumber e v) (convertTo e v BuiltinType.number.id) :=
  payloadOf_bind .number (asNumber e v)

theorem convertTo_string (e : Engine) (v : Value) :
    PayloadOf .string (asString e v) (convertTo e v BuiltinType.string.id) :=
  payloadOf_bind .string (asString e v)

theorem convertTo_boolean (e : Engine) (v : Value) :
    PayloadOf .boolean (asBoolean e v) (convertTo e v BuiltinType.boolean.id) :=
  payloadOf_bind .boolean (asBoolean e v)

theorem convertTo_type (e : Engine) (v : Value) :
    PayloadOf .type (read fun m => m.typeOf v) (convertTo e v BuiltinType.type.id) :=
  payloadOf_bind .type _

theorem convertTo_ruled (ruled : t ∈ ruledTypes) (ok : convertTo e v t m = .ok r m') :
    m'.isA r t = true := by
  simp only [ruledTypes, List.mem_cons, List.not_mem_nil, or_false] at ruled
  rcases ruled with rfl | rfl | rfl | rfl
  · obtain ⟨n, -, rfl⟩ := ((convertTo_number e v).result m r m').mp ok
    rfl
  · obtain ⟨s, -, rfl⟩ := ((convertTo_string e v).result m r m').mp ok
    rfl
  · obtain ⟨b, -, rfl⟩ := ((convertTo_boolean e v).result m r m').mp ok
    rfl
  · obtain ⟨t, -, rfl⟩ := ((convertTo_type e v).result m r m').mp ok
    rfl

/-! ## To any other type -/

/-- An error that names a type is raised, whatever the name. -/
theorem named_raise_ne_ok (look : Machine → String) (fault : String → Fault) (m : Machine)
    (r : Value) (m' : Machine) :
    (read look >>= fun wanted => raise (fault wanted)) m ≠ .ok r m' :=
  raise_ne_ok _ _ _ _

/-- What a converter of a value for a type returns, if it is an instance: the converter is found
in the attribute set of the value. -/
def ByConverter (e : Engine) (v : Value) (t : TypeId) (m : Machine) (r : Value) (m' : Machine) :
    Prop :=
  ∃ o converter, v = .object o ∧ m.attributeAt? o (.type t) = some converter ∧
    e.call converter [] m = .ok r m' ∧ m'.isA r t = true

/-- The answer of a converter counts if it is an instance. -/
theorem instance_iff {x : Action Value} :
    (do
      let v ← x
      if ← read fun m => m.isA v t then return some v else return none : Action _) m =
      .ok (some r) m' ↔ x m = .ok r m' ∧ m'.isA r t = true := by
  rw [Action.bind_eq_ok]
  have checked (v : Value) (m₁ : Machine) :
      (do if ← read fun m => m.isA v t then return some v else return none :
        Action (Option Value)) m₁ = if m₁.isA v t then .ok (some v) m₁ else .ok none m₁ := by
    show (if m₁.isA v t = true then pure (some v) else pure none : Action (Option Value)) m₁ = _
    split
    · rfl
    · rfl
  constructor
  · rintro ⟨v, m₁, answered, ok⟩
    rw [checked] at ok
    split at ok
    next inst =>
      cases ok
      exact ⟨answered, inst⟩
    next => cases ok
  · rintro ⟨answered, inst⟩
    exact ⟨r, m', answered, by rw [checked, if_pos inst]⟩

theorem convertByAttribute_iff :
    convertByAttribute e v t m = .ok (some r) m' ↔ ByConverter e v t m r m' := by
  cases v with
  | object o =>
    have look : read (fun m => m.attributeAt? o (.type t)) m = .ok (m.attributeAt? o (.type t)) m :=
      rfl
    show (read _ >>= _) m = _ ↔ _
    rw [Action.bind_ok look]
    cases found : m.attributeAt? o (.type t) with
    | none =>
      refine iff_of_false (fun ok => by cases ok) ?_
      rintro ⟨o', converter, same, held, -⟩
      cases same
      cases found.symm.trans held
    | some converter =>
      refine instance_iff.trans ⟨fun h => ⟨o, converter, rfl, found, h⟩, ?_⟩
      rintro ⟨o', converter', same, held, answered⟩
      cases same
      cases found.symm.trans held
      exact answered
  | _ =>
    refine iff_of_false (fun ok => by cases ok) ?_
    rintro ⟨o, converter, same, -⟩
    cases same

theorem id_of_ofId? {b : BuiltinType} (known : BuiltinType.ofId? t = some b) : b.id = t := by
  have found : BuiltinType.all.find? (fun b => b.id == t) = some b := known
  have same := Array.find?_some found
  exact eq_of_beq same

/-- For any other type, a value that is no instance is handed to its converter. -/
theorem convertTo_other (other : t ∉ ruledTypes) (e : Engine) (v : Value) (m : Machine) :
    ∃ next : Option Value → Action Value, (∀ r, next (some r) = pure r) ∧
      (∀ m r m', next none m ≠ .ok r m') ∧ convertTo e v t m =
        if m.isA v t then .ok v m else (convertByAttribute e v t >>= next) m := by
  have refused (m : Machine) (r : Value) (m' : Machine) :
      (read (fun m => m.types.name t) >>= fun wanted =>
        raise (.cannotConvert v.kind.name wanted) : Action Value) m ≠ .ok r m' :=
    named_raise_ne_ok _ _ _ _ _
  have ruled {b : BuiltinType} (known : BuiltinType.ofId? t = some b) (rule : b.id ∈ ruledTypes) :
      False := other (id_of_ofId? known ▸ rule)
  -- no rule is for this type, so only the attribute of the value is left
  have handed : ∃ next : Option Value → Action Value, (∀ r, next (some r) = pure r) ∧
      (∀ m r m', next none m ≠ .ok r m') ∧ convertTo e v t =
        read (fun m => m.isA v t) >>= fun inst =>
          if inst = true then pure v else convertByAttribute e v t >>= next := by
    delta convertTo
    cases known : BuiltinType.ofId? t with
    | none => exact ⟨_, fun r => rfl, refused, rfl⟩
    | some b =>
      cases b with
      | number | string | boolean | type => exact (ruled known (by decide)).elim
      | _ => exact ⟨_, fun r => rfl, refused, rfl⟩
  obtain ⟨next, returned, refused, eq⟩ := handed
  refine ⟨next, returned, refused, ?_⟩
  have look : read (fun m => m.isA v t) m = .ok (m.isA v t) m := rfl
  rw [eq, Action.bind_ok look]
  split
  · rfl
  · rfl

/-- **A value becomes an instance of any other type** by being one, or through a converter of its
own. -/
theorem convertTo_other_iff (other : t ∉ ruledTypes) :
    convertTo e v t m = .ok r m' ↔
      m.isA v t = true ∧ r = v ∧ m' = m ∨ m.isA v t = false ∧ ByConverter e v t m r m' := by
  obtain ⟨next, returned, refused, eq⟩ := convertTo_other other e v m
  rw [eq]
  cases inst : m.isA v t with
  | true =>
    constructor
    · intro ok
      cases ok
      exact .inl ⟨rfl, rfl, rfl⟩
    · rintro (⟨-, rfl, rfl⟩ | ⟨no, -⟩)
      · rfl
      · cases no
  | false =>
    rw [if_neg Bool.false_ne_true, Action.bind_eq_ok]
    constructor
    · rintro ⟨converted?, m₁, asked, ok⟩
      cases converted? with
      | none => exact absurd ok (refused m₁ r m')
      | some converted =>
        rw [returned] at ok
        cases ok
        exact .inr ⟨rfl, convertByAttribute_iff.mp asked⟩
    · rintro (⟨no, -⟩ | ⟨-, by_⟩)
      · cases no
      · exact ⟨some r, m', convertByAttribute_iff.mpr by_, by rw [returned]; rfl⟩

theorem convertTo_instance (ok : convertTo e v t m = .ok r m') : m'.isA r t = true := by
  by_cases ruled : t ∈ ruledTypes
  · exact convertTo_ruled ruled ok
  · rcases (convertTo_other_iff ruled).mp ok with ⟨inst, rfl, rfl⟩ | ⟨-, by_⟩
    · exact inst
    · obtain ⟨o, converter, -, -, -, inst⟩ := by_
      exact inst

/-! ## Calling a type -/

/-- Calling a type with a value is converting the value. -/
theorem callType_single {name : String} (named : name = "" ∨ name = "from") :
    callType e t [(name, v)] = convertTo e v t := by
  rw [callType, if_pos (by simpa using named)]

theorem callType_instance {arguments : Arguments} (ok : callType e t arguments m = .ok r m') :
    m'.isA r t = true := by
  have refused : (read (fun m => m.types.name t) >>= fun wanted =>
      raise (.converterArguments wanted) : Action Value) m ≠ .ok r m' :=
    named_raise_ne_ok _ _ _ _ _
  rcases arguments with - | ⟨⟨name, v⟩, - | ⟨second, more⟩⟩
  · exact absurd ok refused
  · by_cases named : name = "" ∨ name = "from"
    · rw [callType_single named] at ok
      exact convertTo_instance ok
    · rw [callType, if_neg (by simpa using named)] at ok
      exact absurd ok refused
  · exact absurd ok refused

/-- The call of a type while one more call is under way. -/
theorem perform_type (host : Host) (fuel : Nat) (t : TypeId) (arguments : Arguments)
    (binding : Option Value) :
    perform host (fuel + 1) (.call (.type t) arguments binding) =
      underway (callType (.ofHost host fuel) t arguments) := rfl

theorem underway_ok {x : Action Value} (ok : underway x m = .ok r m') :
    ∃ m₁, x { m with reentry := m.reentry + 1 } = .ok r m₁ ∧
      m' = { m₁ with reentry := m₁.reentry - 1 } := by
  rw [underway_eq, finally_] at ok
  cases ran : x { m with reentry := m.reentry + 1 } with
  | ok v m₁ =>
    rw [ran] at ok
    cases ok
    exact ⟨m₁, rfl, rfl⟩
  | error failure m₁ =>
    rw [ran] at ok
    cases ok

end

/-- **Conversions are sound.**  What a value is converted to is an instance of the type, and so is
what the type returns that is called with it, whatever converters there are and whatever they do.  A
value that is an instance already of a type without rules of its own stays what it is, and nothing
is executed, so nothing changes.  A number, a text or a truth value is the payload of the converted
value, and fails where the conversion fails.  An error or a signal that escapes from a converter ends
the conversion without a result. -/
theorem conversion_sound :
    (∀ (e : Engine) (v r : Value) (t : TypeId) (m m' : Machine),
      convertTo e v t m = .ok r m' → m'.isA r t = true) ∧
    (∀ (host : Host) (fuel : Nat) (t : TypeId) (arguments : Arguments) (binding : Option Value)
      (r : Value) (m m' : Machine),
      perform host fuel (.call (.type t) arguments binding) m = .ok r m' → m'.isA r t = true) ∧
    (∀ (v : Value) (t : TypeId) (m : Machine), t ∉ ruledTypes → m.isA v t = true →
      (∀ e : Engine, convertTo e v t m = .ok v m) ∧
      ∀ (host : Host) (fuel : Nat) (name : String) (binding : Option Value),
        name = "" ∨ name = "from" →
        perform host (fuel + 1) (.call (.type t) [(name, v)] binding) m = .ok v m) ∧
    ∀ (e : Engine) (v : Value),
      PayloadOf .number (asNumber e v) (convertTo e v BuiltinType.number.id) ∧
      PayloadOf .string (asString e v) (convertTo e v BuiltinType.string.id) ∧
      PayloadOf .boolean (asBoolean e v) (convertTo e v BuiltinType.boolean.id) := by
  refine ⟨fun e v r t m m' => convertTo_instance, ?called, ?already, fun e v =>
    ⟨convertTo_number e v, convertTo_string e v, convertTo_boolean e v⟩⟩
  case called =>
    intro host fuel t arguments binding r m m' ok
    cases fuel with
    | zero => cases ok
    | succ fuel =>
      rw [perform_type] at ok
      obtain ⟨m₁, answered, rfl⟩ := underway_ok ok
      have inst : m₁.isA r t = true := callType_instance answered
      exact inst
  case already =>
    intro v t m other inst
    have stays (e : Engine) (m : Machine) (inst : m.isA v t = true) : convertTo e v t m = .ok v m :=
      (convertTo_other_iff other).mpr (.inl ⟨inst, rfl, rfl⟩)
    refine ⟨fun e => stays e m inst, fun host fuel name binding named => ?_⟩
    rw [perform_type, callType_single named, underway_eq, finally_,
      stays _ { m with reentry := m.reentry + 1 } inst]
    rfl

/-- The first object has a converter to a created type, which answers with the third; and called
with the third, the type returns it. -/
theorem conversion_sound_created :
    let t : TypeId := ⟨10⟩
    let m := { Machine.initial .standard with
      objects := #[{ Object.blank with attributes := some ⟨2⟩ },
        { Object.blank with types := OrderedMap.empty.insert t (.boolean true) },
        Object.ofType t .plain] }
    let e : Engine := ⟨0, fun _ => pure (.object ⟨3⟩)⟩
    convertTo e (.object ⟨1⟩) t m = .ok (.object ⟨3⟩) m ∧ m.isA (.object ⟨3⟩) t = true ∧
      t ∉ ruledTypes ∧ perform .complaining 1 (.call (.type t) [("from", .object ⟨3⟩)] none) m =
        .ok (.object ⟨3⟩) m := by
  intro t m e
  obtain ⟨sound, called, already, -⟩ := conversion_sound
  have other : t ∉ ruledTypes := by decide
  have stays : perform .complaining 1 (.call (.type t) [("from", .object ⟨3⟩)] none) m =
      .ok (.object ⟨3⟩) m := (already (.object ⟨3⟩) t m other rfl).2 .complaining 0 "from" none
    (.inr rfl)
  have stranger : m.isA (.object ⟨1⟩) t = false := by
    show TypeTable.initial.objectIsA BuiltinType.object.id false ⟨10⟩ = false
    decide +kernel
  have entered : (OrderedMap.empty.insert t (Value.boolean true)).get? t =
      some (.boolean true) := by
    rw [OrderedMap.get?_insert, if_pos rfl]
  have held : m.attributeAt? ⟨1⟩ (.type t) = some (.boolean true) := by
    show ((OrderedMap.empty.insert t (Value.boolean true)).get? t).bind Value.nonEmpty? = _
    rw [entered]
    rfl
  have converted : convertTo e (.object ⟨1⟩) t m = .ok (.object ⟨3⟩) m :=
    (convertTo_other_iff other).mpr (.inr ⟨stranger, ⟨1⟩, .boolean true, rfl, held, rfl,
      called .complaining 1 t _ none _ m m stays⟩)
  exact ⟨converted, sound e _ _ t m m converted, other, stays⟩

end StubMachine
