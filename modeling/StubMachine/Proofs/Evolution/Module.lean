import StubMachine.Machine.Asking
import StubMachine.Machine.Listen
import StubMachine.Proofs.Evolution.Member
import StubMachine.Proofs.Raising

/-!
# Modules, native function objects and listeners evolve the store

-/

namespace StubMachine

open StubMachine.Action Std.Do

set_option mvcgen.warning false

namespace Machine

/-- Being told something is not being asked for a module. -/
theorem asked_told {m m' : Machine} {event : HostEvent} (told : m'.events = m.events.push event)
    (other : ∀ name, event ≠ .fetched name) : m'.asked = m.asked := by
  unfold asked
  rw [told, Array.toList_push, List.filterMap_append]
  cases event with
  | fetched name => exact absurd rfl (other name)
  | printed text => exact List.append_nil _
  | unhandled error => exact List.append_nil _

theorem asked_fetched {m m' : Machine} {name : String}
    (asked : m'.events = m.events.push (.fetched name)) : m'.asked = m.asked ++ [name] := by
  unfold Machine.asked
  rw [asked, Array.toList_push, List.filterMap_append]
  rfl

namespace Evolves
variable [L : Latitude] {m m₁ m₂ m₃ m₄ : Machine} {name : String} {v : Value}

theorem asks (unknown : m.modules[name]? = none) (asked : m.Asks name m₁) : m.Evolves m₁ :=
  .change (.asks name unknown asked)

grind_pattern asks => m.modules[name]?, m.Asks name m₁

omit L in
theorem delivers (asked : m.Asks name m₁) (loaded : m₁.Loads name m₂) : m.Delivers name m₂ := by
  have files : m₁.files = m.files := congrArg (·.files) asked
  have history : m₁.history = m.history.push (.asked name) := congrArg (·.history) asked
  rw [Delivers, loaded, asked, files, history]

theorem delivered (unknown : m.modules[name]? = none) (asked : m.Asks name m₁)
    (loaded : m₁.Loads name m₂) : m.Evolves m₂ :=
  .change (.delivery name unknown (delivers asked loaded))

grind_pattern delivered => m.modules[name]?, m.Asks name m₁, m₁.Loads name m₂

/-- **Importing a module**: it is asked for, loaded and run, and its result is kept. -/
theorem imports (unknown : m.modules[name]? = none) (asked : m.Asks name m₁)
    (loaded : m₁.Loads name m₂) (ran : m₂.Evolves m₃) (kept : m₃.Keeps .imported name v m₄) :
    m.Evolves m₄ :=
  .imported name v unknown (delivers asked loaded) ran kept

grind_pattern imports => m.Asks name m₁, m₁.Loads name m₂, m₂.Evolves m₃, m₃.Keeps .imported name v m₄

theorem loads (allowed : L.runs name) (loaded : m.Loads name m₁) : m.Evolves m₁ :=
  .change (.loads name allowed loaded)

grind_pattern loads => L.runs name, m.Loads name m₁

theorem keeps (allowed : L.runs name) (kept : m.Keeps .ran name v m₁) : m.Evolves m₁ :=
  .change (.keeps name v allowed kept)

grind_pattern keeps => L.runs name, m.Keeps .ran name v m₁

theorem recalls (known : m.modules[name]? = some v) (recalled : m.Recalls name v m₁) :
    m.Evolves m₁ :=
  .change (.recalls name v known recalled)

grind_pattern recalls => m.modules[name]?, m.Recalls name v m₁

end Evolves

end Machine

theorem Machine.Whole.quieted {m : Machine} (h : m.Whole) : m.quieted.Whole :=
  { h with pending := Machine.backs_none }

/-- The handler in a response is one of its entries. -/
theorem backs_handler? {m : Machine} (whole : m.Whole) (response : Value) (kind : CatchableKind) :
    m.Backs (handler? m response kind) := by
  cases response with
  | object o =>
    have entry (name : String) : m.Backs (((m.object o).text? name).bind Value.nonEmpty?) := by
      intro v found
      obtain ⟨w, at_, nonEmpty⟩ := Option.bind_eq_some_iff.mp found
      exact Machine.backs_nonEmpty? (Machine.backs_text (whole.object o) name w at_) v nonEmpty
    refine Machine.backs_or (entry "onSend") ?_
    split
    · exact entry "onError"
    · exact Machine.backs_none
  | _ => exact Machine.backs_none

section
variable {m₀ : Machine}

/-! ## Loading -/

@[spec] theorem fetch_spec (host : Host) (name : String) :
    ⦃fun m => ⌜m = m₀ ∧ m.Whole⌝⦄ (fetch host name : EStateM Failure Machine (List UInt8))
    ⦃post⟨fun _ m => ⌜m₀.Asks name m ∧ m.Whole⌝, fun _ m => ⌜m₀.Asks name m ∧ m.Whole⌝⟩⦄ := by
  rw [triple_iff]
  rintro m ⟨rfl, whole⟩
  let m' : Machine :=
    { m with events := m.events.push (.fetched name), history := m.history.push (.asked name) }
  have asks : m.Asks name m' := by
    have asked : m'.asked = m.asked ++ [name] := Machine.asked_fetched rfl
    rw [Machine.Asks, Machine.estate, asked]
    rfl
  have whole' : m'.Whole := { whole with }
  unfold fetch
  cases host.fetch m.events name with
  | ok bytes => exact ⟨asks, whole'⟩
  | error detail => exact ⟨asks, whole'⟩

@[spec] theorem load_spec (name : String) (bytes : List UInt8) :
    ⦃fun m => ⌜m = m₀ ∧ m.Whole⌝⦄ (load name bytes : EStateM Failure Machine UInt32)
    ⦃post⟨fun _ m => ⌜m₀.Loads name m ∧ m.Whole⌝, fun _ m => ⌜m = m₀⌝⟩⦄ := by
  rw [triple_iff]
  rintro m ⟨rfl, whole⟩
  unfold load
  dsimp only
  by_cases full : UInt32.size ≤ m.files.size
  · rw [if_pos full]
  rw [if_neg full]
  cases Record.readAll (UInt32.ofNat m.files.size) bytes with
  | error f => rfl
  | ok found =>
    by_cases entry : found.any (·.id == 0)
    · simp only [entry, if_true]
      exact ⟨rfl, { whole with }⟩
    · simp only [entry]
      rfl

@[spec] theorem keepModule_spec (origin : String → Value → ModuleEvent) (name : String) (v : Value) :
    ⦃fun m => ⌜m = m₀ ∧ m.Whole ∧ m₀.Backs v⌝⦄
      (keepModule origin name v : EStateM Failure Machine Unit)
    ⦃⇓ _ m => ⌜m₀.Keeps origin name v m ∧ m.Whole ∧ m.Backs v⌝⦄ := by
  rintro m ⟨rfl, whole, backed⟩
  refine ⟨rfl, { whole with modules := fun name' w known => ?_ }, backed⟩
  rw [Std.HashMap.getElem?_insert] at known
  split at known
  · cases known
    exact backed
  · exact whole.modules name' w known

@[spec] theorem recallModule_spec (name : String) (v : Value) :
    ⦃fun m => ⌜m = m₀ ∧ m.Whole ∧ m₀.Backs v⌝⦄
      (recallModule name v : EStateM Failure Machine Value)
    ⦃⇓ w m => ⌜m₀.Recalls name v m ∧ m.Whole ∧ m.Backs w⌝⦄ := by
  rintro m ⟨rfl, whole, backed⟩
  exact ⟨rfl, { whole with }, backed⟩

end

section
variable [L : Latitude] {m₀ : Machine}

/-! ## Settling -/

/-- Whatever a sound action ends with, it is sound to settle it. -/
theorem settle_sound {x : Action Value} {assumed : Prop} (h : Sound m₀ assumed x) :
    Sound m₀ assumed (settle x) := by
  rw [sound_iff] at h ⊢
  intro whole holds
  have ended := h whole holds
  rcases settle_cases x m₀ with same | ⟨failure, m, run, -, settled⟩
  · rw [same]
    exact ended
  · rw [run] at ended
    obtain ⟨evolved, whole⟩ := ended
    have quieted : m₀.Evolves m.quieted := evolved.trans (.change (.aside rfl))
    rcases settled with ⟨c, -, pending, -, sent⟩ | ⟨c, -, pending, -, told⟩ | ⟨-, failed⟩
    · rw [sent]
      exact ⟨quieted, whole.quieted, whole.pending c pending⟩
    · rw [told]
      have asked : (m.reported c).asked = m.asked := Machine.asked_told rfl fun _ => nofun
      have same : (m.reported c).estate = m.estate :=
        congrArg (Estate.mk m.types m.objects m.modules · m.files m.history) asked
      refine ⟨evolved.trans (.change (.aside same)), { whole with
        pending := Machine.backs_none
        lastUnhandled := fun v eq => ?_ }⟩
      cases eq
      exact whole.pending c pending
    · rw [failed]
      exact ⟨quieted, whole.quieted⟩

/-! ## Native functions as objects -/

theorem shareNative_sound (id : Nat) (o : ObjectId) :
    Sound m₀ (m₀.Backs o) (update fun m =>
      { m with natives := m.natives.modify id fun n => { n with value := some o } }) := by
  rw [sound_iff]
  intro whole backed
  refine ⟨.change (.aside rfl), { whole with natives := ?_ }, trivial⟩
  have natives : m₀.Backs (m₀.natives.modify id fun n => { n with value := some o }) := by
    refine Machine.backs_modify whole.natives fun native _ p eq => ?_
    cases eq
    exact backed
  exact natives

@[spec] theorem nativeValue_sound (id : Nat) : Sound m₀ True (nativeValue id) := by
  have shared := @shareNative_sound
  apply Sound.intro
  mvcgen [nativeValue, shared]
  all_goals grind

@[spec] theorem boundNative_sound (id : Nat) (base : Value) :
    Sound m₀ (m₀.Backs base) (boundNative id base) := by
  apply Sound.intro
  mvcgen [boundNative]
  all_goals grind

variable {e : Engine} (engine : e.Sound)
include engine

@[spec] theorem runFile_sound (file : UInt32) : Sound m₀ True (runFile e file) := by
  apply Sound.intro
  mvcgen [runFile]
  all_goals grind

theorem settledRun_sound (file : UInt32) : Sound m₀ True (settle (runFile e file)) :=
  settle_sound (runFile_sound engine file)

/-- **Importing a module evolves the store.** -/
@[spec] theorem importModule_sound (host : Host) (name : String) :
    Sound m₀ True (importModule host e name) := by
  apply Sound.intro
  mvcgen [importModule, runAs, settledRun_sound]
  all_goals grind

/-- **Running a module evolves the store**, for an embedder that may run it. -/
@[spec] theorem runModule_sound (name : String) (bytes : List UInt8) :
    Sound m₀ (L.runs name) (runModule e name bytes) := by
  apply Sound.intro
  mvcgen [runModule, runAs, settledRun_sound]
  all_goals grind

/-- Calling a function from outside. -/
theorem callFunction_sound (function : Value) (arguments : Arguments) :
    Sound m₀ (m₀.Backs function ∧ m₀.Backs arguments) (callFunction e function arguments) :=
  settle_sound (call_sound engine function arguments)

/-! ## Listening -/

theorem respond_sound (response : Value) (c : Catchable) :
    Sound m₀ (m₀.Backs c) (respond e response c) := by
  rw [sound_iff]
  intro whole backed
  rw [respond_eq]
  cases found : handler? m₀ response c.kind with
  | some handler =>
    refine sound_iff.mp (call_sound engine handler [("message", c.payload)]) whole ⟨?_, ?_⟩
    · exact backs_handler? whole response c.kind handler found
    · intro argument mem
      cases List.mem_singleton.mp mem
      exact ⟨trivial, backed⟩
  | none =>
    cases c.kind with
    | send => exact ⟨.refl m₀, whole, backed⟩
    | error =>
      exact ⟨.change (.aside rfl), { whole with pending := fun _ eq => Option.some.inj eq ▸ backed }⟩

@[spec] theorem listen_sound (function response : Value) :
    Sound m₀ (m₀.Backs function) (listen e function response) := by
  rw [sound_iff]
  intro whole backed
  have called := sound_iff.mp (call_sound engine function []) whole
    ⟨backed, fun _ mem => nomatch mem⟩
  cases run : e.call function [] m₀ with
  | ok v m =>
    rw [run] at called
    rw [listen_ok run]
    exact called
  | error failure m =>
    rw [run] at called
    obtain ⟨evolved, whole⟩ := called
    -- only what is on its way up is caught; other failures are handed on
    by_cases raised : failure = .unwinding
    · subst raised
      cases pending : m.pending with
      | none =>
        rw [listen, run]
        simp only [pending]
        exact ⟨evolved, whole⟩
      | some c =>
        rw [listen_unwinding run pending]
        have quieted : m₀.Evolves m.quieted := evolved.trans (.change (.aside rfl))
        exact (respond_sound engine response c).after quieted whole.quieted (whole.pending c pending)
    · rw [listen_failure run raised]
      exact ⟨evolved, whole⟩

/-! ## Asking -/

omit engine in
@[spec] theorem raiseBase_sound (q : Query) (wanted : String) (base : Value) :
    Sound m₀ True (raiseBase q wanted base) := by
  apply Sound.intro
  mvcgen [raiseBase]
  all_goals grind

@[spec] theorem askObject_sound (q : Query) (o : ObjectId) :
    Sound m₀ (m₀.Backs o) (askObject e q o) := by
  apply Sound.intro
  mvcgen [askObject]
  all_goals grind

@[spec] theorem askImmediate_sound (q : Query) (base : Value) :
    Sound m₀ (m₀.Backs base) (askImmediate e q base) := by
  apply Sound.intro
  mvcgen [askImmediate]
  all_goals grind

@[spec] theorem ask_sound (base : Value) (id : Nat) : Sound m₀ (m₀.Backs base) (ask e base id) := by
  apply Sound.intro
  mvcgen [ask]
  all_goals grind

end

end StubMachine
