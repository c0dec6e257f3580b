import Mathlib
import StubMachine.Proofs.Evolution.Backing

/-!
# Sound actions

An action is **sound** if, started in a whole machine, it ends in a whole machine that has
evolved from it, and with a result that the machine backs.  Soundness is a triple: the state
before is given a name, so that what comes after can be compared with it.

This module proves the elementary actions sound.  Each operation of the machine is then
executed symbolically, with the soundness of what it is made of as specifications; what
remains to be shown is that the data it handles is backed, and that it changes the store
only under the conditions of `Machine.Change`.
-/

namespace StubMachine

open StubMachine.Action Std.Do

set_option mvcgen.warning false

grind_pattern Machine.Evolves.trans => m.Evolves m', m'.Evolves m''

section Soundness
variable [Latitude] {α : Type} [Refers α]

/-- What an action that evolves the machine ends with. -/
abbrev Proceeds (m₀ : Machine) : PostCond α (.except Failure (.arg Machine .pure)) :=
  post⟨fun a m => ⌜m₀.Evolves m ∧ m.Whole ∧ m.Backs a⌝, fun _ m => ⌜m₀.Evolves m ∧ m.Whole⌝⟩

/-- **Soundness** of an action in a state of which something is assumed. -/
abbrev Sound (m₀ : Machine) (assumed : Prop) (x : EStateM Failure Machine α) : Prop :=
  ⦃fun m => ⌜m = m₀ ∧ m.Whole ∧ assumed⌝⦄ x ⦃Proceeds m₀⦄

/-- Soundness of an action that never ends with a result. -/
abbrev Fails {α : Type} (m₀ : Machine) (assumed : Prop) (x : EStateM Failure Machine α) : Prop :=
  ⦃fun m => ⌜m = m₀ ∧ m.Whole ∧ assumed⌝⦄ x
  ⦃post⟨fun _ _ => ⌜False⌝, fun _ m => ⌜m₀.Evolves m ∧ m.Whole⌝⟩⦄

/-- The end of a sound action, as one property of its result and the two states.  A specification
that is about other states is not mistaken for it. -/
structure Ended (m₀ : Machine) (a : α) (m : Machine) : Prop where
  evolves : m₀.Evolves m
  whole : m.Whole
  backs : m.Backs a

attribute [grind] Ended

omit [Latitude] [Refers α] in
/-- A triple, told by what the action ends with. -/
theorem triple_iff {x : Action α} {P : Machine → Prop} {Q : α → Machine → Prop}
    {E : Failure → Machine → Prop} :
    ⦃fun m => ⌜P m⌝⦄ (x : EStateM Failure Machine α)
      ⦃post⟨fun a m => ⌜Q a m⌝, fun failure m => ⌜E failure m⌝⟩⦄ ↔
    ∀ m, P m → match x m with
      | .ok a m' => Q a m'
      | .error failure m' => E failure m' := by
  have ends (m : Machine) : (wp⟦(x : EStateM Failure Machine α)⟧
      post⟨fun a m => ⌜Q a m⌝, fun failure m => ⌜E failure m⌝⟩ m).down ↔
      match x m with
      | .ok a m' => Q a m'
      | .error failure m' => E failure m' := by
    simp only [wp, PredTrans.apply, EStateM.run]
    cases x m with
    | ok a m' => exact Iff.rfl
    | error failure m' => exact Iff.rfl
  constructor
  · intro h m holds
    exact (ends m).mp (h m holds)
  · intro h m holds
    exact (ends m).mpr (h m holds)

/-- Soundness, told by what the action ends with. -/
theorem sound_iff {m₀ : Machine} {assumed : Prop} {x : Action α} :
    Sound m₀ assumed x ↔ (m₀.Whole → assumed →
      match x m₀ with
      | .ok a m => m₀.Evolves m ∧ m.Whole ∧ m.Backs a
      | .error _ m => m₀.Evolves m ∧ m.Whole) := by
  rw [Sound, triple_iff]
  constructor
  · intro h whole holds
    exact h m₀ ⟨rfl, whole, holds⟩
  · rintro h m ⟨rfl, whole, holds⟩
    exact h whole holds

/-- How a sound action ends that is started later. -/
theorem Sound.after {m₀ m : Machine} {assumed : Prop} {x : Action α} (h : Sound m assumed x)
    (evolved : m₀.Evolves m) (whole : m.Whole) (holds : assumed) :
    match x m with
    | .ok a m' => m₀.Evolves m' ∧ m'.Whole ∧ m'.Backs a
    | .error _ m' => m₀.Evolves m' ∧ m'.Whole := by
  have ended := sound_iff.mp h whole holds
  cases run : x m with
  | ok a m' =>
    rw [run] at ended
    exact ⟨evolved.trans ended.1, ended.2⟩
  | error failure m' =>
    rw [run] at ended
    exact ⟨evolved.trans ended.1, ended.2⟩

theorem Sound.intro {m₀ : Machine} {assumed : Prop} {x : EStateM Failure Machine α}
    (h : ⦃fun m => ⌜m = m₀ ∧ m.Whole ∧ assumed⌝⦄ x
      ⦃post⟨fun a m => ⌜Ended m₀ a m⌝, fun _ m => ⌜Ended m₀ () m⌝⟩⦄) : Sound m₀ assumed x := by
  rw [sound_iff]
  intro whole holds
  have ends := triple_iff.mp h m₀ ⟨rfl, whole, holds⟩
  cases run : x m₀ with
  | ok a m =>
    rw [run] at ends
    exact ⟨ends.evolves, ends.whole, ends.backs⟩
  | error failure m =>
    rw [run] at ends
    exact ⟨ends.evolves, ends.whole⟩

theorem Fails.intro {α : Type} {m₀ : Machine} {assumed : Prop} {x : EStateM Failure Machine α}
    (h : ⦃fun m => ⌜m = m₀ ∧ m.Whole ∧ assumed⌝⦄ x
      ⦃post⟨fun _ _ => ⌜False⌝, fun _ m => ⌜Ended m₀ () m⌝⟩⦄) : Fails m₀ assumed x := by
  rw [Fails, triple_iff]
  intro m holds
  have ends := triple_iff.mp h m holds
  cases run : x m with
  | ok a m' =>
    rw [run] at ends
    exact ends
  | error failure m' =>
    rw [run] at ends
    exact ⟨ends.evolves, ends.whole⟩

end Soundness

/-! ## Filling objects -/

/-- Objects without a facet have none afterwards either. -/
def Machine.KeepsPlain (m m' : Machine) : Prop :=
  ∀ o, m.Backs o → (m.object o).facet = .plain → (m'.object o).facet = .plain

namespace Machine.KeepsPlain
variable {m m' m'' : Machine}

@[grind .] theorem refl (m : Machine) : m.KeepsPlain m := fun _ _ plain => plain

theorem trans [Latitude] (h : m.KeepsPlain m') (evolved : m.Evolves m') (h' : m'.KeepsPlain m'') :
    m.KeepsPlain m'' :=
  fun o backed plain => h' o (backed.mono evolved) (h o backed plain)

grind_pattern trans => m.KeepsPlain m', m'.KeepsPlain m'', m.Evolves m'

theorem facet (h : m.KeepsPlain m') {o : ObjectId} (backed : m.Backs o)
    (plain : (m.object o).facet = .plain) : (m'.object o).facet = .plain := h o backed plain

grind_pattern facet => m.KeepsPlain m', m'.object o

end Machine.KeepsPlain

section Filling
variable [Latitude] {α : Type} [Refers α] {m₀ : Machine} {assumed : Prop}
  {x : EStateM Failure Machine α}

/-- Soundness of an action that gives no object a facet. -/
abbrev Fills (m₀ : Machine) (assumed : Prop) (x : EStateM Failure Machine α) : Prop :=
  ⦃fun m => ⌜m = m₀ ∧ m.Whole ∧ assumed⌝⦄ x
  ⦃post⟨fun a m => ⌜m₀.Evolves m ∧ m.Whole ∧ m.Backs a ∧ m₀.KeepsPlain m⌝,
    fun _ m => ⌜m₀.Evolves m ∧ m.Whole⌝⟩⦄

theorem fills_iff {x : Action α} :
    Fills m₀ assumed x ↔ (m₀.Whole → assumed →
      match x m₀ with
      | .ok a m => m₀.Evolves m ∧ m.Whole ∧ m.Backs a ∧ m₀.KeepsPlain m
      | .error _ m => m₀.Evolves m ∧ m.Whole) := by
  rw [Fills, triple_iff]
  constructor
  · intro h whole holds
    exact h m₀ ⟨rfl, whole, holds⟩
  · rintro h m ⟨rfl, whole, holds⟩
    exact h whole holds

theorem Fills.intro (h : ⦃fun m => ⌜m = m₀ ∧ m.Whole ∧ assumed⌝⦄ x
      ⦃post⟨fun a m => ⌜Ended m₀ a m ∧ m₀.KeepsPlain m⌝, fun _ m => ⌜Ended m₀ () m⌝⟩⦄) :
    Fills m₀ assumed x := by
  rw [fills_iff]
  intro whole holds
  have ends := triple_iff.mp h m₀ ⟨rfl, whole, holds⟩
  cases run : x m₀ with
  | ok a m =>
    rw [run] at ends
    exact ⟨ends.1.evolves, ends.1.whole, ends.1.backs, ends.2⟩
  | error failure m =>
    rw [run] at ends
    exact ⟨ends.evolves, ends.whole⟩

end Filling

/-! ## Looking -/

@[spec] theorem read_spec {α : Type} (f : Machine → α)
    (Q : PostCond α (.except Failure (.arg Machine .pure))) :
    ⦃fun m => Q.1 (f m) m⦄ (Action.read f : EStateM Failure Machine α) ⦃Q⦄ :=
  fun _ h => h

@[spec] theorem objectAt_spec (o : ObjectId)
    (Q : PostCond Object (.except Failure (.arg Machine .pure))) :
    ⦃fun m => Q.1 (m.object o) m⦄ (objectAt o : EStateM Failure Machine Object) ⦃Q⦄ :=
  fun _ h => h

@[spec] theorem readFrame_spec {α : Type} (i : Nat) (f : Frame → α)
    (Q : PostCond α (.except Failure (.arg Machine .pure))) :
    ⦃fun m => Q.1 (f (m.frame i)) m⦄ (readFrame i f : EStateM Failure Machine α) ⦃Q⦄ :=
  fun _ h => h

@[spec] theorem isFunction_spec (v : Value)
    (Q : PostCond Bool (.except Failure (.arg Machine .pure))) :
    ⦃fun m => Q.1 (m.isFunction v) m⦄ (isFunction v : EStateM Failure Machine Bool) ⦃Q⦄ :=
  fun _ h => h

@[spec] theorem typeName_spec (v : Value)
    (Q : PostCond String (.except Failure (.arg Machine .pure))) :
    ⦃fun m => Q.1 (m.types.name (m.typeOf v)) m⦄ (typeName v : EStateM Failure Machine String) ⦃Q⦄ :=
  fun _ h => h

/-! ## Failing -/

section
variable [Latitude] {α β γ : Type} [Refers α] [Refers β] {m₀ : Machine}

@[spec] theorem throw_fails {α : Type} (failure : Failure) :
    Fails m₀ True (throw failure : EStateM Failure Machine α) := by
  rw [Fails, triple_iff]
  rintro m ⟨rfl, whole, -⟩
  exact ⟨.refl m, whole⟩

@[spec] theorem fail_fails {α : Type} (f : Fault) : Fails m₀ True (fail f : Action α) :=
  throw_fails _

theorem Fails.sound {x : EStateM Failure Machine α} {assumed : Prop} (h : Fails m₀ assumed x) :
    Sound m₀ assumed x := by
  apply Sound.intro
  mvcgen [h]
  all_goals grind

/-- What is assumed may be shown beforehand. -/
theorem Sound.of {x : EStateM Failure Machine α} {assumed : Prop} (h : Sound m₀ assumed x)
    (holds : assumed) : Sound m₀ True x := by
  rw [sound_iff] at h ⊢
  exact fun whole _ => h whole holds

theorem Fills.of {x : EStateM Failure Machine α} {assumed : Prop} (h : Fills m₀ assumed x)
    (holds : assumed) : Fills m₀ True x := by
  rw [fills_iff] at h ⊢
  exact fun whole _ => h whole holds

/-! ## Changing what is not in the store -/

@[spec] theorem signal_sound (kind : CatchableKind) (payload : Value) :
    Sound m₀ (m₀.Backs payload) (signal kind payload) := by
  rw [sound_iff]
  intro whole backed
  refine ⟨.change (.aside rfl), whole.aside rfl whole.slots whole.frames whole.natives ?_
    whole.lastUnhandled, trivial⟩
  rintro c ⟨⟩
  exact backed

@[spec] theorem updateFrame_sound (i : Nat) (f : Frame → Frame) :
    Sound m₀ (∀ frame, m₀.Backs frame → m₀.Backs (f frame)) (updateFrame i f) := by
  rw [sound_iff]
  intro whole change
  exact ⟨.change (.aside rfl), whole.aside rfl whole.slots
    (Machine.backs_modify whole.frames change) whole.natives whole.pending whole.lastUnhandled, trivial⟩

/-! ## Objects -/

/-- A store with one more object. -/
theorem Machine.Whole.added {m : Machine} (h : m.Whole) {object : Object} (newborn : object.Newborn m)
    (backed : m.Backs object) :
    m.Evolves { m with objects := m.objects.push object } ∧
      { m with objects := m.objects.push object : Machine }.Whole ∧
      { m with objects := m.objects.push object : Machine }.Backs (⟨m.objects.size + 1⟩ : ObjectId) := by
  have evolves : m.Evolves { m with objects := m.objects.push object } :=
    .change (.newborn object newborn backed rfl)
  refine ⟨evolves, h.evolved evolves ?_, ?_⟩
  · intro other mem
    rcases Array.mem_push.mp mem with old | rfl
    · exact Machine.Backs.mono (h.objects other old) evolves
    · exact Machine.Backs.mono backed evolves
  · rw [Machine.backs_objectId, Array.size_push]
    exact Nat.lt_succ_self _

@[spec] theorem newObject_spec (object : Object) :
    Fills m₀ (object.Newborn m₀ ∧ m₀.Backs object) (newObject object) := by
  rw [fills_iff]
  intro whole ⟨newborn, backed⟩
  obtain ⟨evolves, whole', backs⟩ := whole.added newborn backed
  refine ⟨evolves, whole', backs, fun o exists_ plain => ?_⟩
  rw [Machine.object_of_push rfl exists_]
  exact plain

/-- A store with one object changed. -/
theorem Machine.Whole.changed {m : Machine} (h : m.Whole) {o : ObjectId} {f : Object → Object}
    (change : (m.object o).Change m (f (m.object o))) (backed : m.Backs (f (m.object o))) :
    m.Evolves { m with objects := m.objects.modify (o.serial - 1) f } ∧
      { m with objects := m.objects.modify (o.serial - 1) f : Machine }.Whole := by
  have constant : m.objects.modify (o.serial - 1) f =
      m.objects.modify (o.serial - 1) fun _ => f (m.object o) := by
    refine Array.ext (by simp) fun i hi _ => ?_
    rw [Array.size_modify] at hi
    simp only [Array.getElem_modify]
    split
    · rename_i at_
      subst at_
      simp [Machine.object, Array.getD_eq_getD_getElem?, hi]
    · rfl
  have evolves : m.Evolves { m with objects := m.objects.modify (o.serial - 1) f } := by
    refine .change (.object o _ change backed ?_)
    rw [← constant]
    rfl
  refine ⟨evolves, h.evolved evolves ?_⟩
  have objects : m.Backs (m.objects.modify (o.serial - 1) f) := by
    rw [constant]
    exact Machine.backs_modify h.objects fun _ _ => backed
  exact objects.mono evolves

@[spec] theorem updateObject_spec (o : ObjectId) (f : Object → Object) :
    ⦃fun m => ⌜m = m₀ ∧ m.Whole ∧
      (m₀.object o).Change m₀ (f (m₀.object o)) ∧ m₀.Backs (f (m₀.object o))⌝⦄
      (updateObject o f : EStateM Failure Machine Unit)
    ⦃⇓ _ m => ⌜m₀.Evolves m ∧ m.Whole ∧
      ((f (m₀.object o)).facet = (m₀.object o).facet → m₀.KeepsPlain m) ∧
      (m₀.Backs o → m.object o = f (m₀.object o))⌝⦄ := by
  rintro m ⟨rfl, whole, change, backed⟩
  let m' : Machine := { m with objects := m.objects.modify (o.serial - 1) f }
  have modified (p : ObjectId) : m'.object p = m.object p ∨ (p.serial - 1 = o.serial - 1 ∧
      m.object p = m.object o ∧ m'.object p = f (m.object o)) := Machine.object_of_modify rfl p
  refine ⟨(whole.changed change backed).1, (whole.changed change backed).2, ?_, ?_⟩
  · intro same p exists_ plain
    rcases modified p with before | ⟨-, old, new⟩
    · exact (congrArg Object.facet before).trans plain
    · exact (congrArg Object.facet new).trans (same.trans (old ▸ plain))
  · intro exists_
    have stored : o.serial - 1 < m.objects.size := exists_
    simp [Machine.object, Array.getElem_modify, stored]

@[spec] theorem newBlank_spec :
    ⦃fun m => ⌜m = m₀ ∧ m.Whole⌝⦄ (newBlank : EStateM Failure Machine ObjectId)
    ⦃⇓ o m => ⌜m₀.Evolves m ∧ m.Whole ∧ m.Backs o ∧ m₀.KeepsPlain m ∧
      (m.object o).facet = .plain⌝⦄ := by
  rintro m ⟨rfl, whole⟩
  obtain ⟨evolves, whole', backs⟩ := whole.added (.map rfl rfl rfl) whole.blank
  refine ⟨evolves, whole', backs, fun o exists_ plain => ?_, ?_⟩
  · exact (congrArg Object.facet (Machine.object_of_push rfl exists_)).trans plain
  · simp [Machine.object]

@[spec] theorem newList_spec (values : Array Value) :
    Fills m₀ (m₀.Backs values) (newList values) := by
  apply Fills.intro
  mvcgen [newList]
  all_goals grind

@[spec] theorem newFunction_spec (f : FunctionFacet) : Fills m₀ (m₀.Backs f) (newFunction f) := by
  apply Fills.intro
  mvcgen [newFunction]
  all_goals grind

/-! ## Going through lists -/

theorem Sound.bind {x : EStateM Failure Machine α} {k : α → EStateM Failure Machine β}
    {assumed : Prop} (first : Sound m₀ assumed x)
    (next : ∀ a m, m₀.Evolves m → Sound m (m.Backs a) (k a)) : Sound m₀ assumed (x >>= k) := by
  apply Sound.intro
  mvcgen [first, next]
  all_goals grind

theorem Fills.bind {x : EStateM Failure Machine α} {k : α → EStateM Failure Machine β}
    {assumed : Prop} (first : Fills m₀ assumed x)
    (next : ∀ a m, m₀.Evolves m → m₀.KeepsPlain m → Fills m (m.Backs a) (k a)) :
    Fills m₀ assumed (x >>= k) := by
  have next' (a : α) (m : Machine) (reached : m₀.Evolves m ∧ m₀.KeepsPlain m) :=
    next a m reached.1 reached.2
  apply Fills.intro
  mvcgen [first, next']
  all_goals grind

theorem Sound.weaken {x : EStateM Failure Machine α} {assumed assumed' : Prop}
    (h : Sound m₀ assumed x) (implies : assumed' → assumed) : Sound m₀ assumed' x := by
  rw [sound_iff] at h ⊢
  exact fun whole holds => h whole (implies holds)

theorem Sound.assuming {x : EStateM Failure Machine α} (h : Sound m₀ True x) (assumed : Prop) :
    Sound m₀ assumed x := by
  rw [sound_iff] at h ⊢
  exact fun whole _ => h whole trivial

theorem Fills.assuming {x : EStateM Failure Machine α} (h : Fills m₀ True x) (assumed : Prop) :
    Fills m₀ assumed x := by
  rw [fills_iff] at h ⊢
  exact fun whole _ => h whole trivial

theorem pure_fills {γ : Type} [Inert γ] (a : γ) :
    Fills m₀ True (pure a : EStateM Failure Machine γ) := by
  apply Fills.intro
  mvcgen
  all_goals grind

theorem pure_sound {γ : Type} [Inert γ] (a : γ) :
    Sound m₀ True (pure a : EStateM Failure Machine γ) := by
  apply Sound.intro
  mvcgen
  all_goals grind

/-- Sound actions, one after the other. -/
theorem mapM_sound {f : γ → EStateM Failure Machine β} {l : List γ}
    (each : ∀ a ∈ l, ∀ m, m₀.Evolves m → Sound m True (f a)) : Sound m₀ True (l.mapM f) := by
  induction l generalizing m₀ with
  | nil =>
    apply Sound.intro
    mvcgen [List.mapM_nil]
    all_goals grind
  | cons a l ih =>
    apply Sound.intro
    have first := each a List.mem_cons_self m₀ (.refl m₀)
    have others : ∀ m, m₀.Evolves m → Sound m True (l.mapM f) := fun m evolved =>
      ih fun b mem m' evolved' => each b (List.mem_cons_of_mem _ mem) m' (evolved.trans evolved')
    simp only [List.mapM_cons]
    mvcgen [first, others]
    all_goals grind

/-- Going through a list whose elements need nothing besides being backed. -/
theorem mapM_each {f : γ → EStateM Failure Machine β} [Refers γ]
    (each : ∀ a m, Sound m (m.Backs a) (f a)) (l : List γ) :
    Sound m₀ (m₀.Backs l) (l.mapM f) := by
  rw [sound_iff]
  intro whole backed
  exact sound_iff.mp (mapM_sound fun a mem m evolved =>
    (each a m).of (Machine.Backs.mono (backed a mem) evolved)) whole trivial

theorem forM_sound {f : γ → EStateM Failure Machine PUnit} {l : List γ}
    (each : ∀ a ∈ l, ∀ m, m₀.Evolves m → Sound m True (f a)) : Sound m₀ True (l.forM f) := by
  induction l generalizing m₀ with
  | nil => exact pure_sound _
  | cons a l ih =>
    refine (each a List.mem_cons_self m₀ (.refl m₀)).bind fun _ m evolved => (ih ?_).assuming _
    exact fun b mem m' evolved' => each b (List.mem_cons_of_mem _ mem) m' (evolved.trans evolved')

theorem forIn_sound {f : γ → PUnit → EStateM Failure Machine (ForInStep PUnit)} {l : List γ}
    (each : ∀ a ∈ l, ∀ m, m₀.Evolves m → Sound m True (f a ⟨⟩)) :
    Sound m₀ True (forIn l ⟨⟩ f) := by
  induction l generalizing m₀ with
  | nil => exact pure_sound _
  | cons a l ih =>
    rw [List.forIn_cons]
    refine (each a List.mem_cons_self m₀ (.refl m₀)).bind fun next m evolved => ?_
    cases next with
    | done _ => exact (pure_sound _).assuming _
    | yield _ =>
      refine (ih fun b mem m' evolved' => ?_).assuming _
      exact each b (List.mem_cons_of_mem _ mem) m' (evolved.trans evolved')

theorem forIn_fills {f : γ → PUnit → EStateM Failure Machine (ForInStep PUnit)} {l : List γ}
    (each : ∀ a ∈ l, ∀ m, m₀.Evolves m → m₀.KeepsPlain m → Fills m True (f a ⟨⟩)) :
    Fills m₀ True (forIn l ⟨⟩ f) := by
  induction l generalizing m₀ with
  | nil => exact pure_fills _
  | cons a l ih =>
    rw [List.forIn_cons]
    refine (each a List.mem_cons_self m₀ (.refl m₀) (.refl m₀)).bind fun next m evolved plain => ?_
    cases next with
    | done _ => exact (pure_fills _).assuming _
    | yield _ =>
      refine (ih fun b mem m' evolved' plain' => ?_).assuming _
      exact each b (List.mem_cons_of_mem _ mem) m' (evolved.trans evolved')
        (plain.trans evolved plain')

theorem forM_fills {f : γ → EStateM Failure Machine PUnit} {l : List γ}
    (each : ∀ a ∈ l, ∀ m, m₀.Evolves m → m₀.KeepsPlain m → Fills m True (f a)) :
    Fills m₀ True (l.forM f) := by
  induction l generalizing m₀ with
  | nil => exact pure_fills _
  | cons a l ih =>
    refine (each a List.mem_cons_self m₀ (.refl m₀) (.refl m₀)).bind fun _ m evolved plain =>
      (ih fun b mem m' evolved' plain' => ?_).assuming _
    exact each b (List.mem_cons_of_mem _ mem) m' (evolved.trans evolved')
      (plain.trans evolved plain')

theorem foldlM_sound {f : β → γ → EStateM Failure Machine β} {l : List γ}
    (each : ∀ b, ∀ a ∈ l, ∀ m, m₀.Evolves m → Sound m (m.Backs b) (f b a)) (b : β) :
    Sound m₀ (m₀.Backs b) (l.foldlM f b) := by
  induction l generalizing m₀ b with
  | nil =>
    rw [List.foldlM_nil]
    apply Sound.intro
    mvcgen
    all_goals grind
  | cons a l ih =>
    rw [List.foldlM_cons]
    refine (each b a List.mem_cons_self m₀ (.refl m₀)).bind fun next m evolved => ih ?_ next
    exact fun b c mem m' evolved' =>
      each b c (List.mem_cons_of_mem _ mem) m' (evolved.trans evolved')

theorem filterM_sound {f : β → EStateM Failure Machine Bool} {l : List β}
    (each : ∀ a ∈ l, ∀ m, m₀.Evolves m → Sound m True (f a)) :
    Sound m₀ (m₀.Backs l) (l.filterM f) := by
  -- the recursion is on what is left, with what has been found carried along
  suffices kept : ∀ found : List β, Sound m₀ (m₀.Backs l ∧ m₀.Backs found) (l.filterAuxM f found) by
    have collected := kept []
    apply Sound.intro
    mvcgen [List.filterM, collected]
    all_goals grind
  intro found
  induction l generalizing m₀ found with
  | nil =>
    apply Sound.intro
    mvcgen [List.filterAuxM]
    all_goals grind
  | cons a l ih =>
    have first := each a List.mem_cons_self m₀ (.refl m₀)
    have others (found : List β) (m : Machine) (evolved : m₀.Evolves m) :
        Sound m (m.Backs l ∧ m.Backs found) (l.filterAuxM f found) :=
      ih (fun b mem m' evolved' =>
        each b (List.mem_cons_of_mem _ mem) m' (evolved.trans evolved')) found
    apply Sound.intro
    mvcgen [List.filterAuxM, first, others]
    all_goals grind

/-! ## Raising -/

theorem summary_raise (place : String × UInt32) : Sound m₀ True (newPlace place) := by
  apply Sound.intro
  mvcgen [newPlace]
  all_goals grind

@[spec] theorem newCallStack_sound : Sound m₀ True newCallStack := by
  apply Sound.intro
  have places (l : List (String × UInt32)) (m : Machine) : Sound m True (l.mapM newPlace) :=
    mapM_sound fun place _ m' _ => summary_raise place
  mvcgen [newCallStack, places]
  all_goals grind

@[spec] theorem signalError_sound (detail : Value) :
    Sound m₀ (m₀.Backs detail) (signalError detail) := by
  apply Sound.intro
  mvcgen [signalError]
  all_goals grind

@[spec] theorem raiseError_fails {α : Type} (detail : Value) :
    Fails m₀ (m₀.Backs detail) (raiseError detail : Action α) := by
  apply Fails.intro
  mvcgen [raiseError]
  all_goals grind

@[spec] theorem raise_fails {α : Type} (f : Fault) : Fails m₀ True (raise f : Action α) := by
  apply Fails.intro
  mvcgen [raise]
  all_goals grind

@[spec] theorem raiseSend_fails {α : Type} (payload : Value) :
    Fails m₀ (m₀.Backs payload) (raiseSend payload : Action α) := by
  apply Fails.intro
  mvcgen [raiseSend]
  all_goals grind

end

/-! ## Requests -/

/-- **A sound engine** carries out requests soundly. -/
def Engine.Sound [Latitude] (e : Engine) : Prop :=
  ∀ request m, StubMachine.Sound m (m.Backs request) (e.perform request)

section Requests
variable [Latitude] {m₀ : Machine} {e : Engine} (engine : e.Sound)
include engine

@[spec] theorem call_sound (function : Value) (arguments : Arguments) :
    Sound m₀ (m₀.Backs function ∧ m₀.Backs arguments) (e.call function arguments) := by
  have asked := engine (.call function arguments none) m₀
  rw [sound_iff] at asked ⊢
  intro whole ⟨backed, given⟩
  exact asked whole ⟨backed, given, Machine.backs_none⟩

@[spec] theorem callBound_sound (function : Value) (arguments : Arguments) (binding : Option Value) :
    Sound m₀ (m₀.Backs function ∧ m₀.Backs arguments ∧ m₀.Backs binding)
      (e.callBound function arguments binding) :=
  engine (.call function arguments binding) m₀

@[spec] theorem enter_sound (f : FunctionFacet) (parameters : Array Value)
    (restart : Option Restart) :
    Sound m₀ (m₀.Backs f ∧ m₀.Backs parameters ∧ m₀.Backs restart)
      (e.enter f parameters restart) :=
  engine (.enter f parameters restart) m₀

end Requests

end StubMachine
