import StubMachine.Proofs.Evolution
import StubMachine.Proofs.OrderedMap

/-!
# No reference dangles

A value that is an object or a type is only its number.  A machine **backs** a piece of data
if every object and every type that the data refers to exists in its store.  Since none is
ever lost, what a machine backs, it backs for good.

A machine is **whole** if it backs everything that it holds itself: the entries and types of
its objects, the variables, the value stacks, the results of modules, what is pending.  That
whole machines stay whole is shown together with how they evolve; this module collects what
it means, kind of data by kind of data.
-/

namespace StubMachine

namespace Machine

section Backs
variable {m m' : Machine} {α β : Type} [Refers α] [Refers β]

/-- **What is backed stays backed.** -/
theorem Backs.mono [Latitude] {a : α} (h : m.Backs a) (evolved : m.Evolves m') : m'.Backs a :=
  Refers.mono h evolved.extent_le

grind_pattern Backs.mono => m.Backs a, m.Evolves m'

/-! ### Kind by kind -/

@[grind .] theorem backs_inert {γ : Type} [Inert γ] (a : γ) : m.Backs a := trivial

@[grind =] theorem backs_objectId (o : ObjectId) : m.Backs o ↔ o.serial - 1 < m.objects.size := Iff.rfl

@[grind =] theorem backs_option (a? : Option α) : m.Backs a? ↔ ∀ a, a? = some a → m.Backs a := Iff.rfl

theorem backs_none : m.Backs (none : Option α) := by
  rintro _ ⟨⟩

@[grind =] theorem backs_list (l : List α) : m.Backs l ↔ ∀ a ∈ l, m.Backs a := Iff.rfl

@[grind .] theorem backs_nil : m.Backs ([] : List α) := fun _ mem => nomatch mem

@[grind =] theorem backs_cons (a : α) (l : List α) : m.Backs (a :: l) ↔ m.Backs a ∧ m.Backs l := by
  constructor
  · intro h
    exact ⟨h a List.mem_cons_self, fun b mem => h b (List.mem_cons_of_mem _ mem)⟩
  · rintro ⟨first, others⟩ b mem
    rcases List.mem_cons.mp mem with rfl | mem
    · exact first
    · exact others b mem

@[grind =] theorem backs_array (as : Array α) : m.Backs as ↔ ∀ a ∈ as, m.Backs a := Iff.rfl

@[grind =] theorem backs_prod (a : α) (b : β) : m.Backs (a, b) ↔ m.Backs a ∧ m.Backs b := Iff.rfl

@[grind =] theorem backs_ok {ε : Type} (a : α) : m.Backs (.ok a : Except ε α) ↔ m.Backs a := by
  constructor
  · intro h
    exact h a rfl
  · rintro h _ ⟨⟩
    exact h

@[grind .] theorem backs_error {ε : Type} (e : ε) : m.Backs (.error e : Except ε α) := by
  rintro _ ⟨⟩

/-! ### Values -/

@[grind =] theorem backs_object (o : ObjectId) : m.Backs (Value.object o) ↔ m.Backs o := Iff.rfl

@[grind =] theorem backs_type (t : TypeId) : m.Backs (Value.type t) ↔ m.Backs t := Iff.rfl

@[grind .] theorem backs_empty : m.Backs Value.empty := trivial

@[grind .] theorem backs_boolean (b : Bool) : m.Backs (Value.boolean b) := trivial

@[grind .] theorem backs_number (n : Float) : m.Backs (Value.number n) := trivial

@[grind .] theorem backs_string (s : String) : m.Backs (Value.string s) := trivial

@[grind .] theorem backs_ofNat (n : Nat) : m.Backs (Value.ofNat n) := backs_number _

theorem backs_ofOption {v? : Option Value} (h : m.Backs v?) : m.Backs (Value.ofOption v?) := by
  cases v? with
  | none => exact backs_empty
  | some v => exact h v rfl

grind_pattern backs_ofOption => m.Backs v?, Value.ofOption v?

theorem backs_or {α : Type} [Refers α] {a? b? : Option α} (ha : m.Backs a?) (hb : m.Backs b?) :
    m.Backs (a?.or b?) := by
  cases a? with
  | none => exact hb
  | some a => exact ha

grind_pattern backs_or => m.Backs (a?.or b?)

theorem backs_filter {α : Type} [Refers α] {a? : Option α} (h : m.Backs a?) (p : α → Bool) :
    m.Backs (a?.filter p) := fun a kept => h a (Option.filter_eq_some_iff.mp kept).1

grind_pattern backs_filter => m.Backs a?, a?.filter p

theorem backs_headD {values : List Value} (h : m.Backs values) : m.Backs (values.headD .empty) := by
  cases values with
  | nil => exact backs_empty
  | cons v _ => exact h v List.mem_cons_self

grind_pattern backs_headD => m.Backs values, values.headD .empty

theorem backs_nonEmpty? {v : Value} (h : m.Backs v) : m.Backs v.nonEmpty? := by
  rintro w eq
  cases v with
  | empty => cases eq
  | _ =>
    cases eq
    exact h

grind_pattern backs_nonEmpty? => m.Backs v, v.nonEmpty?

theorem backs_mapObject {o? : Option ObjectId} (h : m.Backs o?) :
    m.Backs (o?.map Value.object) := by
  intro v eq
  obtain ⟨o, at_, rfl⟩ := Option.map_eq_some_iff.mp eq
  exact (backs_object o).mpr (h o at_)

grind_pattern backs_mapObject => m.Backs o?, o?.map Value.object

/-- A key refers to what its value refers to. -/
theorem backs_key {v : Value} {k : Key} (h : m.Backs v) (stands : Key.ofValue v = .ok k) :
    m.Backs k := by
  cases v with
  | object o =>
    cases stands
    exact h
  | type t =>
    cases stands
    exact h
  | number n =>
    simp only [Key.ofValue] at stands
    split at stands
    · cases stands
    · cases stands
      exact trivial
  | string s =>
    cases stands
    exact trivial
  | boolean b =>
    cases stands
    exact trivial
  | empty => cases stands

/-! ### Members, functions and facets -/

@[grind =] theorem backs_method (function : Value) : m.Backs (Member.method function) ↔ m.Backs function :=
  Iff.rfl

@[grind =] theorem backs_accessor (getter setter : Option Value) :
    m.Backs (Member.accessor getter setter) ↔ m.Backs getter ∧ m.Backs setter := Iff.rfl

@[grind =] theorem backs_functionFacet (f : FunctionFacet) : m.Backs f ↔ m.Backs f.boundBase := Iff.rfl

@[grind .] theorem backs_ofStub (stub : Stub) : m.Backs (FunctionFacet.ofStub stub) := by
  rintro _ ⟨⟩

@[grind =] theorem backs_plain : m.Backs Facet.plain ↔ True := Iff.rfl

@[grind =] theorem backs_record (layout : Layout) : m.Backs (Facet.record layout) ↔ True := Iff.rfl

/-- The facet of an instance. -/
@[grind .] theorem backs_instanceFacet (layout? : Option Layout) :
    m.Backs (layout?.elim Facet.plain Facet.record) := by
  cases layout? with
  | none => exact trivial
  | some layout => exact trivial

@[grind =] theorem backs_function (f : FunctionFacet) : m.Backs (Facet.function f) ↔ m.Backs f := Iff.rfl

@[grind =] theorem backs_interface (members : OrderedMap String Member) (binding : Option Value) :
    m.Backs (Facet.interface members binding) ↔ m.Backs members ∧ m.Backs binding := Iff.rfl

/-! ### Frames and requests -/

@[grind =] theorem backs_frame (f : Frame) : m.Backs f ↔ m.Backs f.stack ∧ m.Backs f.restart := Iff.rfl

@[grind =] theorem backs_entries (keys values : Array Value) (index : Nat) :
    m.Backs (Restart.entries keys values index) ↔ m.Backs keys ∧ m.Backs values := Iff.rfl

@[grind .] theorem backs_count (current stop step : Float) (bindsCounter : Bool) :
    m.Backs (Restart.count current stop step bindsCounter) := trivial

@[grind .] theorem backs_forever : m.Backs Restart.forever := trivial

@[grind =] theorem backs_catchable (c : Catchable) : m.Backs c ↔ m.Backs c.payload := Iff.rfl

@[grind =] theorem backs_native (native : Native) : m.Backs native ↔ m.Backs native.value := Iff.rfl

@[grind =] theorem backs_memberRoute (name : String) (member : Option Member)
    (binding : Option Value) :
    m.Backs (Route.member name member binding) ↔ m.Backs member ∧ m.Backs binding := Iff.rfl

@[grind .] theorem backs_recordRoute (declared : Option TypeId) : m.Backs (Route.record declared) :=
  trivial

@[grind .] theorem backs_plainRoute : m.Backs Route.plain := trivial

@[grind .] theorem backs_next : m.Backs Flow.next := trivial

@[grind =] theorem backs_done (v : Value) : m.Backs (Flow.done v) ↔ m.Backs v := Iff.rfl

@[grind =] theorem backs_call (function : Value) (arguments : Arguments) (binding : Option Value) :
    m.Backs (Request.call function arguments binding) ↔
      m.Backs function ∧ m.Backs arguments ∧ m.Backs binding := Iff.rfl

@[grind =] theorem backs_enter (f : FunctionFacet) (parameters : Array Value)
    (restart : Option Restart) : m.Backs (Request.enter f parameters restart) ↔
      m.Backs f ∧ m.Backs parameters ∧ m.Backs restart := Iff.rfl

theorem backs_setIfInBounds {as : Array α} {a : α} (h : m.Backs as) (ha : m.Backs a) (i : Nat) :
    m.Backs (as.setIfInBounds i a) := by
  intro b mem
  rcases Array.mem_or_eq_of_mem_setIfInBounds mem with old | rfl
  · exact h b old
  · exact ha

grind_pattern backs_setIfInBounds => m.Backs (as.setIfInBounds i a)

theorem backs_replicate {a : α} (ha : m.Backs a) (count : Nat) :
    m.Backs (Array.replicate count a) := by
  intro b mem
  rw [(Array.mem_replicate.mp mem).2]
  exact ha

grind_pattern backs_replicate => m.Backs (Array.replicate count a)

theorem backs_pop {as : Array α} (h : m.Backs as) : m.Backs as.pop := by
  intro a mem
  obtain ⟨i, hi, rfl⟩ := Array.mem_iff_getElem.mp mem
  rw [Array.getElem_pop]
  exact h _ (Array.getElem_mem _)

grind_pattern backs_pop => m.Backs as.pop

theorem backs_back? {as : Array α} (h : m.Backs as) : m.Backs as.back? :=
  fun a last => h a (Array.mem_of_back? last)

grind_pattern backs_back? => m.Backs as, as.back?

theorem backs_zip {as : List α} {bs : List β} (ha : m.Backs as) (hb : m.Backs bs) :
    m.Backs (as.zip bs) :=
  fun p mem => ⟨ha p.1 (List.of_mem_zip mem).1, hb p.2 (List.of_mem_zip mem).2⟩

grind_pattern backs_zip => m.Backs (as.zip bs)

theorem backs_extract {as : Array α} (h : m.Backs as) (start stop : Nat) :
    m.Backs (as.extract start stop) := by
  intro a mem
  obtain ⟨i, hi, rfl⟩ := Array.mem_iff_getElem.mp mem
  rw [Array.getElem_extract]
  exact h _ (Array.getElem_mem _)

grind_pattern backs_extract => m.Backs (as.extract start stop)

/-- Changing an element of an array that is backed. -/
theorem backs_modify {as : Array α} {i : Nat} {f : α → α} (h : m.Backs as)
    (change : ∀ a, m.Backs a → m.Backs (f a)) : m.Backs (as.modify i f) := by
  intro a mem
  obtain ⟨j, hj, rfl⟩ := Array.mem_iff_getElem.mp mem
  have old := h _ (Array.getElem_mem (by simpa using hj))
  rw [Array.getElem_modify]
  split
  · exact change _ old
  · exact old

theorem backs_insertIdx {as : Array α} {a : α} (h : m.Backs as) (ha : m.Backs a) (i : Nat) :
    m.Backs (as.insertIdxIfInBounds i a) := by
  unfold Array.insertIdxIfInBounds
  split
  · intro b mem
    rcases Array.mem_insertIdx.mp mem with rfl | old
    · exact ha
    · exact h b old
  · exact h

grind_pattern backs_insertIdx => m.Backs (as.insertIdxIfInBounds i a)

end Backs

/-! ## Maps -/

section Maps
variable {m : Machine} {K V : Type} [BEq K] [Hashable K] [Refers K] [Refers V]

theorem backs_map_iff (entries : OrderedMap K V) :
    m.Backs entries ↔ ∀ e ∈ entries.entries, m.Backs e.1 ∧ m.Backs e.2 := by
  show (∀ e ∈ entries.entries.toList, _) ↔ _
  simp only [Array.mem_toList_iff]
  exact Iff.rfl

theorem backs_toList {entries : OrderedMap K V} (h : m.Backs entries) : m.Backs entries.toList := h

grind_pattern backs_toList => m.Backs entries, entries.toList

@[grind .] theorem backs_emptyMap : m.Backs (OrderedMap.empty : OrderedMap K V) := by
  rw [backs_map_iff]
  intro e mem
  cases Array.not_mem_empty e mem

/-- What is found in a map is one of its values. -/
theorem backs_mapGet {entries : OrderedMap K V} (h : m.Backs entries) (k : K) :
    m.Backs (entries.get? k) := by
  rw [backs_map_iff] at h
  intro v found
  unfold OrderedMap.get? at found
  split at found
  · obtain ⟨e, at_, rfl⟩ := Option.map_eq_some_iff.mp found
    exact (h e (Array.mem_of_getElem? at_)).2
  · cases found

grind_pattern backs_mapGet => m.Backs entries, entries.get? k

theorem backs_mapInsert [LawfulBEq K] [LawfulHashable K] {entries : OrderedMap K V} {k : K} {v : V}
    (h : m.Backs entries) (hk : m.Backs k) (hv : m.Backs v) : m.Backs (entries.insert k v) := by
  intro e mem
  rcases OrderedMap.mem_insert mem with old | rfl
  · exact h e old
  · exact ⟨hk, hv⟩

theorem backs_mapErase [LawfulBEq K] [LawfulHashable K] {entries : OrderedMap K V} (k : K)
    (h : m.Backs entries) : m.Backs (entries.erase k) :=
  fun e mem => h e (OrderedMap.mem_erase mem).1

theorem backs_mapEraseAll [LawfulBEq K] [LawfulHashable K] {W : Type} (others : List (K × W))
    {entries : OrderedMap K V} (h : m.Backs entries) :
    m.Backs (others.foldl (fun left e => left.erase e.1) entries) := by
  induction others generalizing entries with
  | nil => exact h
  | cons e others ih => exact ih (backs_mapErase e.1 h)

theorem backs_mapOfList [LawfulBEq K] [LawfulHashable K] {entries : List (K × V)}
    (h : m.Backs entries) : m.Backs (OrderedMap.ofList entries) := by
  unfold OrderedMap.ofList
  suffices grown : ∀ found : OrderedMap K V, m.Backs found →
      m.Backs (entries.foldl (fun m e => m.insert e.1 e.2) found) from grown _ backs_emptyMap
  induction entries with
  | nil => exact fun found hf => hf
  | cons e entries ih =>
    intro found hf
    have first := h e List.mem_cons_self
    exact ih (fun a mem => h a (List.mem_cons_of_mem _ mem)) _ (backs_mapInsert hf first.1 first.2)

end Maps

/-! ## Objects -/

section Objects
variable {m : Machine} {object : Object}

theorem backs_objectRecord : m.Backs object ↔
    (m.Backs object.strings ∧ m.Backs object.indices ∧ m.Backs object.booleans ∧
      m.Backs object.objects ∧ m.Backs object.types) ∧ m.Backs object.facet ∧
      m.Backs object.attributes ∧ m.Backs object.type := Iff.rfl

@[grind =] theorem backs_mk (type : TypeId) (strings : OrderedMap String Value)
    (indices : Array Value) (booleans : List (Bool × Value)) (objects : OrderedMap ObjectId Value)
    (types : OrderedMap TypeId Value) (facet : Facet) (attributes : Option ObjectId) :
    m.Backs (Object.mk type strings indices booleans objects types facet attributes) ↔
      (m.Backs strings ∧ m.Backs indices ∧ m.Backs booleans ∧ m.Backs objects ∧ m.Backs types) ∧
        m.Backs facet ∧ m.Backs attributes ∧ m.Backs type := Iff.rfl

@[grind .] theorem backs_ofType {t : TypeId} {facet : Facet} (type : m.Backs t)
    (h : m.Backs facet) : m.Backs (Object.ofType t facet) := by
  rw [backs_objectRecord]
  refine ⟨⟨backs_emptyMap, ?_, ?_, backs_emptyMap, backs_emptyMap⟩, h, ?_, type⟩
  · intro v mem
    cases Array.not_mem_empty v mem
  · intro v mem
    cases mem
  · intro a eq
    cases eq

theorem backs_builtin (builtins : BuiltinType.all.size ≤ m.types.records.size) (b : BuiltinType) :
    m.Backs b.id := by
  have few : 1 ≤ b.id.number ∧ b.id.number ≤ BuiltinType.all.size := by cases b <;> decide
  exact ⟨few.1, Nat.le_trans few.2 builtins⟩

/-- The builtin types exist. -/
theorem Whole.builtin (whole : m.Whole) (b : BuiltinType) : m.Backs b.id :=
  backs_builtin whole.builtins b

grind_pattern Whole.builtin => m.Whole, b.id

/-- The number of a builtin type is that of a type that exists. -/
theorem Whole.numbered (whole : m.Whole) {t : TypeId} {b : BuiltinType}
    (named : BuiltinType.ofId? t = some b) : m.Backs t := by
  have same : b.id = t := by simpa using Array.find?_some named
  exact same ▸ whole.builtin b

grind_pattern Whole.numbered => m.Whole, BuiltinType.ofId? t, some b

theorem Whole.blank (whole : m.Whole) : m.Backs Object.blank :=
  backs_ofType (whole.builtin .object) trivial

grind_pattern Whole.blank => m.Whole, Object.blank

variable (h : m.Backs object)
include h

theorem backs_indices : m.Backs object.indices := h.1.2.1

grind_pattern backs_indices => m.Backs object, object.indices

theorem backs_facet : m.Backs object.facet := h.2.1

grind_pattern backs_facet => m.Backs object, object.facet

theorem backs_attributes : m.Backs object.attributes := h.2.2.1

grind_pattern backs_attributes => m.Backs object, object.attributes

theorem backs_typeOf : m.Backs object.type := h.2.2.2

grind_pattern backs_typeOf => m.Backs object, object.type

theorem backs_strings : m.Backs object.strings := h.1.1

grind_pattern backs_strings => m.Backs object, object.strings

theorem backs_booleans : m.Backs object.booleans := h.1.2.2.1

grind_pattern backs_booleans => m.Backs object, object.booleans

theorem backs_objects : m.Backs object.objects := h.1.2.2.2.1

grind_pattern backs_objects => m.Backs object, object.objects

theorem backs_types : m.Backs object.types := h.1.2.2.2.2

grind_pattern backs_types => m.Backs object, object.types

theorem backs_objectGet (k : Key) : m.Backs (object.get? k) := by
  cases k with
  | string s => exact backs_mapGet h.1.1 s
  | index i =>
    intro v at_
    exact h.1.2.1 v (Array.mem_of_getElem? at_)
  | boolean b =>
    intro v found
    obtain ⟨e, at_, rfl⟩ := Option.map_eq_some_iff.mp found
    exact (h.1.2.2.1 e (List.mem_of_find?_eq_some at_)).2
  | object o => exact backs_mapGet h.1.2.2.2.1 o
  | type t => exact backs_mapGet h.1.2.2.2.2 t

grind_pattern backs_objectGet => m.Backs object, object.get? k

theorem backs_text (name : String) : m.Backs (object.text? name) :=
  backs_mapGet h.1.1 name

grind_pattern backs_text => m.Backs object, object.text? name

theorem backs_function? : m.Backs object.function? := by
  intro f function
  unfold Object.function? at function
  split at function
  · rename_i facet
    cases function
    have := h.2.1
    rwa [facet] at this
  · cases function

grind_pattern backs_function? => m.Backs object, object.function?

/-! ### Writing -/

theorem backs_setIndices {values : Array Value} (new : m.Backs values) :
    m.Backs { object with indices := values } := ⟨⟨h.1.1, new, h.1.2.2⟩, h.2⟩

theorem backs_setIndex {v : Value} (hv : m.Backs v) (i : Nat) :
    m.Backs (Object.setIndex object.indices i v) := by
  intro w mem
  unfold Object.setIndex at mem
  split at mem
  · rcases Array.mem_or_eq_of_mem_setIfInBounds mem with old | rfl
    · exact h.1.2.1 w old
    · exact hv
  · rcases Array.mem_push.mp mem with old | rfl
    · rcases Array.mem_append.mp old with old | filled
      · exact h.1.2.1 w old
      · rw [Array.mem_replicate] at filled
        exact filled.2 ▸ backs_empty
    · exact hv

omit h in
theorem backs_setBoolean {b : Bool} {v : Value} {entries : List (Bool × Value)}
    (h : m.Backs entries) (hv : m.Backs v) : m.Backs (Object.setBoolean b v entries) := by
  induction entries with
  | nil =>
    intro e mem
    rw [List.mem_singleton.mp mem]
    exact ⟨trivial, hv⟩
  | cons e rest ih =>
    obtain ⟨k, w⟩ := e
    have first := h _ List.mem_cons_self
    have others : m.Backs rest := fun a mem => h a (List.mem_cons_of_mem _ mem)
    rw [Object.setBoolean]
    split
    · intro a mem
      rcases List.mem_cons.mp mem with rfl | old
      · exact ⟨first.1, hv⟩
      · exact others a old
    · intro a mem
      rcases List.mem_cons.mp mem with rfl | old
      · exact first
      · exact ih others a old

theorem backs_set {k : Key} {v : Value} (hk : m.Backs k) (hv : m.Backs v) :
    m.Backs (object.set k v) := by
  obtain ⟨⟨strings, indices, booleans, objects, types⟩, rest⟩ := h
  cases k with
  | string s => exact ⟨⟨backs_mapInsert strings trivial hv, indices, booleans, objects, types⟩, rest⟩
  | index i =>
    have kept : m.Backs object := ⟨⟨strings, indices, booleans, objects, types⟩, rest⟩
    exact ⟨⟨strings, backs_setIndex kept hv i, booleans, objects, types⟩, rest⟩
  | boolean b => exact ⟨⟨strings, indices, backs_setBoolean booleans hv, objects, types⟩, rest⟩
  | object o =>
    exact ⟨⟨strings, indices, booleans, backs_mapInsert objects hk hv, types⟩, rest⟩
  | type t => exact ⟨⟨strings, indices, booleans, objects, backs_mapInsert types hk hv⟩, rest⟩

grind_pattern backs_set => m.Backs (object.set k v)

theorem backs_setText {name : String} {v : Value} (hv : m.Backs v) :
    m.Backs (object.setText name v) := backs_set h (k := .string name) trivial hv

grind_pattern backs_setText => m.Backs (object.setText name v)

theorem backs_remove (k : Key) : m.Backs (object.remove k) := by
  obtain ⟨⟨strings, indices, booleans, objects, types⟩, rest⟩ := h
  cases k with
  | string s => exact ⟨⟨backs_mapErase s strings, indices, booleans, objects, types⟩, rest⟩
  | index i =>
    refine ⟨⟨strings, fun v mem => indices v ?_, booleans, objects, types⟩, rest⟩
    simp only [Object.remove, Array.eraseIdxIfInBounds] at mem
    split at mem
    · exact Array.mem_of_mem_eraseIdx mem
    · exact mem
  | boolean b =>
    exact ⟨⟨strings, indices, fun e mem => booleans e (List.mem_of_mem_eraseP mem), objects, types⟩,
      rest⟩
  | object o => exact ⟨⟨strings, indices, booleans, backs_mapErase o objects, types⟩, rest⟩
  | type t => exact ⟨⟨strings, indices, booleans, objects, backs_mapErase t types⟩, rest⟩

grind_pattern backs_remove => m.Backs (object.remove k)

theorem backs_push {v : Value} (hv : m.Backs v) : m.Backs (object.push v) := by
  refine backs_setIndices h fun w mem => ?_
  rcases Array.mem_push.mp mem with old | rfl
  · exact h.1.2.1 w old
  · exact hv

grind_pattern backs_push => m.Backs (object.push v)

theorem backs_resize (size : Nat) : m.Backs (object.resize size) := by
  refine backs_setIndices h fun w mem => ?_
  split at mem
  · have listed : w ∈ object.indices.toList.take size := by simpa using Array.mem_toList_iff.mpr mem
    exact h.1.2.1 w (Array.mem_toList_iff.mp (List.mem_of_mem_take listed))
  · rcases Array.mem_append.mp mem with old | filled
    · exact h.1.2.1 w old
    · rw [Array.mem_replicate] at filled
      exact filled.2 ▸ backs_empty

grind_pattern backs_resize => m.Backs (object.resize size)

/-! ### Enumeration -/

theorem backs_shownIndices : m.Backs object.shownIndices := by
  intro v mem
  unfold Object.shownIndices at mem
  split at mem
  · cases Array.not_mem_empty v mem
  · exact h.1.2.1 v mem

grind_pattern backs_shownIndices => m.Backs object, object.shownIndices

theorem backs_keys : m.Backs object.keys := by
  obtain ⟨⟨-, -, -, objects, types⟩, -⟩ := h
  intro v mem
  simp only [Object.keys, List.mem_append, List.mem_map] at mem
  rcases mem with (((⟨s, _, rfl⟩ | ⟨i, _, rfl⟩) | ⟨o, mem, rfl⟩) | ⟨e, _, rfl⟩) | ⟨t, mem, rfl⟩
  · exact backs_string s
  · exact backs_ofNat i
  · obtain ⟨e, at_, rfl⟩ := List.mem_map.mp mem
    exact (backs_object _).mpr (objects e at_).1
  · exact backs_boolean e.1
  · obtain ⟨e, at_, rfl⟩ := List.mem_map.mp mem
    exact (backs_type _).mpr (types e at_).1

grind_pattern backs_keys => m.Backs object, object.keys

theorem backs_values : m.Backs object.values := by
  intro v mem
  simp only [Object.values, List.mem_append, OrderedMap.values, List.mem_map] at mem
  rcases mem with (((⟨e, mem, rfl⟩ | mem) | ⟨e, mem, rfl⟩) | ⟨e, mem, rfl⟩) | ⟨e, mem, rfl⟩
  · exact (h.1.1 e mem).2
  · exact backs_shownIndices h v (Array.mem_toList_iff.mp mem)
  · exact (h.1.2.2.2.1 e mem).2
  · exact (h.1.2.2.1 e mem).2
  · exact (h.1.2.2.2.2 e mem).2

grind_pattern backs_values => m.Backs object, object.values

end Objects

/-! ## What a whole machine holds -/

namespace Whole

/-- A machine that differs in nothing of its store. -/
theorem aside {m m' : Machine} (h : m.Whole) (same : m'.estate = m.estate)
    (slots : m.Backs m'.slots) (frames : m.Backs m'.frames) (natives : m.Backs m'.natives)
    (pending : m.Backs m'.pending) (lastUnhandled : m.Backs m'.lastUnhandled) : m'.Whole := by
  have objects : m'.objects = m.objects := congrArg (·.objects) same
  have modules : m'.modules = m.modules := congrArg (·.modules) same
  have types : m'.types = m.types := congrArg (·.types) same
  have extent : m'.extent = m.extent := congrArg Estate.extent same
  have backs {γ : Type} [Refers γ] {a : γ} (h : m.Backs a) : m'.Backs a := by
    unfold Machine.Backs
    rw [extent]
    exact h
  exact {
    builtins := types ▸ h.builtins
    objects := backs (objects ▸ h.objects)
    slots := backs slots
    frames := backs frames
    modules := fun name v known => backs (h.modules name v (modules ▸ known))
    natives := backs natives
    pending := backs pending
    lastUnhandled := backs lastUnhandled }

/-- A machine that differs in nothing but its objects. -/
theorem evolved [Latitude] {m : Machine} (h : m.Whole) {objects : Array Object}
    (evolves : m.Evolves { m with objects })
    (backed : { m with objects : Machine }.Backs objects) : { m with objects : Machine }.Whole where
  builtins := h.builtins
  objects := backed
  slots := h.slots.mono evolves
  frames := h.frames.mono evolves
  modules name v known := (h.modules name v known).mono evolves
  natives := h.natives.mono evolves
  pending := h.pending.mono evolves
  lastUnhandled := h.lastUnhandled.mono evolves

variable {m : Machine} (whole : m.Whole)
include whole

theorem object (o : ObjectId) : m.Backs (m.object o) := by
  unfold Machine.object
  rw [Array.getD_eq_getD_getElem?]
  cases at_ : m.objects[o.serial - 1]? with
  | none => exact whole.blank
  | some object => exact whole.objects object (Array.mem_of_getElem? at_)

grind_pattern object => m.Whole, m.object o

theorem typeOf {v : Value} (h : m.Backs v) : m.Backs (m.typeOf v) := by
  cases v with
  | object o => exact backs_typeOf (whole.object o)
  | empty | boolean _ | number _ | string _ | type _ => exact whole.builtin _

grind_pattern typeOf => m.Whole, m.typeOf v

theorem attributeAt? (o : ObjectId) (k : Key) : m.Backs (m.attributeAt? o k) := by
  intro v found
  unfold Machine.attributeAt? at found
  obtain ⟨a, _, found⟩ := Option.bind_eq_some_iff.mp found
  obtain ⟨w, at_, nonEmpty⟩ := Option.bind_eq_some_iff.mp found
  exact backs_nonEmpty? (backs_objectGet (whole.object a) k w at_) v nonEmpty

grind_pattern attributeAt? => m.Whole, m.attributeAt? o k

theorem attribute? (o : ObjectId) (name : String) : m.Backs (m.attribute? o name) :=
  whole.attributeAt? o _

grind_pattern attribute? => m.Whole, m.attribute? o name

/-- A part of an attribute is backed, and so is the attribute itself. -/
theorem accessorPart {o : ObjectId} {a : Accessor} {p : ObjectId}
    (has : m.attribute? o a.symbol = some (.object p)) (part : String) :
    m.Backs (Value.object p) ∧ m.Backs (((m.object p).text? part).filter m.isFunction) := by
  refine ⟨whole.attribute? o _ _ has, fun v found => ?_⟩
  exact backs_text (whole.object p) part v (Option.filter_eq_some_iff.mp found).1

theorem getterOf? (o : ObjectId) (a : Accessor) : m.Backs (m.getterOf? o a) := by
  intro v found
  unfold Machine.getterOf? at found
  split at found
  · rename_i p has
    obtain ⟨itself, part⟩ := whole.accessorPart has "get"
    split at found
    · cases found
      exact itself
    · exact part v found
  · cases found

grind_pattern getterOf? => m.Whole, m.getterOf? o a

theorem setterOf? (o : ObjectId) (a : Accessor) : m.Backs (m.setterOf? o a) := by
  intro v found
  unfold Machine.setterOf? at found
  split at found
  · rename_i p has
    split at found
    · cases found
    · exact (whole.accessorPart has "set").2 v found
  · cases found

grind_pattern setterOf? => m.Whole, m.setterOf? o a

theorem frame (i : Nat) : m.Backs (m.frame i) := by
  unfold Machine.frame
  rw [Array.getD_eq_getD_getElem?]
  cases at_ : m.frames[i]? with
  | none =>
    constructor
    · rintro _ ⟨⟩
    · rintro _ ⟨⟩
  | some f => exact whole.frames f (Array.mem_of_getElem? at_)

grind_pattern frame => m.Whole, m.frame i

theorem slot? (c : Capture) : m.Backs (m.slot? c) := by
  intro v at_
  unfold Machine.slot? Machine.referrables at at_
  rw [Array.getD_eq_getD_getElem?] at at_
  cases found : m.slots[c.slots.serial]? with
  | none =>
    rw [found] at at_
    cases at_
  | some a =>
    rw [found] at at_
    exact whole.slots a (Array.mem_of_getElem? found) v (Array.mem_of_getElem? at_)

grind_pattern slot? => m.Whole, m.slot? c

/-- The value at a site of a frame. -/
theorem site? (c? : Option Capture) : m.Backs (c?.bind m.slot?) := by
  intro v found
  obtain ⟨c, _, at_⟩ := Option.bind_eq_some_iff.mp found
  exact whole.slot? c v at_

grind_pattern site? => m.Whole, c?.bind m.slot?

theorem module (name : String) : m.Backs m.modules[name]? := fun v known =>
  whole.modules name v known

grind_pattern module => m.Whole, m.modules[name]?

theorem native (id : Nat) : m.Backs m.natives[id]? := fun native at_ =>
  whole.natives native (Array.mem_of_getElem? at_)

grind_pattern native => m.Whole, m.natives[id]?

end Whole

end Machine

end StubMachine
