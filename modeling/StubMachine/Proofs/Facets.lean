import StubMachine.Proofs.Evolution.Requests

/-!
# What a facet promises

An object without a facet is a map, and may hold anything.  A facet makes a promise about what
the object holds: a **function** holds nothing, a **record** holds nothing but entries that its
layout asks for, with values of the types that it asks for, and an **interface** has no texts as
keys but the names of its members.  Whether an object is a function or a record is decided by its
type.  An object that keeps these promises is `Upright`.

**In every session all objects are upright**, wherever a run is stopped and however an operation
ends, as long as the embedder does not write to objects by itself (`facets_upright`).  The proof
goes by the changes of which a run consists.  Each keeps the objects upright that it touches
(`Object.Upright.change`).  The objects that it does not touch stay upright because what they
promise is about types, and **a type never changes, nor does the type of an object, nor whether
an object is a function** (`Machine.Faithful`): so a value that was of the type that a layout
asks for remains of that type.
-/

namespace StubMachine

/-! ## Upright objects -/

/-- An object that holds nothing. -/
structure Object.Bare (o : Object) : Prop where
  strings : o.strings.toList = []
  indices : o.indices = #[]
  booleans : o.booleans = []
  objects : o.objects.toList = []
  types : o.types.toList = []
  attributes : o.attributes = none

/-- **An object that conforms to a layout**: every entry under a text is asked for and is of the
type that is asked for, and there are none under truth values, objects and types. -/
structure Object.Conforms (m : Machine) (o : Object) (layout : Layout) : Prop where
  strings : ∀ name v, (name, v) ∈ o.strings.toList →
    ∃ t, layout.get? name = some t ∧ m.isA v t = true
  booleans : o.booleans = []
  objects : o.objects.toList = []
  types : o.types.toList = []

/-- **An object has no texts as keys but the names of some members**, and is neither a record nor a
function. -/
structure Object.Encloses (o : Object) (members : OrderedMap String Member) : Prop where
  strings : o.strings.toList = []
  keys : o.keys.filterMap Value.text? = members.keys
  not_record : o.layout? = none
  not_function : o.isFunction = false

/-- **What a facet promises** of the object that has it. -/
def Facet.Promises (m : Machine) (o : Object) : Facet → Prop
  | plain => True
  | function _ => o.Bare
  | record layout => o.Conforms m layout
  | interface members _ => o.Encloses members

/-- **An object keeps what its facet promises**, and whether it is a function or a record is
decided by its type. -/
structure Object.Upright (m : Machine) (o : Object) : Prop where
  promise : o.facet.Promises m o
  type_function : o.isFunction = true ↔ o.type = BuiltinType.function.id
  type_layout : o.layout? = m.types.layout? o.type

namespace Object

/-- The texts among the keys of an object. -/
theorem filterMap_text_keys (o : Object) : o.keys.filterMap Value.text? = o.textKeys := by
  have nowhere {α : Type} (l : List α) (f : α → Value) (other : ∀ a, (f a).text? = none) :
      (l.map f).filterMap Value.text? = [] := by
    rw [List.filterMap_map, List.filterMap_eq_nil_iff]
    exact fun a _ => other a
  have all : (o.textKeys.map Value.string).filterMap Value.text? = o.textKeys := by
    rw [List.filterMap_map]
    exact List.filterMap_some
  rw [keys, List.filterMap_append, List.filterMap_append, List.filterMap_append,
    List.filterMap_append, all, nowhere _ Value.ofNat fun _ => rfl, nowhere _ Value.object fun _ => rfl,
    nowhere _ (fun e : Bool × Value => Value.boolean e.1) fun _ => rfl,
    nowhere _ Value.type fun _ => rfl]
  simp only [List.append_nil]

/-- An interface without entries under texts encloses its members. -/
theorem encloses {o : Object} {members : OrderedMap String Member} {binding : Option Value}
    (facet : o.facet = .interface members binding) (strings : o.strings.toList = []) :
    o.Encloses members where
  strings := strings
  keys := by rw [filterMap_text_keys, textKeys, facet]
  not_record := by rw [layout?, facet]
  not_function := by rw [isFunction, function?, facet, Option.isSome_none]

end Object

/-! ## What does not change -/

namespace Machine

/-- An object that exists is stored. -/
theorem object_mem {m : Machine} {o : ObjectId} (exists_ : m.Backs o) : m.object o ∈ m.objects := by
  have bound : o.serial - 1 < m.objects.size := exists_
  rw [object, Array.getD_eq_getD_getElem?, Array.getElem?_eq_getElem bound]
  exact Array.getElem_mem _

/-- **A later machine has the same types, and the objects of an earlier one are what they were**:
of the same types, and functions or not. -/
structure Faithful (m m' : Machine) : Prop where
  extent : m.extent ≤ m'.extent
  record : ∀ t, m.Backs t → m'.types.record? t = m.types.record? t
  type : ∀ o, m.Backs o → (m'.object o).type = (m.object o).type
  function : ∀ o, m.Backs o → (m'.object o).isFunction = (m.object o).isFunction

namespace Faithful
variable {m m' m'' : Machine}

theorem of_eq (types : m'.types = m.types) (objects : m'.objects = m.objects) : m.Faithful m' where
  extent := ⟨Nat.le_of_eq (congrArg Array.size objects).symm,
    Nat.le_of_eq (congrArg (·.records.size) types).symm⟩
  record t _ := congrArg (·.record? t) types
  type o _ := congrArg Object.type (object_of objects o)
  function o _ := congrArg Object.isFunction (object_of objects o)

theorem trans (h : m.Faithful m') (h' : m'.Faithful m'') : m.Faithful m'' where
  extent := Extent.le_trans h.extent h'.extent
  record t exists_ := (h'.record t (Refers.mono exists_ h.extent)).trans (h.record t exists_)
  type o exists_ := (h'.type o (Refers.mono exists_ h.extent)).trans (h.type o exists_)
  function o exists_ := (h'.function o (Refers.mono exists_ h.extent)).trans (h.function o exists_)

theorem backs {α : Type} [Refers α] (h : m.Faithful m') {a : α} (backed : m.Backs a) : m'.Backs a :=
  Refers.mono backed h.extent

theorem layout? (h : m.Faithful m') {t : TypeId} (exists_ : m.Backs t) :
    m'.types.layout? t = m.types.layout? t := by
  rw [TypeTable.layout?, h.record t exists_, TypeTable.layout?]

/-- **A value remains an instance of what it is an instance of**, and becomes one of nothing
else. -/
theorem isA (h : m.Faithful m') (stored : m.Backs m.objects) {v : Value} (exists_ : m.Backs v)
    (t : TypeId) : m'.isA v t = m.isA v t := by
  cases v with
  | object o =>
    have typed : m.Backs (m.object o).type := backs_typeOf (stored _ (object_mem exists_))
    have ancestry : m'.types.ancestry (m.object o).type = m.types.ancestry (m.object o).type := by
      rw [TypeTable.ancestry, h.record (m.object o).type typed, TypeTable.ancestry]
    rw [Machine.isA, Machine.isA, h.type o exists_, h.function o exists_, TypeTable.objectIsA, ancestry,
      TypeTable.objectIsA]
  | empty | boolean _ | number _ | string _ | type _ => rfl

end Faithful

end Machine

/-- A change keeps the type of an object. -/
theorem Object.Change.type_eq [L : Latitude] {m : Machine} {o o' : Object} (h : o.Change m o') :
    o'.type = o.type ∨ L.meddles := by
  cases h with
  | entry k v _ => cases k <;> exact .inl rfl
  | remove k _ => cases k <;> exact .inl rfl
  | meddled o' allowed => exact .inr allowed
  | _ => exact .inl rfl

namespace Machine
variable [L : Latitude] (upright : ¬ L.meddles)
include upright

theorem Change.faithful {m m' : Machine} (h : m.Change m') : m.Faithful m' where
  extent := h.extent_le
  record t exists_ := by
    have same {estate : Estate} (same : m'.estate = estate) (types : estate.types = m.types) :
        m'.types.record? t = m.types.record? t :=
      congrArg (·.record? t) ((congrArg Estate.types same).trans types)
    cases h with
    | type made changed =>
      obtain ⟨-, merged, -, pushed⟩ := TypeTable.create_ok made
      have types : m'.types = _ := congrArg Estate.types changed
      rw [types]
      refine TypeTable.record?_push pushed fun eq => ?_
      have bound : t.number ≤ m.types.records.size := exists_.2
      rw [eq] at bound
      exact Nat.not_succ_le_self _ bound
    | meddles objects types allowed => exact absurd allowed upright
    | object o object _ _ changed => exact same changed rfl
    | newborn object _ _ changed => exact same changed rfl
    | aside changed => exact same changed rfl
    | asks name _ changed => exact same changed rfl
    | delivery name _ changed => exact same changed rfl
    | loads name _ changed => exact same changed rfl
    | keeps name v _ changed => exact same changed rfl
    | recalls name v _ changed => exact same changed rfl
  type o exists_ := by
    rcases h.object_cases exists_ with same | change | allowed
    · exact congrArg Object.type same
    · exact change.type_eq.resolve_right upright
    · exact absurd allowed upright
  function o exists_ := by
    rcases h.object_cases exists_ with same | change | allowed
    · exact congrArg Object.isFunction same
    · exact change.isFunction_eq.resolve_right upright
    · exact absurd allowed upright

/-- **Whatever happens, types and objects remain what they are.** -/
theorem Evolves.faithful {m m' : Machine} (h : m.Evolves m') : m.Faithful m' := by
  induction h with
  | refl m => exact .of_eq rfl rfl
  | trans _ _ ih ih' => exact ih.trans ih'
  | change step => exact step.faithful upright
  | imported name v _ delivered _ kept ih =>
    refine Faithful.trans (.of_eq ?_ ?_) (ih.trans (.of_eq ?_ ?_))
    · exact congrArg Estate.types delivered
    · exact congrArg Estate.objects delivered
    · exact congrArg Estate.types kept
    · exact congrArg Estate.objects kept

end Machine

/-! ## What a change does to an upright object -/

namespace Object.Upright
variable {m m' : Machine} {o o' : Object}

/-- An object of the same kind is upright if it keeps its promise. -/
theorem alike (h : o.Upright m) (type : o'.type = o.type) (function : o'.isFunction = o.isFunction)
    (layout : o'.layout? = o.layout?) (promise : o'.facet.Promises m o') : o'.Upright m where
  promise := promise
  type_function := by rw [function, type, h.type_function]
  type_layout := by rw [layout, type, h.type_layout]

theorem same_facet (h : o.Upright m) (type : o'.type = o.type) (facet : o'.facet = o.facet)
    (promise : o.facet.Promises m o') : o'.Upright m := by
  refine h.alike type ?_ ?_ (facet ▸ promise)
  · rw [isFunction, function?, facet, isFunction, function?]
  · rw [layout?, facet, layout?]

/-- **An object keeps its promise if it is left with less**, or with other indices and attributes
and is no function. -/
theorem less (h : o.Upright m) (type : o'.type = o.type) (facet : o'.facet = o.facet)
    (strings : ∀ e ∈ o'.strings.toList, e ∈ o.strings.toList)
    (booleans : ∀ e ∈ o'.booleans, e ∈ o.booleans)
    (objects : ∀ e ∈ o'.objects.toList, e ∈ o.objects.toList)
    (types : ∀ e ∈ o'.types.toList, e ∈ o.types.toList)
    (function : o.isFunction = true → o.Bare → o'.indices = #[] ∧ o'.attributes = none) :
    o'.Upright m := by
  have none {α : Type} {l l' : List α} (less : ∀ e ∈ l', e ∈ l) (empty : l = []) : l' = [] :=
    List.eq_nil_iff_forall_not_mem.mpr fun e mem => List.not_mem_nil (empty ▸ less e mem)
  refine h.same_facet type facet ?_
  have promise := h.promise
  cases is : o.facet with
  | plain => exact trivial
  | function f =>
    rw [is] at promise
    have ⟨indices, attributes⟩ := function (by rw [isFunction, function?, is]; rfl) promise
    exact ⟨none strings promise.strings, indices, none booleans promise.booleans,
      none objects promise.objects, none types promise.types, attributes⟩
  | record layout =>
    rw [is] at promise
    exact ⟨fun name v mem => promise.strings name v (strings _ mem), none booleans promise.booleans,
      none objects promise.objects, none types promise.types⟩
  | interface members binding =>
    rw [is] at promise
    exact encloses (facet.trans is) (none strings promise.strings)

/-- What is left after a key was removed. -/
theorem remove (h : o.Upright m) (k : Key) (function : o.isFunction = false) :
    (o.remove k).Upright m := by
  have other (is : o.isFunction = true) : o.Bare → (o.remove k).indices = #[] ∧
      (o.remove k).attributes = none := absurd is (function ▸ Bool.false_ne_true)
  have all {α : Type} {l : List α} (e : α) (mem : e ∈ l) : e ∈ l := mem
  cases k with
  | string name => exact h.less rfl rfl (fun _ mem => (OrderedMap.mem_erase mem).1) all all all other
  | index i => exact h.less rfl rfl all all all all other
  | boolean b => exact h.less rfl rfl all (fun _ mem => List.mem_of_mem_eraseP mem) all all other
  | object o' => exact h.less rfl rfl all all (fun _ mem => (OrderedMap.mem_erase mem).1) all other
  | type t => exact h.less rfl rfl all all all (fun _ mem => (OrderedMap.mem_erase mem).1) other

/-- **Every change keeps an object upright.** -/
theorem change [L : Latitude] (upright : ¬ L.meddles) (h : o.Upright m) (change : o.Change m o') :
    o'.Upright m := by
  have promise := h.promise
  have all {α : Type} {l : List α} (e : α) (mem : e ∈ l) : e ∈ l := mem
  cases change with
  | entry k v plain =>
    refine h.same_facet ?_ ?_ ?_
    · cases k <;> rfl
    · cases k <;> rfl
    · rw [plain]
      exact trivial
  | @field layout t name v record known typed =>
    rw [record] at promise
    refine h.same_facet rfl rfl ?_
    rw [record]
    refine ⟨fun name' v' mem => ?_, promise.booleans, promise.objects, promise.types⟩
    rcases OrderedMap.mem_insert mem with old | new
    · exact promise.strings name' v' old
    · cases new
      exact ⟨t, known, typed⟩
  | indices values function =>
    exact h.less rfl rfl all all all all fun is => absurd is (function ▸ Bool.false_ne_true)
  | pop =>
    refine h.less rfl rfl all all all all fun _ bare => ⟨?_, bare.attributes⟩
    rw [bare.indices]
    rfl
  | remove k function => exact h.remove k function
  | attributes a function =>
    exact h.less rfl rfl all all all all fun is => absurd is (function ▸ Bool.false_ne_true)
  | enclose strings members binding plain empty =>
    refine h.alike rfl ?_ ?_ ?_
    · simp only [isFunction, function?, plain]
    · simp only [layout?, plain]
    · exact encloses rfl empty
  | rebind binding interface =>
    rw [interface] at promise
    refine h.alike rfl ?_ ?_ ?_
    · simp only [isFunction, function?, interface]
    · simp only [layout?, interface]
    · exact encloses rfl promise.strings
  | disclose interface =>
    refine h.alike rfl ?_ ?_ trivial
    · simp only [isFunction, function?, interface]
    · simp only [layout?, interface]
  | meddled o' allowed => exact absurd allowed upright

/-- **Objects that are not touched stay upright.** -/
theorem untouched (h : o.Upright m) (faithful : m.Faithful m') (stored : m.Backs m.objects)
    (exists_ : m.Backs o) : o.Upright m' where
  promise := by
    have promise := h.promise
    cases is : o.facet with
    | plain => exact trivial
    | function f =>
      rw [is] at promise
      exact promise
    | record layout =>
      rw [is] at promise
      refine ⟨fun name v mem => ?_, promise.booleans, promise.objects, promise.types⟩
      obtain ⟨t, known, typed⟩ := promise.strings name v mem
      have backed : m.Backs v := (Machine.backs_strings exists_ _ mem).2
      exact ⟨t, known, (faithful.isA stored backed t).trans typed⟩
    | interface members binding =>
      rw [is] at promise
      exact promise
  type_function := h.type_function
  type_layout := h.type_layout.trans (faithful.layout? (Machine.backs_typeOf exists_)).symm

end Object.Upright

/-- **What is made is upright.** -/
theorem Object.Newborn.upright {m : Machine} {o : Object} (h : o.Newborn m)
    (layouts : ∀ b : BuiltinType, m.types.layout? b.id = none) : o.Upright m := by
  cases h with
  | map type plain _ =>
    refine ⟨?_, ?_, ?_⟩
    · rw [plain]
      exact trivial
    · simp [isFunction, function?, plain, type, BuiltinType.id]
    · rw [type, layouts, layout?, plain]
  | function f =>
    exact ⟨⟨rfl, rfl, rfl, rfl, rfl, rfl⟩, iff_of_true rfl rfl, (layouts .function).symm⟩
  | @«instance» t free =>
    have type : t ≠ BuiltinType.function.id := by
      rintro rfl
      cases free .function (by decide)
    unfold ofType
    cases layout : m.types.layout? t with
    | none => exact ⟨trivial, by simp [isFunction, function?, type], layout.symm⟩
    | some l =>
      refine ⟨⟨fun name v mem => ?_, rfl, rfl, rfl⟩, by simp [isFunction, function?, type], layout.symm⟩
      cases mem

/-! ## Stores -/

namespace Machine

/-- **All objects of the machine are upright**, and refer to none that does not exist; builtin types
have no layouts. -/
structure Upright (m : Machine) : Prop where
  builtins : BuiltinType.all.size ≤ m.types.records.size
  layouts : ∀ b : BuiltinType, m.types.layout? b.id = none
  stored : m.Backs m.objects
  objects : ∀ object ∈ m.objects, object.Upright m

/-- No type of a new machine has a layout. -/
theorem initial_layout (config : Config) (t : TypeId) :
    (Machine.initial config).types.layout? t = none := by
  obtain ⟨number⟩ := t
  cases number with
  | zero => rfl
  | succ n =>
    simp only [TypeTable.layout?, TypeTable.record?, initial, TypeTable.initial, Array.getElem?_map]
    cases BuiltinType.all[n]? with
    | none => rfl
    | some b => rfl

theorem initial_upright (config : Config) : (Machine.initial config).Upright where
  builtins := (initial_whole config).builtins
  layouts b := initial_layout config b.id
  stored := (initial_whole config).objects
  objects _ mem := nomatch mem

namespace Upright
variable {m m' : Machine}

/-- A store stays upright if the objects that are new to it were upright before. -/
theorem later (h : m.Upright) (faithful : m.Faithful m')
    (new : ∀ object ∈ m'.objects, object ∈ m.objects ∨ m.Backs object ∧ object.Upright m) :
    m'.Upright := by
  have both (object : Object) (mem : object ∈ m'.objects) : m.Backs object ∧ object.Upright m :=
    (new object mem).elim (fun old => ⟨h.stored object old, h.objects object old⟩) id
  exact {
    builtins := Nat.le_trans h.builtins faithful.extent.2
    layouts := fun b => (faithful.layout? (backs_builtin h.builtins b)).trans (h.layouts b)
    stored := fun object mem => faithful.backs (both object mem).1
    objects := fun object mem => (both object mem).2.untouched faithful h.stored (both object mem).1 }

theorem of_eq (h : m.Upright) (types : m'.types = m.types) (objects : m'.objects = m.objects) :
    m'.Upright :=
  h.later (.of_eq types objects) fun _ mem => .inl (objects ▸ mem)

variable [L : Latitude] (scripts : ¬ L.meddles)
include scripts

theorem change (h : m.Upright) (step : m.Change m') : m'.Upright := by
  refine h.later (step.faithful scripts) ?_
  have same {estate : Estate} (same : m'.estate = estate) (objects : estate.objects = m.objects)
      (object : Object) (mem : object ∈ m'.objects) :
      object ∈ m.objects ∨ m.Backs object ∧ object.Upright m :=
    .inl ((objects_of same).trans objects ▸ mem)
  cases step with
  | object o object change backed changed =>
    intro other mem
    rw [objects_of changed] at mem
    obtain ⟨i, hi, rfl⟩ := Array.mem_iff_getElem.mp mem
    have bound : i < m.objects.size := by simpa using hi
    simp only [Array.getElem_modify]
    split
    · rename_i here
      have upright := h.objects _ (object_mem (here ▸ bound))
      exact .inr ⟨backed, upright.change scripts change⟩
    · exact .inl (Array.getElem_mem bound)
  | newborn object newborn backed pushed =>
    intro other mem
    rw [objects_of pushed] at mem
    rcases Array.mem_push.mp mem with old | rfl
    · exact .inl old
    · exact .inr ⟨backed, newborn.upright h.layouts⟩
  | meddles objects types allowed => exact absurd allowed scripts
  | aside changed => exact same changed rfl
  | type made changed => exact same changed rfl
  | asks name _ changed => exact same changed rfl
  | delivery name _ changed => exact same changed rfl
  | loads name _ changed => exact same changed rfl
  | keeps name v _ changed => exact same changed rfl
  | recalls name v _ changed => exact same changed rfl

/-- **Upright stores stay upright.** -/
theorem evolves (h : m.Upright) (evolved : m.Evolves m') : m'.Upright := by
  induction evolved with
  | refl m => exact h
  | trans _ _ ih ih' => exact ih' (ih h)
  | change step => exact h.change scripts step
  | imported name v _ delivered _ kept ih =>
    have before := ih (h.of_eq (congrArg Estate.types delivered) (congrArg Estate.objects delivered))
    exact before.of_eq (congrArg Estate.types kept) (congrArg Estate.objects kept)

end Upright

end Machine

/-! ## Sessions -/

/-- **Facets are kept.**  In a session with a new machine in which modules are run under any names,
under a plan that stops activities wherever it likes, every object is upright when the session ends,
and whatever follows in the same way, an object that is a function stays one, and what is a record
stays one of the same layout. -/
theorem facets_upright (config : Config) {host : Host} (hosted : host.Sound (L := .running))
    {plan : Plan} (stops : plan.Stops) (fuel : Nat) (session later : Session)
    (asked : session.Admissible (L := .running) host (plan.engine host fuel) (.initial config))
    (asked' : later.Admissible (L := .running) host (plan.engine host fuel)
      (session.run host (plan.engine host fuel) (.initial config)).2) :
    let m := (session.run host (plan.engine host fuel) (.initial config)).2
    let m' := (later.run host (plan.engine host fuel) m).2
    ∀ o, m.Backs o →
      (m.object o).Upright m ∧ (m'.object o).Upright m' ∧
        (m'.object o).isFunction = (m.object o).isFunction ∧
        (m'.object o).layout? = (m.object o).layout? := by
  let _ : Latitude := .running
  intro m m' o exists_
  have engine : (plan.engine host fuel).Sound := Plan.engine_sound stops hosted fuel
  obtain ⟨evolved, whole⟩ := session.evolves engine (Machine.initial_whole config) asked
  obtain ⟨evolved', -⟩ := later.evolves engine whole asked'
  have upright : m.Upright := (Machine.initial_upright config).evolves not_false evolved
  have upright' : m'.Upright := upright.evolves not_false evolved'
  have faithful : m.Faithful m' := evolved'.faithful not_false
  have here : (m.object o).Upright m := upright.objects _ (Machine.object_mem exists_)
  have there : (m'.object o).Upright m' :=
    upright'.objects _ (Machine.object_mem (faithful.backs exists_))
  refine ⟨here, there, faithful.function o exists_, ?_⟩
  have typed : m.Backs (m.object o).type :=
    Machine.backs_typeOf (upright.stored _ (Machine.object_mem exists_))
  calc (m'.object o).layout?
      = m'.types.layout? (m'.object o).type := there.type_layout
    _ = m'.types.layout? (m.object o).type := by rw [faithful.type o exists_]
    _ = m.types.layout? (m.object o).type := faithful.layout? typed
    _ = (m.object o).layout? := here.type_layout.symm

/-- What is left by calling a number, which is not a function, stays as it is when a text is
read. -/
theorem facets_upright_raised :
    let session := Session.deals (.enter (.callFunction (.number 1.0) [])) fun _ => .ends
    let later := Session.deals (.decode "[[]]") fun _ => .ends
    let m := (session.run .complaining (.ofHost .complaining 2) (.initial .standard)).2
    let m' := (later.run .complaining (.ofHost .complaining 2) m).2
    m.Backs (⟨1⟩ : ObjectId) ∧ (m.object ⟨1⟩).Upright m ∧ (m'.object ⟨1⟩).Upright m' ∧
      (m'.object ⟨1⟩).isFunction = (m.object ⟨1⟩).isFunction ∧
      (m'.object ⟨1⟩).layout? = (m.object ⟨1⟩).layout? := by
  let _ : Latitude := .running
  intro session later m m'
  have backs : m.Backs (⟨1⟩ : ObjectId) := by
    show 0 < m.objects.size
    decide
  have plain := Plan.engine_truthful (Plan.idle_truthful .complaining) 2
  have kept := facets_upright .standard (Host.complaining_sound (L := .running)) Plan.idle_stops 2
    session later
  rw [plain] at kept
  refine ⟨backs, kept ⟨?_, trivial⟩ ⟨?_, trivial⟩ ⟨1⟩ backs⟩
  · exact ⟨⟨trivial, Machine.backs_nil⟩, fun _ _ _ => trivial⟩
  · exact ⟨trivial, fun _ _ _ => trivial⟩

end StubMachine
