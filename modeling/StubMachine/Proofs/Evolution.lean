import StubMachine.Proofs.Ancestry
import StubMachine.Proofs.Calling
import StubMachine.Proofs.Evolution.Reference

/-!
# How the store evolves

Scripts build up a store: objects, types, and the results of modules.  This module says what
can become of a store.

**A `Change` is one step**, with the condition under which the machine takes it: that a
record only admits the keys of its layout, say, or that a module is only asked for when its
result is unknown.  What the machine does besides, to its frames, its variables and to what
is pending, leaves the store as it is.  **`Evolves` is any number of changes**; importing a
module is the one thing that is more than a sequence of them, for the result is kept at the
end under the condition that it was unknown at the beginning.

Nothing here refers to the operations of the machine.  That they do nothing else is shown in
the modules below this one; what holds of every change and survives their sequence then
holds of every operation.

A `Latitude` says what an embedder does besides: under which names it runs modules, and
whether it writes to objects and types by itself.
-/

namespace StubMachine

/-- What an embedder does beyond what scripts can do. -/
class Latitude where
  /-- The names under which it runs modules. -/
  runs : String → Prop
  /-- It writes to objects and to the table of types. -/
  meddles : Prop

namespace Latitude

/-- Nothing. -/
@[reducible] def scripts : Latitude := ⟨fun _ => False, False⟩

/-- It runs modules, under any names, and leaves the store to the machine. -/
@[reducible] def running : Latitude := ⟨fun _ => True, False⟩

end Latitude

/-! ## Modules -/

namespace Machine

/-- A module was asked for. -/
def Asks (m : Machine) (name : String) (m' : Machine) : Prop :=
  m'.estate =
    { m.estate with asked := m.asked ++ [name], history := m.history.push (.asked name) }

/-- A file was loaded. -/
def Loads (m : Machine) (name : String) (m' : Machine) : Prop :=
  m'.estate =
    { m.estate with files := m.files.push name, history := m.history.push (.started name) }

/-- The result of a module was kept. -/
def Keeps (m : Machine) (origin : String → Value → ModuleEvent) (name : String) (v : Value)
    (m' : Machine) : Prop :=
  m'.estate =
    { m.estate with
      modules := m.modules.insert name v, history := m.history.push (origin name v) }

/-- The module was asked for, and came and was loaded. -/
def Delivers (m : Machine) (name : String) (m' : Machine) : Prop :=
  m'.estate =
    { m.estate with
      asked := m.asked ++ [name], files := m.files.push name
      history := (m.history.push (.asked name)).push (.started name) }

/-- An import was answered with a result that was known. -/
def Recalls (m : Machine) (name : String) (v : Value) (m' : Machine) : Prop :=
  m'.estate = { m.estate with history := m.history.push (.imported name v) }

end Machine

/-! ## One object -/

/-- **What may become of an object** in one step. -/
inductive Object.Change [L : Latitude] (m : Machine) (o : Object) : Object → Prop
  | entry (k : Key) (v : Value) : o.facet = .plain → Change m o (o.set k v)
  | field {layout : Layout} {t : TypeId} (name : String) (v : Value) : o.facet = .record layout →
    layout.get? name = some t → m.isA v t = true → Change m o (o.set (.string name) v)
  | indices (values : Array Value) : o.isFunction = false → Change m o { o with indices := values }
  | pop : Change m o { o with indices := o.indices.pop }
  | remove (k : Key) : o.isFunction = false → Change m o (o.remove k)
  | attributes (a : Option ObjectId) : o.isFunction = false → Change m o { o with attributes := a }
  /-- The object becomes an interface. -/
  | enclose (strings : OrderedMap String Value) (members : OrderedMap String Member)
      (binding : Option Value) : o.facet = .plain → strings.toList = [] →
    Change m o { o with strings, facet := .interface members binding }
  | rebind {members : OrderedMap String Member} {old : Option Value} (binding : Option Value) :
    o.facet = .interface members old → Change m o { o with facet := .interface members binding }
  /-- The object is no interface any more. -/
  | disclose {members : OrderedMap String Member} {binding : Option Value} :
    o.facet = .interface members binding → Change m o { o with facet := .plain }
  | meddled (o' : Object) : L.meddles → Change m o o'

/-- **What an object may be** when it is made. -/
inductive Object.Newborn (m : Machine) : Object → Prop
  | map {o : Object} : o.type = BuiltinType.object.id → o.facet = .plain → o.attributes = none →
    Newborn m o
  | function (f : FunctionFacet) :
    Newborn m (Object.ofType BuiltinType.function.id (.function f))
  /-- It is a record if its type has a layout. -/
  | instance {t : TypeId} : (∀ b, BuiltinType.ofId? t = some b → b = .object) →
    Newborn m (Object.ofType t ((m.types.layout? t).elim Facet.plain Facet.record))

namespace Object

@[simp, grind =] theorem blank_type : blank.type = BuiltinType.object.id := rfl
@[simp, grind =] theorem blank_facet : blank.facet = .plain := rfl
@[simp, grind =] theorem blank_attributes : blank.attributes = none := rfl

/-- An object without a facet is neither a function nor a record nor an interface. -/
theorem facet_cases (o : Object) : o.facet = .plain ∨ o.isFunction = true ∨
    (∃ layout, o.facet = .record layout) ∨ ∃ members binding, o.facet = .interface members binding := by
  unfold isFunction function?
  cases o.facet with
  | plain => exact .inl rfl
  | function f => exact .inr (.inl rfl)
  | record layout => exact .inr (.inr (.inl ⟨layout, rfl⟩))
  | interface members binding => exact .inr (.inr (.inr ⟨members, binding, rfl⟩))

section
variable (o : Object) (name : String) (v : Value)

@[simp, grind =] theorem setText_type : (o.setText name v).type = o.type := rfl
@[simp, grind =] theorem setText_facet : (o.setText name v).facet = o.facet := rfl
@[simp, grind =] theorem setText_attributes : (o.setText name v).attributes = o.attributes := rfl
@[simp, grind =] theorem set_facet (k : Key) : (o.set k v).facet = o.facet := by cases k <;> rfl
@[simp, grind =] theorem push_type : (o.push v).type = o.type := rfl
@[simp, grind =] theorem push_facet : (o.push v).facet = o.facet := rfl
@[simp, grind =] theorem push_attributes : (o.push v).attributes = o.attributes := rfl

end

end Object

/-- Writing a text key of a map. -/
theorem Object.Change.text [Latitude] {m : Machine} {o : Object} (name : String) (v : Value)
    (plain : o.facet = .plain) : o.Change m (o.setText name v) := .entry (.string name) v plain

attribute [grind .] Object.Change.text
attribute [grind .] Object.Newborn.map Object.Newborn.function Object.Newborn.instance
attribute [grind .] Object.Change.entry Object.Change.field Object.Change.indices Object.Change.pop
  Object.Change.remove Object.Change.attributes Object.Change.enclose Object.Change.rebind
  Object.Change.disclose Object.Change.meddled

/-! ## The whole store -/

namespace Machine

/-- **One change of the store.** -/
inductive Change [L : Latitude] (m m' : Machine) : Prop
  /-- The store stays as it is. -/
  | aside : m'.estate = m.estate → Change m m'
  | object (o : ObjectId) (object : Object) : (m.object o).Change m object → m.Backs object →
    m'.estate = { m.estate with objects := m.objects.modify (o.serial - 1) fun _ => object } →
    Change m m'
  | newborn (object : Object) : object.Newborn m → m.Backs object →
    m'.estate = { m.estate with objects := m.objects.push object } → Change m m'
  | type {name : String} {parents : Option (List TypeId)} {layout : Option Layout} {t : TypeId}
      {types : TypeTable} : m.types.create name parents layout = .ok (t, types) →
    m'.estate = { m.estate with types } → Change m m'
  /-- A module was asked for, and did not come or could not be loaded. -/
  | asks (name : String) : m.modules[name]? = none → m.Asks name m' → Change m m'
  | delivery (name : String) : m.modules[name]? = none → m.Delivers name m' → Change m m'
  /-- A module that the embedder runs was loaded. -/
  | loads (name : String) : L.runs name → m.Loads name m' → Change m m'
  | keeps (name : String) (v : Value) : L.runs name → m.Keeps .ran name v m' → Change m m'
  | recalls (name : String) (v : Value) : m.modules[name]? = some v → m.Recalls name v m' →
    Change m m'
  | meddles (objects : Array Object) (types : TypeTable) : L.meddles →
    m.objects.size ≤ objects.size → m.types.records.size ≤ types.records.size →
    m'.estate = { m.estate with objects, types } → Change m m'

/-- **Any number of changes.** -/
inductive Evolves [L : Latitude] : Machine → Machine → Prop
  | refl (m : Machine) : Evolves m m
  | trans {m m' m'' : Machine} : Evolves m m' → Evolves m' m'' → Evolves m m''
  | change {m m' : Machine} : Change m m' → Evolves m m'
  /-- A module was imported, and its result is kept. -/
  | imported {m m₁ m₂ m' : Machine} (name : String) (v : Value) : m.modules[name]? = none →
    m.Delivers name m₁ → Evolves m₁ m₂ → m₂.Keeps .imported name v m' → Evolves m m'

attribute [grind .] Evolves.refl

/-! ## What stays -/

theorem objects_of {m : Machine} {estate : Estate} (same : m.estate = estate) :
    m.objects = estate.objects := congrArg (·.objects) same

/-- The objects are those of before. -/
theorem object_of {m m' : Machine} (same : m'.objects = m.objects) (p : ObjectId) :
    m'.object p = m.object p := by
  unfold Machine.object
  rw [same]

/-- Reading an object of a store in which one was changed. -/
theorem object_of_modify {m m' : Machine} {o : ObjectId} {f : Object → Object}
    (changed : m'.objects = m.objects.modify (o.serial - 1) f) (p : ObjectId) :
    m'.object p = m.object p ∨
      (p.serial - 1 = o.serial - 1 ∧ m.object p = m.object o ∧ m'.object p = f (m.object o)) := by
  have read : m'.object p = { m with objects := m.objects.modify (o.serial - 1) f }.object p :=
    object_of changed p
  rw [object_modify] at read
  split at read
  · rename_i here
    have same : m.object p = m.object o := by rw [object, object, here.1]
    exact .inr ⟨here.1.symm, same, same ▸ read⟩
  · exact .inl read

/-- Reading an object of a store to which one was added. -/
theorem object_of_push {m m' : Machine} {object : Object}
    (pushed : m'.objects = m.objects.push object) {p : ObjectId}
    (exists_ : p.serial - 1 < m.objects.size) : m'.object p = m.object p := by
  have read : m'.object p = { m with objects := m.objects.push object }.object p :=
    object_of pushed p
  rw [read, object_push, if_neg (Nat.ne_of_lt exists_)]

theorem Change.extent_le [Latitude] {m m' : Machine} (h : m.Change m') : m.extent ≤ m'.extent := by
  have grown {estate : Estate} (same : m'.estate = estate)
      (objects : m.objects.size ≤ estate.objects.size)
      (types : m.types.records.size ≤ estate.types.records.size) : m.extent ≤ m'.extent := by
    rw [extent.eq_1 m', same]
    exact ⟨objects, types⟩
  have same {estate : Estate} (same : m'.estate = estate) (objects : estate.objects = m.objects)
      (types : estate.types = m.types) : m.extent ≤ m'.extent :=
    grown same (Nat.le_of_eq (congrArg Array.size objects.symm))
      (Nat.le_of_eq (congrArg (·.records.size) types.symm))
  cases h with
  | object o object _ _ changed =>
    exact grown changed (Nat.le_of_eq Array.size_modify.symm) (Nat.le_refl _)
  | newborn object _ _ pushed =>
    refine grown pushed (Nat.le_trans (Nat.le_succ _) (Nat.le_of_eq ?_)) (Nat.le_refl _)
    exact (Array.size_push _).symm
  | type made changed =>
    obtain ⟨-, _, -, pushed⟩ := TypeTable.create_ok made
    refine grown changed (Nat.le_refl _) (Nat.le_trans (Nat.le_succ _) (Nat.le_of_eq ?_))
    exact ((congrArg Array.size pushed).trans (Array.size_push _)).symm
  | meddles objects types _ more more' changed => exact grown changed more more'
  | aside aside => exact same aside rfl rfl
  | asks name _ asked => exact same asked rfl rfl
  | delivery name _ delivered => exact same delivered rfl rfl
  | loads name _ loaded => exact same loaded rfl rfl
  | keeps name v _ kept => exact same kept rfl rfl
  | recalls name v _ recalled => exact same recalled rfl rfl

/-- **No object and no type is ever lost.** -/
theorem Evolves.extent_le [Latitude] {m m' : Machine} (h : m.Evolves m') : m.extent ≤ m'.extent := by
  induction h with
  | refl m => exact Extent.le_refl _
  | trans _ _ ih ih' => exact Extent.le_trans ih ih'
  | change step => exact step.extent_le
  | @imported m m₁ m₂ m' name v _ delivered _ kept ih =>
    have before : m₁.extent = m.extent := (congrArg Estate.extent delivered).trans rfl
    have after : m'.extent = m₂.extent := (congrArg Estate.extent kept).trans rfl
    rw [← before, after]
    exact ih

theorem Evolves.size_le [Latitude] {m m' : Machine} (h : m.Evolves m') :
    m.objects.size ≤ m'.objects.size := h.extent_le.1

/-! ## One object through the changes -/

/-- **What a change does to an object that exists.** -/
theorem Change.object_cases [L : Latitude] {m m' : Machine} (h : m.Change m') {p : ObjectId}
    (exists_ : p.serial - 1 < m.objects.size) :
    m'.object p = m.object p ∨ (m.object p).Change m (m'.object p) ∨ L.meddles := by
  cases h with
  | object o object step _ same =>
    have modified : m'.objects = m.objects.modify (o.serial - 1) fun _ => object := objects_of same
    rcases object_of_modify modified p with before | ⟨-, old, new⟩
    · exact .inl before
    · rw [old, new]
      exact .inr (.inl step)
  | newborn object _ _ same => exact .inl (object_of_push (objects_of same) exists_)
  | meddles _ _ allowed => exact .inr (.inr allowed)
  | aside same => exact .inl (object_of (objects_of same) p)
  | type _ same => exact .inl (object_of (objects_of same) p)
  | asks name _ same => exact .inl (object_of (objects_of same) p)
  | delivery name _ same => exact .inl (object_of (objects_of same) p)
  | loads name _ same => exact .inl (object_of (objects_of same) p)
  | keeps name v _ same => exact .inl (object_of (objects_of same) p)
  | recalls name v _ same => exact .inl (object_of (objects_of same) p)

end Machine

/-- A change keeps functions functions and makes no others. -/
theorem Object.Change.isFunction_eq [L : Latitude] {m : Machine} {o o' : Object}
    (h : o.Change m o') : o'.isFunction = o.isFunction ∨ L.meddles := by
  cases h with
  | entry k v _ => cases k <;> exact .inl rfl
  | remove k _ => cases k <;> exact .inl rfl
  | field name v _ _ _ => exact .inl rfl
  | indices values _ => exact .inl rfl
  | pop => exact .inl rfl
  | attributes a _ => exact .inl rfl
  | enclose strings members binding plain _ =>
    refine .inl ?_
    simp [Object.isFunction, Object.function?, plain]
  | rebind binding interface =>
    refine .inl ?_
    simp [Object.isFunction, Object.function?, interface]
  | disclose interface =>
    refine .inl ?_
    simp [Object.isFunction, Object.function?, interface]
  | meddled o' allowed => exact .inr allowed

namespace Machine

/-- **An object stays a function, or stays none**, as far as the machine is concerned. -/
theorem Evolves.isFunction_eq [L : Latitude] {m m' : Machine} (h : m.Evolves m') {p : ObjectId}
    (exists_ : p.serial - 1 < m.objects.size) :
    (m'.object p).isFunction = (m.object p).isFunction ∨ L.meddles := by
  -- that the object exists is carried along: the store only grows
  induction h with
  | refl m => exact .inl rfl
  | trans first _ ih ih' =>
    rcases ih exists_ with same | allowed
    · rcases ih' (Nat.lt_of_lt_of_le exists_ first.size_le) with same' | allowed
      · exact .inl (same'.trans same)
      · exact .inr allowed
    · exact .inr allowed
  | change step =>
    rcases step.object_cases exists_ with same | change | allowed
    · exact .inl (congrArg Object.isFunction same)
    · exact change.isFunction_eq
    · exact .inr allowed
  | imported name v _ delivered _ kept ih =>
    have objects := objects_of delivered
    rcases ih (Nat.lt_of_lt_of_eq exists_ (congrArg Array.size objects).symm) with same | allowed
    · left
      rw [object_of (objects_of kept)]
      exact same.trans (congrArg Object.isFunction (object_of objects p))
    · exact .inr allowed

grind_pattern Evolves.isFunction_eq => m.Evolves m', (m.object p).isFunction, m'.object p

end Machine

end StubMachine
