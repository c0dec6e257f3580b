import StubMachine.Json.Tree
import StubMachine.Machine.Step

/-!
# No reference dangles

A value that is an object or a type is only its number.  A machine **backs** a piece of data
if every object and every type that the data refers to exists in its store.

A machine is **whole** if it backs everything that it holds itself: the entries and types of
its objects, the variables, the value stacks, the results of modules, what is pending.
-/

namespace StubMachine

/-! ## The store -/

/-- **The store**: what scripts can build on, with the names that the embedder was asked for and
those of the files that were loaded, and with what happened to modules. -/
structure Estate where
  types : TypeTable
  objects : Array Object
  modules : Std.HashMap String Value
  asked : List String
  files : Array String
  history : Array ModuleEvent

/-- How many objects and types there are. -/
structure Extent where
  objects : Nat
  types : Nat

instance : LE Extent := ⟨fun n n' => n.objects ≤ n'.objects ∧ n.types ≤ n'.types⟩

theorem Extent.le_refl (n : Extent) : n ≤ n := ⟨Nat.le_refl _, Nat.le_refl _⟩

theorem Extent.le_trans {n n' n'' : Extent} (h : n ≤ n') (h' : n' ≤ n'') : n ≤ n'' :=
  ⟨Nat.le_trans h.1 h'.1, Nat.le_trans h.2 h'.2⟩

/-- How many objects and types there are in a store. -/
def Estate.extent (estate : Estate) : Extent := ⟨estate.objects.size, estate.types.records.size⟩

namespace Machine

/-- The names of the modules that the embedder was asked for, in order. -/
def asked (m : Machine) : List String :=
  m.events.toList.filterMap fun
    | .fetched name => some name
    | _ => none

/-- The store of a machine. -/
def estate (m : Machine) : Estate := ⟨m.types, m.objects, m.modules, m.asked, m.files, m.history⟩

/-- How many objects and types there are in a machine. -/
def extent (m : Machine) : Extent := m.estate.extent

end Machine

/-! ## Data that refers to the store -/

/-- Data that may refer to objects and types. -/
class Refers (α : Type) where
  /-- The data refers to none but the first objects and types, as many as there are. -/
  Within : Extent → α → Prop
  mono : ∀ {n n' : Extent} {a : α}, Within n a → n ≤ n' → Within n' a

/-- Data that refers to no object and no type of its own. -/
class Inert (α : Type) : Prop

instance : Inert Unit := ⟨⟩
instance : Inert Bool := ⟨⟩
instance : Inert Nat := ⟨⟩
instance : Inert UInt8 := ⟨⟩
instance : Inert UInt32 := ⟨⟩
instance : Inert Float := ⟨⟩
instance : Inert Char := ⟨⟩
instance : Inert String := ⟨⟩
instance : Inert Operator := ⟨⟩
instance : Inert Assignment := ⟨⟩
instance : Inert Instruction := ⟨⟩
instance : Inert Stub := ⟨⟩
instance : Inert Json := ⟨⟩
instance : Inert Layout := ⟨⟩
instance : Inert (ForInStep PUnit) := ⟨⟩

namespace Refers

instance {α : Type} [Inert α] : Refers α := ⟨fun _ _ => True, fun h _ => h⟩

instance : Refers ObjectId where
  Within n o := o.serial - 1 < n.objects
  mono h le := Nat.lt_of_lt_of_le h le.1

instance : Refers TypeId where
  Within n t := 1 ≤ t.number ∧ t.number ≤ n.types
  mono h le := ⟨h.1, Nat.le_trans h.2 le.2⟩

instance : Refers Value where
  Within n v := match v with
    | .object o => Within n o
    | .type t => Within n t
    | .empty | .boolean _ | .number _ | .string _ => True
  mono {_ _ v} h le := match v, h with
    | .object _, h | .type _, h => mono h le
    | .empty, h | .boolean _, h | .number _, h | .string _, h => h

instance : Refers Key where
  Within n k := match k with
    | .object o => Within n o
    | .type t => Within n t
    | .string _ | .index _ | .boolean _ => True
  mono {_ _ k} h le := match k, h with
    | .object _, h | .type _, h => mono h le
    | .string _, h | .index _, h | .boolean _, h => h

section Containers
variable {α β : Type} [Refers α] [Refers β]

instance : Refers (Option α) where
  Within n a? := ∀ a, a? = some a → Within n a
  mono h le a eq := mono (h a eq) le

instance : Refers (List α) where
  Within n l := ∀ a ∈ l, Within n a
  mono h le a mem := mono (h a mem) le

instance : Refers (Array α) where
  Within n as := ∀ a ∈ as, Within n a
  mono h le a mem := mono (h a mem) le

instance : Refers (α × β) where
  Within n p := Within n p.1 ∧ Within n p.2
  mono h le := ⟨mono h.1 le, mono h.2 le⟩

instance [BEq α] [Hashable α] : Refers (OrderedMap α β) where
  Within n entries := Within n entries.toList
  mono h le := mono h le

instance {ε : Type} : Refers (Except ε α) where
  Within n r := ∀ a, r = .ok a → Within n a
  mono h le a eq := mono (h a eq) le

end Containers

instance : Refers Member where
  Within n member := match member with
    | .method function => Within n function
    | .accessor getter setter => Within n getter ∧ Within n setter
  mono {_ _ member} h le := match member, h with
    | .method _, h => mono h le
    | .accessor _ _, h => ⟨mono h.1 le, mono h.2 le⟩

instance : Refers FunctionFacet where
  Within n f := Within n f.boundBase
  mono h le := mono h le

instance : Refers Facet where
  Within n facet := match facet with
    | .function f => Within n f
    | .interface members binding => Within n members ∧ Within n binding
    | .plain | .record _ => True
  mono {_ _ facet} h le := match facet, h with
    | .function _, h => mono h le
    | .interface _ _, h => ⟨mono h.1 le, mono h.2 le⟩
    | .plain, h | .record _, h => h

instance : Refers Object where
  Within n o := (Within n o.strings ∧ Within n o.indices ∧ Within n o.booleans ∧
    Within n o.objects ∧ Within n o.types) ∧ Within n o.facet ∧ Within n o.attributes ∧
    Within n o.type
  mono h le := ⟨⟨mono h.1.1 le, mono h.1.2.1 le, mono h.1.2.2.1 le, mono h.1.2.2.2.1 le,
    mono h.1.2.2.2.2 le⟩, mono h.2.1 le, mono h.2.2.1 le, mono h.2.2.2 le⟩

instance : Refers Restart where
  Within n condition := match condition with
    | .entries keys values _ => Within n keys ∧ Within n values
    | .count .. | .forever => True
  mono {_ _ condition} h le := match condition, h with
    | .entries .., h => ⟨mono h.1 le, mono h.2 le⟩
    | .count .., h | .forever, h => h

instance : Refers Frame where
  Within n f := Within n f.stack ∧ Within n f.restart
  mono h le := ⟨mono h.1 le, mono h.2 le⟩

instance : Refers Catchable where
  Within n c := Within n c.payload
  mono h le := mono h le

instance : Refers Native where
  Within n native := Within n native.value
  mono h le := mono h le

instance : Refers Route where
  Within n route := match route with
    | .member _ member binding => Within n member ∧ Within n binding
    | .record _ | .plain => True
  mono {_ _ route} h le := match route, h with
    | .member .., h => ⟨mono h.1 le, mono h.2 le⟩
    | .record _, h | .plain, h => h

instance : Refers Flow where
  Within n flow := match flow with
    | .next => True
    | .done v => Within n v
  mono {_ _ flow} h le := match flow, h with
    | .next, h => h
    | .done _, h => mono h le

instance : Refers Request where
  Within n request := match request with
    | .call function arguments binding =>
      Within n function ∧ Within n arguments ∧ Within n binding
    | .enter facet parameters restart =>
      Within n facet ∧ Within n parameters ∧ Within n restart
  mono {_ _ request} h le := match request, h with
    | .call .., h => ⟨mono h.1 le, mono h.2.1 le, mono h.2.2 le⟩
    | .enter .., h => ⟨mono h.1 le, mono h.2.1 le, mono h.2.2 le⟩

end Refers

/-! ## Backing -/

namespace Machine

/-- Every object and every type that the data refers to exists. -/
def Backs (m : Machine) {α : Type} [Refers α] (a : α) : Prop := Refers.Within m.extent a

/-- **Nothing that the machine holds dangles.** -/
structure Whole (m : Machine) : Prop where
  builtins : BuiltinType.all.size ≤ m.types.records.size
  objects : m.Backs m.objects
  slots : m.Backs m.slots
  frames : m.Backs m.frames
  modules : ∀ (name : String) (v : Value), m.modules[name]? = some v → m.Backs v
  natives : m.Backs m.natives
  pending : m.Backs m.pending
  lastUnhandled : m.Backs m.lastUnhandled

end Machine

end StubMachine
