import StubMachine.Proofs.Json.Codec

/-!
# Writing objects that hold each other

Any object may stand in any other, so the objects in a value are a graph, and its document is the
tree that the graph unfolds to.  **In a machine without attributes and interfaces a value has a
document exactly when no object in it is inside itself and none has an object among its keys**, and
writing it ends in either case, without a change (`document_of_graph`).

Writing knows of the graph only the objects around the value that it is at, its *trail*.  Each of
them leads to the value, so one that is met again is inside itself; and each is met once, so the
trail is no longer than the store, which is why writing ends.  What is met again on another path is
not on the trail, and is written again (`Machine.Unfolds.unique`).
-/

namespace StubMachine

open StubMachine.Action

/-! ## Actions that decide -/

namespace Action
variable {α β γ : Type} {m : Machine}

/-- **An action decides**: it ends with a good result or with a fault for which there is a reason,
and changes nothing. -/
def Decides (m : Machine) (x : Action α) (Good : α → Prop) (Bad : Fault → Prop) : Prop :=
  (∃ a, x m = .ok a m ∧ Good a) ∨ ∃ f, x m = .error (.plain f) m ∧ Bad f

namespace Decides
variable {x : Action α} {Good : α → Prop} {Bad : Fault → Prop}

theorem pure {a : α} (good : Good a) : Decides m (pure a) Good Bad := .inl ⟨a, rfl, good⟩

theorem fail {f : Fault} (bad : Bad f) : Decides m (fail f : Action α) Good Bad := .inr ⟨f, rfl, bad⟩

theorem mono {Good' : α → Prop} {Bad' : Fault → Prop} (h : Decides m x Good Bad)
    (good : ∀ a, Good a → Good' a) (bad : ∀ f, Bad f → Bad' f) : Decides m x Good' Bad' := by
  rcases h with ⟨a, ran, h⟩ | ⟨f, ran, h⟩
  · exact .inl ⟨a, ran, good a h⟩
  · exact .inr ⟨f, ran, bad f h⟩

theorem bind {k : α → Action β} {Good' : β → Prop} (h : Decides m x Good Bad)
    (next : ∀ a, Good a → Decides m (k a) Good' Bad) : Decides m (x >>= k) Good' Bad := by
  rcases h with ⟨a, ran, good⟩ | ⟨f, ran, bad⟩
  · rw [Decides, Action.bind_ok ran]
    exact next a good
  · exact .inr ⟨f, Action.bind_error ran, bad⟩

/-- The first fault of a list is the fault of the whole. -/
theorem mapM {f : γ → Action β} {Good : γ → β → Prop} {Bad : γ → Fault → Prop} {l : List γ}
    (each : ∀ c ∈ l, Decides m (f c) (Good c) (Bad c)) :
    Decides m (l.mapM f) (List.Forall₂ Good l) fun fault => ∃ c ∈ l, Bad c fault := by
  induction l with
  | nil => exact .pure .nil
  | cons c l ih =>
    rw [List.mapM_cons]
    have first : Decides m (f c) (Good c) fun fault => ∃ c' ∈ c :: l, Bad c' fault :=
      (each c List.mem_cons_self).mono (fun _ good => good)
        fun _ bad => ⟨c, List.mem_cons_self, bad⟩
    have others : Decides m (l.mapM f) (List.Forall₂ Good l) fun fault =>
        ∃ c' ∈ c :: l, Bad c' fault :=
      (ih fun c' mem => each c' (List.mem_cons_of_mem _ mem)).mono (fun _ good => good)
        fun _ ⟨c', mem, bad⟩ => ⟨c', List.mem_cons_of_mem _ mem, bad⟩
    exact first.bind fun b good => others.bind fun bs goods => .pure (.cons good goods)

end Decides

end Action

/-! ## The graph -/

/-- An object whose keys are its indices is written as an array. -/
def Object.IsList (o : Object) : Prop :=
  o.keys.length = o.indices.size ∧ o.keys.all Value.isNumber = true

namespace Object
variable {o : Object}

instance : Decidable o.IsList := instDecidableAnd

/-- The keys with their values. -/
def entries (o : Object) : List (Value × Value) := o.keys.zip o.values

/-- The keys of an array have names, being numbers. -/
theorem IsList.noObjects (list : o.IsList) (p : ObjectId) : .object p ∉ o.keys :=
  fun key => Bool.noConfusion (List.all_eq_true.mp list.2 _ key)

theorem empty_not_key : .empty ∉ o.keys := by
  simp [keys, Value.ofNat]

end Object

/-- Two lists belong to a third one, item by item.  They are the same if nothing else can belong to
what the items of the first belong to. -/
theorem eq_of_forall₂ {α β : Type} {R : α → β → Prop} {l : List α} {js js' : List β}
    (only : List.Forall₂ (fun a b => ∀ b', R a b' → b = b') l js) (each : List.Forall₂ R l js') :
    js = js' := by
  induction only generalizing js' with
  | nil => cases each; rfl
  | cons first _ ih =>
    cases each with
    | cons first' others' => rw [first _ first', ih others']

namespace Machine

/-- **A machine without attribute sets and interfaces.** -/
structure Bare (m : Machine) : Prop where
  attributes : ∀ o, (m.object o).attributes = none
  interface? : ∀ o, (m.object o).interface? = none

/-- **An object embeds another one** if that is the value of an entry that is written.  What a
function holds is not written. -/
def Embeds (m : Machine) (o p : ObjectId) : Prop :=
  (m.object o).isFunction = false ∧ .object p ∈ (m.object o).values

/-- The objects in a value: itself, and those that the objects in it embed. -/
def Reached (m : Machine) (v : Value) (o : ObjectId) : Prop :=
  ∃ first, v = .object first ∧ Relation.ReflTransGen m.Embeds first o

/-- **What has a document**: no object in the value is inside itself, and none but functions has an
object among its keys. -/
structure Writable (m : Machine) (v : Value) : Prop where
  acyclic : ∀ o, m.Reached v o → ¬ Relation.TransGen m.Embeds o o
  named : ∀ o, m.Reached v o → (m.object o).isFunction = false → ∀ p, .object p ∉ (m.object o).keys

/-- **Why a value has no document.** -/
inductive Refused (m : Machine) (v : Value) : Fault → Prop
  | cycle {o : ObjectId} (reached : m.Reached v o) (inside : Relation.TransGen m.Embeds o o) :
    Refused m v .cyclicDocument
  | key {o p : ObjectId} (reached : m.Reached v o) (written : (m.object o).isFunction = false)
      (key : .object p ∈ (m.object o).keys) :
    Refused m v (.documentKey .object)

/-- **The document that a value unfolds to.**  An object in it is written out wherever it is met,
whether or not it has been met before; numbers are as documents have them, and functions are null. -/
inductive Unfolds (m : Machine) : Value → Json → Prop
  | empty : Unfolds m .empty .null
  | boolean (b : Bool) : Unfolds m (.boolean b) (.boolean b)
  | number (n : Float) : Unfolds m (.number n) (Json.ofNumber n)
  | string (s : String) : Unfolds m (.string s) (.string s)
  | type (t : TypeId) : Unfolds m (.type t) (.string (m.types.name t))
  | function {o : ObjectId} (function : (m.object o).isFunction = true) :
    Unfolds m (.object o) .null
  | array {o : ObjectId} {items : List Json} (written : (m.object o).isFunction = false)
      (list : (m.object o).IsList) (all : (m.object o).values.length = items.length)
      (each : ∀ v j, (v, j) ∈ (m.object o).values.zip items → Unfolds m v j) :
    Unfolds m (.object o) (.array items)
  | object {o : ObjectId} {members : List (String × Json)}
      (written : (m.object o).isFunction = false) (noList : ¬ (m.object o).IsList)
      (all : (m.object o).entries.length = members.length)
      (named : ∀ entry member, (entry, member) ∈ (m.object o).entries.zip members →
        Json.memberName m entry.1 = .ok member.1)
      (each : ∀ entry member, (entry, member) ∈ (m.object o).entries.zip members →
        Unfolds m entry.2 member.2) :
    Unfolds m (.object o) (.object (OrderedMap.ofList members).toList)

variable {m : Machine}

/-- A value unfolds to one document at most, so an object is written in the same way wherever it
is met. -/
theorem Unfolds.unique {v : Value} {j j' : Json} (h : m.Unfolds v j) (h' : m.Unfolds v j') :
    j = j' := by
  induction h generalizing j' with
  | empty => cases h'; rfl
  | boolean b => cases h'; rfl
  | number n => cases h'; rfl
  | string s => cases h'; rfl
  | type t => cases h'; rfl
  | function function =>
    cases h' with
    | function _ => rfl
    | array written => exact absurd (function.symm.trans written) Bool.noConfusion
    | object written => exact absurd (function.symm.trans written) Bool.noConfusion
  | array written list all each ih =>
    cases h' with
    | function function => exact absurd (function.symm.trans written) Bool.noConfusion
    | array _ _ all' each' =>
      rw [eq_of_forall₂ (List.forall₂_iff_zip.mpr ⟨all, fun mem j' => ih _ _ mem⟩)
        (List.forall₂_iff_zip.mpr ⟨all', each' _ _⟩)]
    | object _ noList => exact absurd list noList
  | object written noList all named each ih =>
    cases h' with
    | function function => exact absurd (function.symm.trans written) Bool.noConfusion
    | array _ list => exact absurd list noList
    | object _ _ all' named' each' =>
      rw [eq_of_forall₂ (List.forall₂_iff_zip.mpr ⟨all, fun mem member' h => ?_⟩)
        (List.forall₂_iff_zip.mpr ⟨all', fun mem => And.intro (named' _ _ mem) (each' _ _ mem)⟩)]
      exact Prod.ext (Except.ok.inj ((named _ _ mem).symm.trans h.1)) (ih _ _ mem h.2)

/-! ## What is refused -/

theorem Reached.self (o : ObjectId) : m.Reached (.object o) o := ⟨o, rfl, .refl⟩

section
variable {o : ObjectId} {v : Value} (written : (m.object o).isFunction = false)
  (mem : v ∈ (m.object o).values)
include written mem

theorem Reached.outward {q : ObjectId} (reached : m.Reached v q) : m.Reached (.object o) q := by
  obtain ⟨first, rfl, path⟩ := reached
  exact ⟨o, rfl, .head ⟨written, mem⟩ path⟩

/-- What is refused in the value of an entry is refused in the object. -/
theorem Refused.outward {f : Fault} (refused : m.Refused v f) : m.Refused (.object o) f := by
  cases refused with
  | cycle reached inside => exact .cycle (reached.outward written mem) inside
  | key reached composite key => exact .key (reached.outward written mem) composite key

end

theorem writable_iff {v : Value} : m.Writable v ↔ ∀ f, ¬ m.Refused v f := by
  constructor
  · rintro ⟨acyclic, named⟩ f (⟨reached, inside⟩ | ⟨reached, written, key⟩)
    · exact acyclic _ reached inside
    · exact named _ reached written _ key
  · intro sound
    exact ⟨fun o reached inside => sound _ (.cycle reached inside),
      fun o reached written p key => sound _ (.key reached written key)⟩

/-- A value that is no object is written as it is. -/
theorem writable_leaf {v : Value} (leaf : ∀ o, v ≠ .object o) : m.Writable v :=
  ⟨fun _ ⟨first, same, _⟩ => absurd same (leaf first), fun _ ⟨first, same, _⟩ =>
    absurd same (leaf first)⟩

/-- **An object has a document if what it embeds has one** and its keys have names.  One that is
inside itself embeds another one that is, so the cycle has been found there. -/
theorem writable_object {o : ObjectId} (each : ∀ p, m.Embeds o p → m.Writable (.object p))
    (named : (m.object o).isFunction = false → ∀ p, .object p ∉ (m.object o).keys) :
    m.Writable (.object o) := by
  constructor
  · rintro q ⟨first, same, path⟩ inside
    cases same
    rcases path.cases_head with rfl | ⟨p, embeds, path⟩
    · -- the way back to `o` starts at an object that `o` embeds
      obtain ⟨p, embeds, back⟩ := Relation.TransGen.head'_iff.mp inside
      exact (each p embeds).acyclic o ⟨p, rfl, back⟩ inside
    · exact (each p embeds).acyclic q ⟨p, rfl, path⟩ inside
  · rintro q ⟨first, same, path⟩
    cases same
    rcases path.cases_head with rfl | ⟨p, embeds, path⟩
    · exact named
    · exact (each p embeds).named q ⟨p, rfl, path⟩

theorem writable_function {o : ObjectId} (function : (m.object o).isFunction = true) :
    m.Writable (.object o) :=
  writable_object (fun _ embeds => absurd (function.symm.trans embeds.1) Bool.noConfusion)
    fun written => absurd (function.symm.trans written) Bool.noConfusion

/-! ## The trail -/

/-- **The objects around a value**: they are different, are in the store, and lead to the value. -/
structure Trail (m : Machine) (visiting : List ObjectId) (v : Value) : Prop where
  nodup : visiting.Nodup
  stored : ∀ p ∈ visiting, p.serial ≤ m.objects.size
  leads : ∀ p ∈ visiting, ∀ o, v = .object o → Relation.TransGen m.Embeds p o

namespace Trail
variable {visiting : List ObjectId}

theorem nil (v : Value) : m.Trail [] v :=
  ⟨.nil, fun _ mem => (List.not_mem_nil mem).elim, fun _ mem => (List.not_mem_nil mem).elim⟩

/-- The numbers of objects in the store go up to its size, from zero, which reads as one. -/
theorem length_le {v : Value} (trail : m.Trail visiting v) :
    visiting.length ≤ m.objects.size + 1 := by
  have serials : (visiting.map ObjectId.serial).Nodup :=
    trail.nodup.map fun _ _ => congrArg ObjectId.mk
  have within : visiting.map ObjectId.serial ⊆ List.range (m.objects.size + 1) := by
    intro i mem
    obtain ⟨p, around, rfl⟩ := List.mem_map.mp mem
    exact List.mem_range.mpr (Nat.lt_succ_of_le (trail.stored p around))
  simpa using (serials.subperm within).length_le

/-- An object that holds anything is in the store. -/
theorem stored_of_value {o : ObjectId} {w : Value} (mem : w ∈ (m.object o).values) :
    o.serial ≤ m.objects.size := by
  by_contra beyond
  have blank : m.object o = Object.blank := by
    rw [Machine.object, Array.getD_eq_getD_getElem?, Array.getElem?_eq_none (by omega)]
    rfl
  rw [blank] at mem
  exact List.not_mem_nil mem

/-- One step further in. -/
theorem inside {o : ObjectId} (trail : m.Trail visiting (.object o)) (new : o ∉ visiting)
    (written : (m.object o).isFunction = false) {w : Value} (mem : w ∈ (m.object o).values) :
    m.Trail (o :: visiting) w := by
  refine ⟨List.nodup_cons.mpr ⟨new, trail.nodup⟩, fun p at_ => ?_, fun p at_ q same => ?_⟩
  · rcases List.mem_cons.mp at_ with rfl | at_
    · exact stored_of_value mem
    · exact trail.stored p at_
  · have embeds : m.Embeds o q := ⟨written, same ▸ mem⟩
    rcases List.mem_cons.mp at_ with rfl | at_
    · exact .single embeds
    · exact (trail.leads p at_ o rfl).tail embeds

end Trail

/-! ## Writing -/

/-- **Writing a value decides whether it has a document**, and gives it. -/
abbrev Settles (m : Machine) (write : Action Json) (v : Value) : Prop :=
  Decides m write (fun j => m.Writable v ∧ m.Unfolds v j) (m.Refused v)

section
variable {e : Engine} {fuel : Nat} {visiting : List ObjectId} {o : ObjectId}

/-- The items of an array are written one after the other. -/
theorem settles_array (written : (m.object o).isFunction = false) (list : (m.object o).IsList)
    {write : Value → Action Json} (each : ∀ v ∈ (m.object o).values, m.Settles (write v) v) :
    m.Settles (do return .array (← (m.object o).values.mapM write)) (.object o) := by
  refine .bind (.mono (.mapM each) (fun _ good => good) fun f ⟨v, mem, bad⟩ =>
    bad.outward written mem) fun js good => .pure ?_
  obtain ⟨writable, unfolds⟩ := (List.forall₂_and_left _ _).mp good
  obtain ⟨all, each⟩ := List.forall₂_iff_zip.mp unfolds
  exact ⟨writable_object (fun p embeds => writable _ embeds.2) fun _ => list.noObjects,
    .array written list all fun _ _ => each⟩

/-- The keys of an object have names, unless they are objects. -/
theorem memberName_key {key : Value} (mem : key ∈ (m.object o).keys) :
    (∃ name, Json.memberName m key = .ok name ∧ ∀ p, key ≠ .object p) ∨
      Json.memberName m key = .error (.documentKey .object) ∧ ∃ p, key = .object p := by
  cases key with
  | empty => exact absurd mem Object.empty_not_key
  | boolean b => exact .inl ⟨_, rfl, fun _ => Value.noConfusion⟩
  | number n => exact .inl ⟨_, rfl, fun _ => Value.noConfusion⟩
  | string s => exact .inl ⟨_, rfl, fun _ => Value.noConfusion⟩
  | type t => exact .inl ⟨_, rfl, fun _ => Value.noConfusion⟩
  | object p => exact .inr ⟨rfl, p, rfl⟩

/-- An entry is refused for its key, which is looked at first, or for its value. -/
theorem ofEntry_decides {entry : Value × Value} (key : entry.1 ∈ (m.object o).keys)
    (value : m.Settles (Json.ofValue e fuel visiting entry.2) entry.2) :
    Decides m (Json.ofEntry e fuel visiting entry)
      (fun member => ((∀ p, entry.1 ≠ .object p) ∧ m.Writable entry.2) ∧
        Json.memberName m entry.1 = .ok member.1 ∧ m.Unfolds entry.2 member.2)
      fun f => m.Refused entry.2 f ∨ f = .documentKey .object ∧ ∃ p, entry.1 = .object p := by
  have looked : Decides m (Action.read fun m => Json.memberName m entry.1)
      (· = Json.memberName m entry.1)
      fun f => m.Refused entry.2 f ∨ f = .documentKey .object ∧ ∃ p, entry.1 = .object p :=
    .inl ⟨_, rfl, rfl⟩
  refine looked.bind fun name same => ?_
  rcases memberName_key key with ⟨text, named, noObject⟩ | ⟨named, object⟩
  · obtain rfl := same.trans named
    refine .bind (value.mono (fun _ good => good) fun f bad => .inl bad) fun j good => .pure ?_
    exact ⟨⟨noObject, good.1⟩, named, good.2⟩
  · obtain rfl := same.trans named
    exact .fail (.inr ⟨rfl, object⟩)

/-- The entries of an object are written one after the other. -/
theorem settles_object (written : (m.object o).isFunction = false)
    (all : (m.object o).values.length = (m.object o).keys.length) (noList : ¬ (m.object o).IsList)
    (each : ∀ v ∈ (m.object o).values, m.Settles (Json.ofValue e fuel visiting v) v) :
    m.Settles (do
      let members ← (m.object o).entries.mapM (Json.ofEntry e fuel visiting)
      return .object (OrderedMap.ofList members).toList) (.object o) := by
  have entries : ∀ entry ∈ (m.object o).entries,
      entry.1 ∈ (m.object o).keys ∧ entry.2 ∈ (m.object o).values :=
    fun entry mem => List.of_mem_zip mem
  refine .bind (.mono (.mapM fun entry mem => ofEntry_decides (entries entry mem).1
    (each _ (entries entry mem).2)) (fun _ good => good) fun f ⟨entry, mem, bad⟩ => ?_)
    fun members good => .pure ?_
  · rcases bad with bad | ⟨rfl, p, same⟩
    · exact bad.outward written (entries entry mem).2
    · exact .key (.self o) written (same ▸ (entries entry mem).1)
  · obtain ⟨sound, members⟩ := (List.forall₂_and_left _ _).mp good
    obtain ⟨count, each⟩ := List.forall₂_iff_zip.mp members
    -- every key and every value is in an entry, since there are as many of both
    have keyed : ∀ p, .object p ∉ (m.object o).keys := by
      intro p mem
      rw [← List.map_fst_zip (Nat.le_of_eq all.symm)] at mem
      obtain ⟨entry, mem, same⟩ := List.mem_map.mp mem
      exact (sound entry mem).1 p same
    have valued : ∀ v ∈ (m.object o).values, m.Writable v := by
      intro v mem
      rw [← List.map_snd_zip (Nat.le_of_eq all)] at mem
      obtain ⟨entry, listed, rfl⟩ := List.mem_map.mp mem
      exact (sound entry listed).2
    exact ⟨writable_object (fun p embeds => valued _ embeds.2) fun _ => keyed,
      .object written noList count (fun _ _ mem => (each mem).1) fun _ _ mem => (each mem).2⟩

end

/-- **Writing a value inside its trail decides.**  The fuel is for the objects of the store that are
not on the trail; there is some left, since the trail is no longer than the store. -/
theorem ofValue_settles (bare : m.Bare) (e : Engine) : ∀ {fuel : Nat} {visiting : List ObjectId}
    {v : Value}, m.Trail visiting v → m.objects.size + 2 ≤ fuel + visiting.length →
    m.Settles (Json.ofValue e fuel visiting v) v := by
  intro fuel
  induction fuel with
  | zero =>
    intro visiting v trail room
    -- no fuel would mean a trail that is longer than the store
    have := trail.length_le
    omega
  | succ fuel ih =>
    intro visiting v trail room
    cases v with
    | empty => exact .pure ⟨writable_leaf fun _ => Value.noConfusion, .empty⟩
    | boolean b => exact .pure ⟨writable_leaf fun _ => Value.noConfusion, .boolean b⟩
    | number n => exact .pure ⟨writable_leaf fun _ => Value.noConfusion, .number n⟩
    | string s => exact .pure ⟨writable_leaf fun _ => Value.noConfusion, .string s⟩
    | type t => exact .inl ⟨_, rfl, writable_leaf fun _ => Value.noConfusion, .type t⟩
    | object o =>
      cases written : (m.object o).isFunction with
      | true =>
        exact .inl ⟨.null, Json.ofValue_function written visiting fuel, writable_function written,
          .function written⟩
      | false =>
        by_cases met : o ∈ visiting
        · exact .inr ⟨.cyclicDocument, Json.ofValue_met written met fuel,
            .cycle (.self o) (trail.leads o met o rfl)⟩
        · have each : ∀ v ∈ (m.object o).values,
              m.Settles (Json.ofValue e fuel (o :: visiting) v) v := by
            intro v mem
            refine ih (trail.inside met written mem) ?_
            rw [List.length_cons]
            omega
          rw [Settles, Decides, Json.ofValue_object written (bare.interface? o) (bare.attributes o)
            met]
          split
          case isTrue list => exact settles_array written list each
          case isFalse noList =>
            exact settles_object written (Object.values_length (bare.interface? o)) noList each

end Machine

/-- **Writing a graph of objects ends, and refuses the cyclic ones.**  In a machine without
attribute sets and interfaces a value is written, without a change, as what it unfolds to if no
object in it is inside itself and none but functions has an object among its keys.  Otherwise it is
refused, without a change, for an object in it that is inside itself or that has an object among its
keys.  Fuel for as many objects as the store has is enough, however they are shared. -/
theorem document_of_graph (e : Engine) {m : Machine} (bare : m.Bare) (v : Value) {fuel : Nat}
    (deep : m.objects.size + 2 ≤ fuel) :
    (m.Writable v → ∃ j, Json.ofValue e fuel [] v m = .ok j m ∧ m.Unfolds v j) ∧
      (¬ m.Writable v → ∃ f, Json.ofValue e fuel [] v m = .error (.plain f) m ∧ m.Refused v f) := by
  rcases Machine.ofValue_settles bare e (.nil v) deep with ⟨j, ran, writable, unfolds⟩ | ⟨f, ran, why⟩
  · exact ⟨fun _ => ⟨j, ran, unfolds⟩, fun refused => absurd writable refused⟩
  · exact ⟨fun writable => absurd why (Machine.writable_iff.mp writable f), fun _ => ⟨f, ran, why⟩⟩

/-- A list that holds an empty one twice, and a list that holds itself. -/
def Machine.knotted : Machine :=
  { Machine.initial .standard with
    objects := #[{ Object.blank with indices := #[.object ⟨2⟩, .object ⟨2⟩] }, Object.blank,
      { Object.blank with indices := #[.object ⟨3⟩] }] }

namespace Machine.knotted

theorem bare : knotted.Bare := by
  have held : ∀ o, ∃ values, knotted.object o = { Object.blank with indices := values } := by
    intro o
    rw [Machine.object]
    rcases o.serial - 1 with _ | _ | _ | i
    · exact ⟨_, rfl⟩
    · exact ⟨#[], rfl⟩
    · exact ⟨_, rfl⟩
    · exact ⟨#[], rfl⟩
  constructor
  · intro o
    obtain ⟨values, same⟩ := held o
    rw [same]
    rfl
  · intro o
    obtain ⟨values, same⟩ := held o
    rw [same]
    rfl

theorem inner_unfolds : knotted.Unfolds (.object ⟨2⟩) (.array []) :=
  .array rfl ⟨rfl, rfl⟩ rfl fun _ _ mem => absurd mem List.not_mem_nil

theorem inner_writable : knotted.Writable (.object ⟨2⟩) :=
  writable_object (fun _ embeds => absurd embeds.2 List.not_mem_nil) fun _ _ => List.not_mem_nil

theorem outer_unfolds : knotted.Unfolds (.object ⟨1⟩) (.array [.array [], .array []]) := by
  refine .array rfl (by decide +kernel) rfl fun v j mem => ?_
  have mem : (v, j) ∈ [(Value.object ⟨2⟩, Json.array []), (Value.object ⟨2⟩, Json.array [])] := mem
  simp only [List.mem_cons, List.not_mem_nil, or_false, or_self, Prod.mk.injEq] at mem
  rw [mem.1, mem.2]
  exact inner_unfolds

theorem outer_writable : knotted.Writable (.object ⟨1⟩) := by
  refine writable_object (fun p embeds => ?_) fun _ p => ?_
  · have mem : Value.object p ∈ [Value.object ⟨2⟩, Value.object ⟨2⟩] := embeds.2
    simp only [List.mem_cons, List.not_mem_nil, or_false, or_self] at mem
    rw [mem]
    exact inner_writable
  · have list : (knotted.object ⟨1⟩).IsList := by decide +kernel
    exact list.noObjects p

theorem not_writable : ¬ knotted.Writable (.object ⟨3⟩) := by
  intro writable
  exact writable.acyclic _ (.self _) (.single ⟨rfl, List.mem_cons_self⟩)

end Machine.knotted

/-- What is shared is written twice, and what is inside itself is refused. -/
theorem document_of_knotted :
    let e : Engine := ⟨5, fun _ => pure .empty⟩
    Json.ofValue e e.fuel [] (.object ⟨1⟩) .knotted =
        .ok (.array [.array [], .array []]) .knotted ∧
      ∃ f, Json.ofValue e e.fuel [] (.object ⟨3⟩) .knotted = .error (.plain f) .knotted := by
  intro e
  have deep : Machine.knotted.objects.size + 2 ≤ e.fuel := Nat.le_refl 5
  obtain ⟨j, ran, unfolds⟩ :=
    (document_of_graph e Machine.knotted.bare (.object ⟨1⟩) deep).1 Machine.knotted.outer_writable
  obtain ⟨f, failed, -⟩ :=
    (document_of_graph e Machine.knotted.bare (.object ⟨3⟩) deep).2 Machine.knotted.not_writable
  rw [unfolds.unique Machine.knotted.outer_unfolds] at ran
  exact ⟨ran, f, failed⟩

end StubMachine
