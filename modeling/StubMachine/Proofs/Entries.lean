import Mathlib
import StubMachine.Machine.Access
import StubMachine.Proofs.Evolution
import StubMachine.Proofs.OrderedMap

/-!
# Reading what was written

The keys of an object are of five kinds, and each kind has a partition of its own.  A value that is
used as a key names a **slot** of one of them, or none.  **What was written to a slot is read from
it, and the other slots are as they were** (`reading_over_writing`): that holds of plain objects
and of records alike, and a write that is refused changes nothing that can be read.

Two things make it more than a matter of one partition after the other.  Many numbers name the same
slot, and a write past the last index fills the gap before it.  The gap is filled with Empty, which
is what was read there before (`Object.entry_set_other`).
-/

namespace StubMachine

open StubMachine.Action

/-! ## Slots -/

/-- **A number names an index**: it is finite and, cut toward zero, not negative.  Indices have 64
bits, so a number beyond the largest of them names that one. -/
def Binary64.NamesIndex (n : Float) (i : Nat) : Prop :=
  isFinite n = true ∧ 0 ≤ truncate n ∧ i = min (truncate n).toNat (2 ^ 64 - 1)

/-- **Two values name the same slot**: they are equal strings, equal booleans, the same object, the
same type, or numbers that name the same index. -/
inductive Value.SameSlot : Value → Value → Prop
  | string (s : String) : SameSlot (.string s) (.string s)
  | boolean (b : Bool) : SameSlot (.boolean b) (.boolean b)
  | object (o : ObjectId) : SameSlot (.object o) (.object o)
  | type (t : TypeId) : SameSlot (.type t) (.type t)
  | number {a b : Float} {i : Nat} : Binary64.NamesIndex a i → Binary64.NamesIndex b i →
    SameSlot (.number a) (.number b)

/-- A number that names an index is the key that it names. -/
theorem Key.ofValue_number {n : Float} {k : Key} :
    Key.ofValue (.number n) = .ok k ↔ ∃ i, Binary64.NamesIndex n i ∧ k = .index i := by
  have largest : ((Nat.pow 2 64 : Nat) : Int) - 1 = 18446744073709551615 := rfl
  rw [Key.ofValue]
  by_cases finite : Binary64.isFinite n = true
  · have number : Binary64.isNaN n = false := by
      have : Binary64.exponentField n ≠ 0x7ff := by simpa [Binary64.isFinite] using finite
      simp [Binary64.isNaN, this]
    by_cases negative : Binary64.truncate n < 0
    · simp only [finite, negative, decide_true, Bool.or_true, if_true, reduceCtorEq, false_iff]
      rintro ⟨i, ⟨-, least, -⟩, -⟩
      omega
    · have index : Binary64.toUnsigned 64 n = min (Binary64.truncate n).toNat (2 ^ 64 - 1) := by
        rw [Binary64.toUnsigned, Binary64.clampTo, largest]
        simp only [number, finite, Bool.not_true, Bool.false_eq_true, if_false]
        omega
      simp only [finite, negative, decide_false, Bool.not_true, Bool.or_false, Bool.false_eq_true,
        if_false, Except.ok.injEq, index]
      constructor
      · rintro rfl
        exact ⟨_, ⟨finite, by omega, rfl⟩, rfl⟩
      · rintro ⟨i, ⟨-, -, rfl⟩, rfl⟩
        rfl
  · simp only [finite, Bool.not_false, Bool.true_or, if_true, reduceCtorEq, false_iff]
    rintro ⟨i, ⟨is, -⟩, -⟩
    exact finite is

/-- **Values name the same slot** if they stand for the same key. -/
theorem Value.sameSlot_iff {a b : Value} :
    SameSlot a b ↔ ∃ k, Key.ofValue a = .ok k ∧ Key.ofValue b = .ok k := by
  constructor
  · intro same
    cases same with
    | string s => exact ⟨.string s, rfl, rfl⟩
    | boolean b => exact ⟨.boolean b, rfl, rfl⟩
    | object o => exact ⟨.object o, rfl, rfl⟩
    | type t => exact ⟨.type t, rfl, rfl⟩
    | number first second =>
      exact ⟨_, Key.ofValue_number.mpr ⟨_, first, rfl⟩, Key.ofValue_number.mpr ⟨_, second, rfl⟩⟩
  · rintro ⟨k, first, second⟩
    cases a with
    | number n =>
      obtain ⟨i, names, rfl⟩ := Key.ofValue_number.mp first
      cases b with
      | number n' =>
        obtain ⟨j, names', same⟩ := Key.ofValue_number.mp second
        cases same
        exact .number names names'
      | _ => cases second
    | empty => cases first
    | string s | boolean s | object s | type s =>
      cases first
      cases b with
      | number n' =>
        obtain ⟨j, -, same⟩ := Key.ofValue_number.mp second
        cases same
      | _ =>
        cases second <;> constructor

/-! ## Entries -/

namespace Object

/-- What stands under a key, Empty if nothing does or the value is no key. -/
def entry (o : Object) (key : Value) : Value :=
  match Key.ofValue key with
  | .ok k => .ofOption (o.get? k)
  | .error _ => .empty

/-- A value under an index, after one was stored under some index. -/
theorem getElem?_setIndex (values : Array Value) (i j : Nat) (v : Value) :
    (setIndex values i v)[j]? =
      if i = j then some v
      else if values.size ≤ j ∧ j < i then some .empty
      else values[j]? := by
  unfold setIndex
  by_cases inside : i < values.size
  · simp only [if_pos inside, Array.getElem?_setIfInBounds]
    by_cases same : i = j
    · simp only [same, if_true]
    · simp only [if_neg same]
      rw [if_neg (by omega)]
  · simp only [if_neg inside, Array.getElem?_push, Array.size_append, Array.size_replicate]
    by_cases same : i = j
    · rw [if_pos (by omega), if_pos same]
    · rw [if_neg (by omega), if_neg same, Array.getElem?_append]
      by_cases gap : values.size ≤ j ∧ j < i
      · rw [if_neg (by omega), if_pos gap, Array.getElem?_replicate, if_pos (by omega)]
      · rw [if_neg gap]
        by_cases old : j < values.size
        · rw [if_pos old]
        · rw [if_neg old, Array.getElem?_replicate, if_neg (by omega),
            Array.getElem?_eq_none (by omega)]

/-- A value under a boolean, after one was stored under some boolean. -/
theorem find?_setBoolean (b b' : Bool) (v : Value) (entries : List (Bool × Value)) :
    ((setBoolean b v entries).find? (·.1 == b')).map Prod.snd =
      if b = b' then some v else (entries.find? (·.1 == b')).map Prod.snd := by
  induction entries with
  | nil =>
    by_cases same : b = b'
    · simp [setBoolean, same]
    · simp [setBoolean, same]
  | cons e entries ih =>
    obtain ⟨k, w⟩ := e
    unfold setBoolean
    by_cases here : k = b
    · subst here
      by_cases same : k = b'
      · simp [same]
      · simp [same]
    · by_cases same : k = b'
      · subst same
        simp [here, Ne.symm here]
      · simp [here, same, ih]

/-- **What is stored under a key is found there.** -/
theorem get?_set_self (o : Object) (k : Key) (v : Value) : (o.set k v).get? k = some v := by
  cases k with
  | string s => simp [set, get?, OrderedMap.get?_insert]
  | index i => simp [set, get?, getElem?_setIndex]
  | boolean b =>
    have found := find?_setBoolean b b v o.booleans
    rwa [if_pos rfl] at found
  | object p => simp [set, get?, OrderedMap.get?_insert]
  | type t => simp [set, get?, OrderedMap.get?_insert]

/-- **What is read under other keys stays as it was**, also where a gap is filled. -/
theorem get?_set_other (o : Object) {k k' : Key} (other : k ≠ k') (v : Value) :
    Value.ofOption ((o.set k v).get? k') = .ofOption (o.get? k') := by
  cases k with
  | string s =>
    cases k' with
    | string s' =>
      have : s ≠ s' := fun same => other (same ▸ rfl)
      simp [set, get?, OrderedMap.get?_insert, this]
    | _ => rfl
  | index i =>
    cases k' with
    | index j =>
      have : i ≠ j := fun same => other (same ▸ rfl)
      simp only [set, get?, getElem?_setIndex, if_neg this]
      split
      · rename_i gap
        rw [Array.getElem?_eq_none gap.1]
        rfl
      · rfl
    | _ => rfl
  | boolean b =>
    cases k' with
    | boolean b' =>
      have : b ≠ b' := fun same => other (same ▸ rfl)
      have found := find?_setBoolean b b' v o.booleans
      rw [if_neg this] at found
      exact congrArg Value.ofOption found
    | _ => rfl
  | object p =>
    cases k' with
    | object p' =>
      have : p ≠ p' := fun same => other (same ▸ rfl)
      simp [set, get?, OrderedMap.get?_insert, this]
    | _ => rfl
  | type t =>
    cases k' with
    | type t' =>
      have : t ≠ t' := fun same => other (same ▸ rfl)
      simp [set, get?, OrderedMap.get?_insert, this]
    | _ => rfl

theorem entry_set_same (o : Object) {key key' : Value} {k : Key} (stands : Key.ofValue key = .ok k)
    (same : key.SameSlot key') (v : Value) : (o.set k v).entry key' = v := by
  obtain ⟨_, first, second⟩ := Value.sameSlot_iff.mp same
  cases stands.symm.trans first
  rw [entry, second]
  exact congrArg Value.ofOption (get?_set_self o k v)

theorem entry_set_other (o : Object) {key key' : Value} {k : Key} (stands : Key.ofValue key = .ok k)
    (other : ¬ key.SameSlot key') (v : Value) : (o.set k v).entry key' = o.entry key' := by
  unfold entry
  cases stands' : Key.ofValue key' with
  | error f => rfl
  | ok k' =>
    have : k ≠ k' := by
      rintro rfl
      exact other (Value.sameSlot_iff.mpr ⟨k, stands, stands'⟩)
    exact get?_set_other o this v

end Object

/-! ## Direct access -/

/-- A key in the error about a record that does not have it. -/
def Value.inMessages : Value → String
  | .string s => "'" ++ s ++ "'"
  | v => v.kind.name

namespace Object

/-- **What an object without members of its own answers** when it is asked for a key, if no
attribute takes the question: a value, or a fault.  `owner` is the name of its type. -/
def answer (o : Object) (owner : String) (key : Value) : Except Fault Value :=
  match o.facet with
  | .record layout =>
    match key.text?.bind layout.get? with
    | some _ => .ok (o.entry key)
    | none => .error (.recordKey key.inMessages owner)
  | _ =>
    match key with
    | .empty => .error (.key .emptyKey)
    | _ => .ok (o.entry key)

/-- An object that is a record has a field of that name for the key; any other has all keys. -/
def Declares (o : Object) (k : Key) : Prop :=
  ∀ layout, o.facet = .record layout → ∃ s, k = .string s ∧ (layout.get? s).isSome

end Object

/-- Give what was answered, or raise the fault. -/
def Action.settled : Except Fault Value → Action Value
  | .ok v => pure v
  | .error f => raise f

theorem readEntry_eq (o : ObjectId) (key : Value) (m : Machine) :
    readEntry o key m = .ok ((m.object o).entry key) m := by
  unfold readEntry Object.entry
  cases Key.ofValue key with
  | ok k => rfl
  | error f => rfl

/-- A value is stored under a key that may be written, or an error is raised. -/
theorem writeEntry_cases (o : ObjectId) (key v : Value) (m : Machine) :
    (∃ k, Key.ofValue key = .ok k ∧ (m.object o).writeFault? k = none ∧
      writeEntry o key v m =
        .ok () { m with objects := m.objects.modify (o.serial - 1) (·.set k v) }) ∨
      ∃ f, writeEntry o key v m = raise f m := by
  have looked : objectAt o m = .ok (m.object o) m := rfl
  unfold writeEntry
  cases stands : Key.ofValue key with
  | error f => exact .inr ⟨_, rfl⟩
  | ok k =>
    dsimp only
    rw [Action.bind_ok looked]
    cases near : (m.object o).writeFault? k with
    | some f => exact .inr ⟨_, rfl⟩
    | none => exact .inl ⟨k, rfl, near, rfl⟩

theorem raiseRecordKey_eq {α : Type} (o : ObjectId) (key : Value) (m : Machine) :
    (raiseRecordKey o key : Action α) m =
      raise (.recordKey key.inMessages (m.types.name (m.object o).type)) m := by
  have owned : read (fun m => m.types.name (m.object o).type) m =
      .ok (m.types.name (m.object o).type) m := rfl
  unfold raiseRecordKey
  rw [Action.bind_ok owned]
  cases key with
  | string s => rfl
  | _ => rfl

section Access
variable {m : Machine} {o : ObjectId} (noFunction : (m.object o).function? = none)
  (noInterface : (m.object o).interface? = none)
include noFunction noInterface

/-- An access to an object without members of its own goes to its entries. -/
theorem routeTo_direct (key : Value) (write : Bool) :
    (m.object o).facet = .plain ∧ routeTo (.object o) key write m = .ok (o, .plain) m ∨
      ∃ layout, (m.object o).facet = .record layout ∧
        routeTo (.object o) key write m = .ok (o, .record (key.text?.bind layout.get?)) m := by
  have looked : objectAt o m = .ok (m.object o) m := rfl
  cases facet : (m.object o).facet with
  | plain =>
    refine .inl ⟨rfl, ?_⟩
    rw [routeTo, Action.bind_ok looked, facet]
    rfl
  | record layout =>
    refine .inr ⟨layout, rfl, ?_⟩
    rw [routeTo, Action.bind_ok looked, facet]
    rfl
  | function f =>
    rw [Object.function?, facet] at noFunction
    cases noFunction
  | interface members binding =>
    rw [Object.interface?, facet] at noInterface
    cases noInterface

/-- **Reading a member** gives what the object answers. -/
theorem getMember_direct {a : Accessor} (direct : m.getterOf? o a = none) (e : Engine)
    (key : Value) :
    getMember e (.object o) key a m =
      settled ((m.object o).answer (m.types.name (m.object o).type) key) m := by
  have asked : read (fun m => m.getterOf? o a) m = .ok none m := by
    rw [← direct]
    rfl
  unfold getMember Object.answer
  rcases routeTo_direct noFunction noInterface key false with
    ⟨facet, routed⟩ | ⟨layout, facet, routed⟩
  · rw [facet, Action.bind_ok routed]
    dsimp only
    rw [Action.bind_ok asked]
    cases key with
    | empty => rfl
    | _ => exact readEntry_eq o _ m
  · rw [facet, Action.bind_ok routed]
    dsimp only
    rw [Action.bind_ok asked]
    cases key.text?.bind layout.get? with
    | none => exact raiseRecordKey_eq o key m
    | some t => exact readEntry_eq o key m

omit noFunction noInterface in
/-- A value that is written is stored under a key, or it raises an error. -/
theorem writeEntry_stores (key v : Value)
    (declares : ∀ k, Key.ofValue key = .ok k → (m.object o).Declares k) :
    (∃ k, Key.ofValue key = .ok k ∧ (m.object o).Declares k ∧ (m.object o).writeFault? k = none ∧
      (writeEntry o key v >>= fun _ => pure v) m =
        .ok v { m with objects := m.objects.modify (o.serial - 1) (·.set k v) }) ∨
      ∃ f, (writeEntry o key v >>= fun _ => pure v) m = raise f m := by
  rcases writeEntry_cases o key v m with ⟨k, stands, near, written⟩ | ⟨f, raised⟩
  · refine .inl ⟨k, stands, declares k stands, near, ?_⟩
    rw [Action.bind_ok written]
    rfl
  · exact .inr ⟨f, bind_raised raised _⟩

/-- **Writing a member** stores the value under a key that the object has, or raises an error. -/
theorem setMember_direct {a : Accessor} (direct : m.setterOf? o a = none) (e : Engine)
    (key v : Value) :
    (∃ k, Key.ofValue key = .ok k ∧ (m.object o).Declares k ∧ (m.object o).writeFault? k = none ∧
      setMember e (.object o) key v a m =
        .ok v { m with objects := m.objects.modify (o.serial - 1) (·.set k v) }) ∨
      ∃ f, setMember e (.object o) key v a m = raise f m := by
  have asked : read (fun m => m.setterOf? o a) m = .ok none m := by
    rw [← direct]
    rfl
  have typed (t : TypeId) : read (fun m => m.isA v t) m = .ok (m.isA v t) m := rfl
  unfold setMember
  rcases routeTo_direct noFunction noInterface key true with
    ⟨facet, routed⟩ | ⟨layout, facet, routed⟩
  · rw [Action.bind_ok routed]
    dsimp only
    rw [Action.bind_ok asked]
    refine writeEntry_stores key v fun k _ layout record => ?_
    cases facet.symm.trans record
  · rw [Action.bind_ok routed]
    dsimp only
    rw [Action.bind_ok asked]
    cases declared : key.text?.bind layout.get? with
    | none => exact .inr ⟨_, raiseRecordKey_eq o key m⟩
    | some t =>
      dsimp only
      rw [Action.bind_ok (typed t)]
      by_cases isA : m.isA v t = true
      · rw [if_pos isA]
        refine writeEntry_stores key v fun k stands layout' record => ?_
        cases facet.symm.trans record
        cases key with
        | string s =>
          cases stands
          exact ⟨s, rfl, Option.isSome_of_eq_some declared⟩
        | _ => cases declared
      · rw [if_neg isA]
        exact .inr ⟨_, rfl⟩

end Access

/-! ## Reading over writing -/

/-- **Two machines answer alike** when an object is read under a key: they give the same value, and
are not changed by that, or they raise the same error. -/
def Machine.AnswerAlike (m m' : Machine) (e : Engine) (o : ObjectId) (key : Value) (a : Accessor) :
    Prop :=
  ∃ answer, getMember e (.object o) key a m = settled answer m ∧
    getMember e (.object o) key a m' = settled answer m'

namespace Object

/-- An answer depends on the facet and on what stands under the key. -/
theorem answer_congr {o o' : Object} (facet : o'.facet = o.facet) {owner : String} {key : Value}
    (entry : o'.entry key = o.entry key) : o'.answer owner key = o.answer owner key := by
  unfold answer
  rw [facet, entry]

/-- An object that has a key answers with what stands under it. -/
theorem answer_declared {o : Object} {k : Key} (declared : o.Declares k) {key : Value}
    (stands : Key.ofValue key = .ok k) (owner : String) :
    o.answer owner key = .ok (o.entry key) := by
  unfold answer
  split
  · rename_i layout record
    obtain ⟨s, rfl, field⟩ := declared layout record
    obtain ⟨t, declares⟩ := Option.isSome_iff_exists.mp field
    cases key with
    | string s' =>
      cases stands
      simp only [Value.text?, Option.bind_some, declares]
    | number n =>
      obtain ⟨i, -, same⟩ := Key.ofValue_number.mp stands
      cases same
    | _ => cases stands
  · cases key with
    | empty => cases stands
    | _ => rfl

/-- **An object is unadorned**: it has no members of its own and no attributes, so that only a
layout can have a say in how it answers. -/
structure Unadorned (o : Object) : Prop where
  noFunction : o.function? = none
  noInterface : o.interface? = none
  noAttributes : o.attributes = none

/-- Storing a value changes an entry and nothing else. -/
theorem set_frame (o : Object) (k : Key) (v : Value) :
    (o.set k v).type = o.type ∧ (o.set k v).facet = o.facet ∧
      (o.set k v).attributes = o.attributes := by
  cases k with
  | _ => exact ⟨rfl, rfl, rfl⟩

theorem Declares.set {o : Object} {k : Key} (declared : o.Declares k) (k' : Key) (v : Value) :
    (o.set k' v).Declares k := fun layout record =>
  declared layout ((o.set_frame k' v).2.1.symm.trans record)

theorem Unadorned.set {o : Object} (unadorned : o.Unadorned) (k : Key) (v : Value) :
    (o.set k v).Unadorned := by
  obtain ⟨-, facet, attributes⟩ := o.set_frame k v
  constructor
  · rw [function?, facet]
    exact unadorned.noFunction
  · rw [interface?, facet]
    exact unadorned.noInterface
  · rw [attributes]
    exact unadorned.noAttributes

end Object

section Reading
variable {m m' : Machine} {o : ObjectId}

/-- An unadorned object is asked for its entries. -/
theorem getMember_unadorned (unadorned : (m.object o).Unadorned) (e : Engine) (key : Value)
    (a : Accessor) :
    getMember e (.object o) key a m =
      settled ((m.object o).answer (m.types.name (m.object o).type) key) m := by
  refine getMember_direct unadorned.noFunction unadorned.noInterface ?_ e key
  rw [Machine.getterOf?, Machine.attribute?, Machine.attributeAt?, unadorned.noAttributes]
  rfl

/-- A value is written to an entry of an unadorned object. -/
theorem setMember_unadorned (unadorned : (m.object o).Unadorned) (e : Engine) (key v : Value)
    (a : Accessor) :
    (∃ k, Key.ofValue key = .ok k ∧ (m.object o).Declares k ∧ (m.object o).writeFault? k = none ∧
      setMember e (.object o) key v a m =
        .ok v { m with objects := m.objects.modify (o.serial - 1) (·.set k v) }) ∨
      ∃ f, setMember e (.object o) key v a m = raise f m := by
  refine setMember_direct unadorned.noFunction unadorned.noInterface ?_ e key v
  rw [Machine.setterOf?, Machine.attribute?, Machine.attributeAt?, unadorned.noAttributes]
  rfl

/-- An unadorned object that is the same in two machines with the same types answers alike. -/
theorem Machine.AnswerAlike.of_same (unadorned : (m.object o).Unadorned)
    (same : m'.object o = m.object o) (types : m'.types = m.types) (e : Engine) (key : Value)
    (a : Accessor) : m.AnswerAlike m' e o key a := by
  refine ⟨_, getMember_unadorned unadorned e key a, ?_⟩
  rw [getMember_unadorned (same.symm ▸ unadorned), same, types]

section Written
variable {k : Key} {v : Value} (unadorned : (m.object o).Unadorned)
  (written : m'.object o = (m.object o).set k v)
include unadorned written

/-- **What was written is read** under every key value that names the slot. -/
theorem getMember_written {key key' : Value} (stands : Key.ofValue key = .ok k)
    (declared : (m.object o).Declares k) (same : key.SameSlot key') (e : Engine) (a : Accessor) :
    getMember e (.object o) key' a m' = .ok v m' := by
  obtain ⟨_, first, second⟩ := Value.sameSlot_iff.mp same
  cases stands.symm.trans first
  rw [getMember_unadorned (written ▸ unadorned.set k v), written,
    Object.answer_declared (declared.set k v) second, Object.entry_set_same _ stands same v]
  rfl

/-- **Other slots are read as before.** -/
theorem Machine.AnswerAlike.of_written {key key' : Value} (stands : Key.ofValue key = .ok k)
    (other : ¬ key.SameSlot key') (types : m'.types = m.types) (e : Engine) (a : Accessor) :
    m.AnswerAlike m' e o key' a := by
  obtain ⟨type, facet, -⟩ := (m.object o).set_frame k v
  refine ⟨_, getMember_unadorned unadorned e key' a, ?_⟩
  rw [getMember_unadorned (written ▸ unadorned.set k v), written, types, type,
    Object.answer_congr facet (Object.entry_set_other _ stands other v)]

end Written
end Reading

/-- **Reading over writing.**  A member of an unadorned object, a record perhaps, is written.  If
that succeeds, the value is read under every key that names the same slot, and every other key is
answered as before.  If it fails, all keys are answered as before.  The object may be read in any
state that has the store and the types of the one in which the write ended.  The keys that name
the same slot are those that stand for the same key. -/
theorem reading_over_writing {m : Machine} {o : ObjectId} (backed : m.Backs o)
    (unadorned : (m.object o).Unadorned) (e : Engine) (a : Accessor) (key v : Value) :
    (∀ w m', setMember e (.object o) key v a m = .ok w m' → w = v ∧ key.SameSlot key ∧
      ∀ m'', m''.objects = m'.objects → m''.types = m'.types → ∀ e' a' key',
        (key.SameSlot key' → getMember e' (.object o) key' a' m'' = .ok v m'') ∧
        (¬ key.SameSlot key' → m.AnswerAlike m'' e' o key' a')) ∧
    (∀ f m', setMember e (.object o) key v a m = .error f m' →
      ∀ m'', m''.objects = m'.objects → m''.types = m'.types → ∀ e' a' key',
        m.AnswerAlike m'' e' o key' a') ∧
    ∀ key', key.SameSlot key' ↔ ∃ k, Key.ofValue key = .ok k ∧ Key.ofValue key' = .ok k := by
  have known : o.serial - 1 < m.objects.size := backed
  refine ⟨?_, ?_, fun key' => Value.sameSlot_iff⟩
  · intro w m' ok
    rcases setMember_unadorned unadorned e key v a with
      ⟨k, stands, declared, -, wrote⟩ | ⟨fault, raised⟩
    · cases wrote.symm.trans ok
      refine ⟨rfl, Value.sameSlot_iff.mpr ⟨k, stands, stands⟩,
        fun m'' objects types e' a' key' => ?_⟩
      have written : m''.object o = (m.object o).set k v := by
        rw [Machine.object_of objects, Machine.object_modify, if_pos ⟨rfl, known⟩]
      exact ⟨fun same => getMember_written unadorned written stands declared same e' a',
        fun other => .of_written unadorned written stands other types e' a'⟩
    · exact absurd (raised.symm.trans ok) (raise_ne_ok _ _ _ _)
  · intro f m' failed m'' objects types e' a' key'
    rcases setMember_unadorned unadorned e key v a with ⟨k, -, -, -, wrote⟩ | ⟨fault, raised⟩
    · cases wrote.symm.trans failed
    · obtain ⟨payload, m₁, -, grown, eq⟩ := @raiseError_grows Value (.string fault.message) m
      cases eq.symm.trans (raised.symm.trans failed)
      have unchanged : m₁.types = m.types := by rw [grown.rest]
      refine .of_same unadorned ?_ (types.trans unchanged) e' key' a'
      rw [Machine.object_of objects]
      exact grown.object known fun h => h

/-- The layout with one field, for a boolean. -/
def doneLayout : Layout := OrderedMap.ofList [("done", BuiltinType.boolean.id)]

/-- A machine with one object, a record with one field. -/
def fielded : Machine :=
  { Machine.initial .standard with
    objects := #[Object.ofType BuiltinType.object.id (.record doneLayout)] }

/-- Its field can be written, and is then read, while every other name is refused as before. -/
theorem reading_over_writing_fielded :
    let e : Engine := ⟨0, fun _ => pure .empty⟩
    ∃ m', setMember e (.object ⟨1⟩) (.string "done") (.boolean true) .dot fielded =
        .ok (.boolean true) m' ∧
      getMember e (.object ⟨1⟩) (.string "done") .bracket m' = .ok (.boolean true) m' ∧
      fielded.AnswerAlike m' e ⟨1⟩ (.string "other") .bracket := by
  intro e
  have declares : doneLayout.get? "done" = some BuiltinType.boolean.id := by
    simp [doneLayout, OrderedMap.ofList, OrderedMap.get?_insert]
  have routed : routeTo (.object ⟨1⟩) (.string "done") true fielded =
      .ok (⟨1⟩, .record (some BuiltinType.boolean.id)) fielded := by
    rw [← declares]
    rfl
  have wrote : setMember e (.object ⟨1⟩) (.string "done") (.boolean true) .dot fielded =
      .ok (.boolean true) { fielded with
        objects := fielded.objects.modify 0 (·.set (.string "done") (.boolean true)) } := by
    unfold setMember
    rw [Action.bind_ok routed]
    rfl
  have stored : fielded.Backs (⟨1⟩ : ObjectId) := by
    show 0 < 1
    decide
  obtain ⟨after, -, -⟩ := reading_over_writing stored ⟨rfl, rfl, rfl⟩ e .dot (.string "done")
    (.boolean true)
  obtain ⟨-, -, reads⟩ := after _ _ wrote
  have other : ¬ (Value.string "done").SameSlot (.string "other") := by
    simp [Value.sameSlot_iff, Key.ofValue]
  exact ⟨_, wrote, (reads _ rfl rfl e .bracket _).1 (.string "done"),
    (reads _ rfl rfl e .bracket _).2 other⟩

end StubMachine
