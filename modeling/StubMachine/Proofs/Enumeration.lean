import StubMachine.Proofs.Entries
import StubMachine.Proofs.Insertion
import StubMachine.Proofs.Interfaces
import StubMachine.Proofs.Numeral.Whole

/-!
# Keys and values

The keys of an object are listed by one function, counted by another, and a third one lists the
values; each goes through the partitions by itself, and what they make of them depends on the
facet.  **They agree** (`keys_values_agree`): there are as many values as keys, and the value at a
place is what is read under the key at that place.

The order of the keys is that of their insertion.  What that means is told by a log of what has been
written and removed (`Lists`).  An object **keeps to a log** (`Object.Keeps`) if all its partitions
are in the order that the log tells, and each thing that is done to an object makes it keep to a log
with at most one event more (`Tended.keeps`).
-/

namespace StubMachine

open StubMachine.Action

/-! ## Keeping to a log -/

namespace Object

/-- **An object keeps to a log**: its keys of each kind but the indices are in order of insertion.
Its keys are those that its layout has if it is a record, and it has none if it is a function; an
interface has members in place of text entries. -/
structure Keeps (o : Object) (log : List KeyEvent) : Prop where
  texts : Lists log .string o.textKeys
  objects : Lists log .object o.objects.keys
  booleans : Lists log .boolean (o.booleans.map Prod.fst)
  types : Lists log .type o.types.keys
  declared : ∀ k, (enteredAt? log k).isSome = true → o.Declares k
  function : o.isFunction = true → o.keys = []
  enclosed : o.interface?.isSome = true → o.strings.toList = []

/-- What a removal of a key is to the log: nothing if the key is a text and the object has members
in place of texts. -/
def removal (o : Object) (k : Key) : List KeyEvent :=
  match o.facet, k with
  | .interface _ _, .string _ => []
  | _, _ => [.removed k]

theorem Declares.congr {o o' : Object} (facet : o'.facet = o.facet) {k : Key}
    (declared : o.Declares k) : o'.Declares k := fun layout record =>
  declared layout (facet.symm.trans record)

theorem remove_facet (o : Object) (k : Key) : (o.remove k).facet = o.facet := by
  cases k with
  | _ => rfl

theorem string_injective : Function.Injective Key.string := fun _ _ => Key.string.inj
theorem object_injective : Function.Injective Key.object := fun _ _ => Key.object.inj
theorem type_injective : Function.Injective Key.type := fun _ _ => Key.type.inj

namespace Keeps
variable {o o' : Object} {log : List KeyEvent}

/-- **An object whose facet is what it was** keeps to a log if its keys are in the order that the log
tells, and are such as it may have. -/
theorem faced (h : o.Keeps log) (noFunction : o.isFunction = false) (facet : o'.facet = o.facet)
    {log' : List KeyEvent} (texts : Lists log' .string o'.textKeys)
    (objects : Lists log' .object o'.objects.keys)
    (booleans : Lists log' .boolean (o'.booleans.map Prod.fst))
    (types : Lists log' .type o'.types.keys)
    (declared : ∀ k, (enteredAt? log' k).isSome = true → o.Declares k)
    (strings : o.interface?.isSome = true → o.strings.toList = [] → o'.strings.toList = []) :
    o'.Keeps log' where
  texts := texts
  objects := objects
  booleans := booleans
  types := types
  declared k entered := (declared k entered).congr facet
  function function := by
    rw [isFunction, function?, facet, ← function?, ← isFunction, noFunction] at function
    cases function
  enclosed interface := by
    rw [interface?, facet] at interface
    exact strings interface (h.enclosed interface)

/-- A key that is written is one that the object may have. -/
theorem declared_wrote (h : o.Keeps log) {k : Key} (declares : o.Declares k) (k' : Key)
    (entered : (enteredAt? (.wrote k :: log) k').isSome = true) : o.Declares k' := by
  by_cases here : k = k'
  · exact here ▸ declares
  · rw [enteredAt?_wrote_other log here] at entered
    exact h.declared k' entered

theorem declared_removed (h : o.Keeps log) {k : Key} (k' : Key)
    (entered : (enteredAt? (.removed k :: log) k').isSome = true) : o.Declares k' := by
  by_cases here : k = k'
  · subst here
    rw [enteredAt?_removed] at entered
    cases entered
  · rw [enteredAt?_removed_other log here] at entered
    exact h.declared k' entered

/-- **What is written is logged.** -/
theorem set (h : o.Keeps log) (noInterface : o.interface? = none) (noFunction : o.function? = none)
    {k : Key} (declares : o.Declares k) (v : Value) : (o.set k v).Keeps (.wrote k :: log) := by
  obtain ⟨-, facet, -⟩ := o.set_frame k v
  have noInterface' : (o.set k v).interface? = none := by rwa [interface?, facet]
  have noFunction' : o.isFunction = false := by rw [isFunction, noFunction, Option.isSome_none]
  have texts := h.texts
  rw [textKeys_of_noInterface noInterface] at texts
  refine h.faced noFunction' facet ?texts ?objects ?booleans ?types (h.declared_wrote declares)
    fun interface => ?strings
  case texts =>
    rw [textKeys_of_noInterface noInterface']
    cases k with
    | string s => exact texts.insert string_injective s v
    | _ => exact texts.other (by simp)
  case objects =>
    cases k with
    | object p => exact h.objects.insert object_injective p v
    | _ => exact h.objects.other (by simp)
  case booleans =>
    cases k with
    | boolean b => exact h.booleans.setBoolean b v
    | _ => exact h.booleans.other (by simp)
  case types =>
    cases k with
    | type t => exact h.types.insert type_injective t v
    | _ => exact h.types.other (by simp)
  case strings =>
    rw [noInterface] at interface
    cases interface

/-- Where there are no text entries none can be removed. -/
theorem remove_strings (k : Key) (none : o.strings.toList = []) :
    (o.remove k).strings.toList = [] := by
  cases k with
  | string s =>
    rw [Object.remove, OrderedMap.toList_erase, none]
    rfl
  | _ => exact none

/-- What is removed is logged. -/
theorem remove_logged (h : o.Keeps log) (noFunction : o.isFunction = false) {k : Key}
    (present : ∀ s, k = .string s → o.interface? = none) :
    (o.remove k).Keeps (.removed k :: log) := by
  have facet : (o.remove k).facet = o.facet := o.remove_facet k
  refine h.faced noFunction facet ?texts ?objects ?booleans ?types h.declared_removed
    fun _ => remove_strings k
  case texts =>
    cases k with
    | string s =>
      have noInterface : o.interface? = none := present s rfl
      have noInterface' : (o.remove (.string s)).interface? = none := by
        rwa [interface?, facet]
      have texts := h.texts
      rw [textKeys_of_noInterface noInterface] at texts
      rw [textKeys_of_noInterface noInterface']
      exact texts.erase string_injective s
    | _ => exact h.texts.other (by simp)
  case objects =>
    cases k with
    | object p => exact h.objects.erase object_injective p
    | _ => exact h.objects.other (by simp)
  case booleans =>
    cases k with
    | boolean b => exact h.booleans.eraseBoolean b
    | _ => exact h.booleans.other (by simp)
  case types =>
    cases k with
    | type t => exact h.types.erase type_injective t
    | _ => exact h.types.other (by simp)

/-- An interface has no text entry that could be removed. -/
theorem remove_vain (h : o.Keeps log) (noFunction : o.isFunction = false)
    (interface : o.interface?.isSome = true) (s : String) : (o.remove (.string s)).Keeps log := by
  have facet : (o.remove (.string s)).facet = o.facet := rfl
  have texts : (o.remove (.string s)).textKeys = o.textKeys := by
    unfold textKeys
    rw [facet]
    cases members : o.facet with
    | interface members binding => rfl
    | _ =>
      rw [interface?, members] at interface
      cases interface
  exact h.faced noFunction facet (texts ▸ h.texts) h.objects h.booleans h.types h.declared
    fun _ => remove_strings _

/-- **What is removed is logged**, unless it cannot have been there. -/
theorem remove (h : o.Keeps log) (noFunction : o.isFunction = false) (k : Key) :
    (o.remove k).Keeps (o.removal k ++ log) := by
  cases facet : o.facet with
  | interface members binding =>
    have interface : o.interface?.isSome = true := by
      rw [interface?, facet]
      rfl
    unfold removal
    rw [facet]
    cases k with
    | string s => exact h.remove_vain noFunction interface s
    | _ => exact h.remove_logged noFunction (by simp)
  | _ =>
    have noInterface : o.interface? = none := by rw [interface?, facet]
    unfold removal
    rw [facet]
    exact h.remove_logged noFunction fun _ _ => noInterface

/-- Indices and attributes are no matter of the log. -/
theorem reshaped (h : o.Keeps log) (noFunction : o.isFunction = false) (indices : Array Value)
    (attributes : Option ObjectId) : ({ o with indices, attributes } : Object).Keeps log :=
  { h with function := fun function => absurd (noFunction.symm.trans function) Bool.false_ne_true }

/-- **An object that becomes an interface, or is none any longer**, has the same texts as keys. -/
theorem switched (h : o.Keeps log)
    (rest : o' = { o with strings := o'.strings, facet := o'.facet })
    (texts : o'.textKeys = o.textKeys) (noFunction' : o'.isFunction = false)
    (noRecord' : o'.layout? = none)
    (enclosed : o'.interface?.isSome = true → o'.strings.toList = []) : o'.Keeps log := by
  refine ⟨texts ▸ h.texts, ?_, ?_, ?_, fun k _ layout record => ?_, fun function => ?_, enclosed⟩
  · rw [rest]
    exact h.objects
  · rw [rest]
    exact h.booleans
  · rw [rest]
    exact h.types
  · rw [layout?, record] at noRecord'
    cases noRecord'
  · cases noFunction'.symm.trans function

end Keeps

/-- **An object that has just been made**: it has no entries but under texts, and is no
interface. -/
structure Pristine (o : Object) : Prop where
  objects : o.objects.toList = []
  booleans : o.booleans = []
  types : o.types.toList = []
  noInterface : o.interface? = none
  declared : ∀ s ∈ o.strings.keys, o.Declares (.string s)
  function : o.isFunction = true → o.strings.toList = [] ∧ o.indices = #[]

/-- The log of an object that has just been made. -/
def birth (o : Object) : List KeyEvent := o.strings.keys.reverse.map fun s => .wrote (.string s)

theorem Pristine.keeps {o : Object} (pristine : o.Pristine) : o.Keeps o.birth := by
  have texts : Lists o.birth .string o.strings.keys :=
    .of_writes string_injective o.strings.nodup_keys
  have only (k : Key) (there : (enteredAt? o.birth k).isSome = true) :
      ∃ s ∈ o.strings.keys.reverse, k = .string s := entered_of_writes there
  have none {α : Type} (kind : α → Key) (other : ∀ a s, kind a ≠ .string s) :
      Lists o.birth kind [] := by
    refine ⟨fun a => ⟨fun mem => absurd mem List.not_mem_nil, fun there => ?_⟩, .nil⟩
    obtain ⟨s, -, is⟩ := only _ there
    exact absurd is (other a s)
  refine ⟨?_, ?_, ?_, ?_, ?_, ?_, ?_⟩
  · rwa [textKeys_of_noInterface pristine.noInterface]
  · rw [OrderedMap.keys, pristine.objects]
    exact none _ (by simp)
  · rw [pristine.booleans]
    exact none _ (by simp)
  · rw [OrderedMap.keys, pristine.types]
    exact none _ (by simp)
  · intro k there
    obtain ⟨s, mem, rfl⟩ := only k there
    exact pristine.declared s (List.mem_reverse.mp mem)
  · intro function
    obtain ⟨strings, indices⟩ := pristine.function function
    unfold keys shownIndices
    rw [textKeys_of_noInterface pristine.noInterface, OrderedMap.keys, OrderedMap.keys,
      OrderedMap.keys, strings, pristine.objects, pristine.booleans, pristine.types, indices,
      ite_self]
    rfl
  · intro interface
    rw [pristine.noInterface] at interface
    cases interface

end Object

/-! ## What is done to an object -/

open Native (argument) in
/-- **What has been done to an object**, told by a log of what it means for its keys.  Keys are
written and removed; values are pushed, inserted and cut off; it becomes an interface and back.
What else is done changes at most its indices and its attributes, as sorting does and giving it
attributes, or nothing of it at all. -/
inductive Tended (o : ObjectId) : List KeyEvent → Machine → Prop
  | born {m : Machine} : m.Backs o → (m.object o).Pristine → Tended o (m.object o).birth m
  | aside {log : List KeyEvent} {m m' : Machine} : Tended o log m → m'.Backs o →
    m'.object o = m.object o → Tended o log m'
  | reshaped {log : List KeyEvent} {m m' : Machine} {indices : Array Value}
    {attributes : Option ObjectId} : Tended o log m → m'.Backs o → (m.object o).isFunction = false →
    m'.object o = { m.object o with indices, attributes } → Tended o log m'
  | wrote {log : List KeyEvent} {m m' : Machine} {e : Engine} {key v w : Value} {a : Accessor}
    {k : Key} : Tended o log m → (m.object o).interface? = none → m.setterOf? o a = none →
    Key.ofValue key = .ok k → setMember e (.object o) key v a m = .ok w m' →
    Tended o (.wrote k :: log) m'
  | removed {log : List KeyEvent} {m m' : Machine} {args : Array Value} {w : Value} {k : Key} :
    Tended o log m → argument args 0 = .object o → Key.ofValue (argument args 1) = .ok k →
    Native.remove args m = .ok w m' → Tended o ((m.object o).removal k ++ log) m'
  | pushed {log : List KeyEvent} {m m' : Machine} {args : Array Value} {w : Value} :
    Tended o log m → argument args 0 = .object o → Native.push args m = .ok w m' → Tended o log m'
  | inserted {log : List KeyEvent} {m m' : Machine} {args : Array Value} {w : Value} :
    Tended o log m → argument args 0 = .object o → Native.insert args m = .ok w m' → Tended o log m'
  | resized {log : List KeyEvent} {m m' : Machine} {args : Array Value} {w : Value} :
    Tended o log m → argument args 0 = .object o → Native.setSize args m = .ok w m' →
    Tended o log m'
  | switched {log : List KeyEvent} {m m₁ m' : Machine} {e : Engine} {args : Array Value}
    {enabled : Bool} {w : Value} : Tended o log m₁ → argument args 0 = .object o →
    asBoolean e (argument args 1) m = .ok enabled m₁ → Native.setIsInterface e args m = .ok w m' →
    Tended o log m'

section
variable {o : ObjectId} {m m' : Machine}

/-- What an update of an object comes to. -/
theorem updated_ok {f : Object → Object} {v w : Value} (backed : m.Backs o)
    (ok : (updateObject o f >>= fun _ => pure v) m = .ok w m') :
    m'.Backs o ∧ m'.object o = f (m.object o) := by
  obtain ⟨m₁, updated, grown, size, changed⟩ := updateObject_grows m o f backed
  rw [Action.bind_ok updated] at ok
  cases ok
  exact ⟨Nat.lt_of_lt_of_le backed grown.size, changed⟩

theorem indexArgument_ok {args : Array Value} {i n : Nat} {what : String}
    (ok : Native.indexArgument args i what m = .ok n m') : m' = m := by
  unfold Native.indexArgument at ok
  cases given : Native.argument args i with
  | number x =>
    simp only [given] at ok
    split at ok
    · cases ok
      rfl
    · cases ok
  | _ =>
    simp only [given] at ok
    cases ok

/-- No member of a function can be written. -/
theorem setMember_noFunction {e : Engine} {key v w : Value} {a : Accessor}
    (ok : setMember e (.object o) key v a m = .ok w m') : (m.object o).function? = none := by
  cases facet : (m.object o).facet with
  | function f =>
    have looked : objectAt o m = .ok (m.object o) m := rfl
    have routed : routeTo (.object o) key true m = raise .functionMembers m := by
      rw [routeTo, Action.bind_ok looked, facet]
    have raised : setMember e (.object o) key v a m = raise .functionMembers m := by
      unfold setMember
      exact bind_raised routed _
    exact absurd (raised.symm.trans ok) (raise_ne_ok _ _ _ _)
  | _ => rw [Object.function?, facet]

/-- **What a write to an entry comes to.** -/
theorem setMember_ok {e : Engine} {key v w : Value} {a : Accessor} (backed : m.Backs o)
    (noInterface : (m.object o).interface? = none) (direct : m.setterOf? o a = none)
    (ok : setMember e (.object o) key v a m = .ok w m') :
    (m.object o).function? = none ∧ ∃ k, Key.ofValue key = .ok k ∧ (m.object o).Declares k ∧
      m'.Backs o ∧ m'.object o = (m.object o).set k v := by
  have noFunction := setMember_noFunction ok
  have known : o.serial - 1 < m.objects.size := backed
  rcases setMember_direct noFunction noInterface direct e key v with
    ⟨k, stands, declares, -, wrote⟩ | ⟨f, raised⟩
  · cases wrote.symm.trans ok
    refine ⟨noFunction, k, stands, declares, ?_, ?_⟩
    · show o.serial - 1 < (m.objects.modify _ _).size
      rwa [Array.size_modify]
    · rw [Machine.object_modify, if_pos ⟨rfl, known⟩]
  · exact absurd (raised.symm.trans ok) (raise_ne_ok _ _ _ _)

/-- A removal. -/
theorem removed_ok {args : Array Value} {w : Value} {k : Key} (backed : m.Backs o)
    (base : Native.argument args 0 = .object o) (stands : Key.ofValue (Native.argument args 1) = .ok k)
    (ok : Native.remove args m = .ok w m') :
    (m.object o).isFunction = false ∧ m'.Backs o ∧ m'.object o = (m.object o).remove k := by
  obtain ⟨noFunction, ok⟩ := Native.bind_baseObject base ok
  rw [stands] at ok
  exact ⟨noFunction, updated_ok backed ok⟩

/-- A value that is pushed is one of the indices. -/
theorem pushed_ok {args : Array Value} {w : Value} (backed : m.Backs o)
    (base : Native.argument args 0 = .object o) (ok : Native.push args m = .ok w m') :
    (m.object o).isFunction = false ∧ m'.Backs o ∧
      ∃ indices, m'.object o = { m.object o with indices } := by
  obtain ⟨noFunction, ok⟩ := Native.bind_baseObject base ok
  obtain ⟨backed', changed⟩ := updated_ok backed ok
  exact ⟨noFunction, backed', _, changed⟩

/-- A value that is inserted is one of the indices, if there is a place for it. -/
theorem inserted_ok {args : Array Value} {w : Value} (backed : m.Backs o)
    (base : Native.argument args 0 = .object o) (ok : Native.insert args m = .ok w m') :
    (m.object o).isFunction = false ∧ m'.Backs o ∧
      ∃ indices, m'.object o = { m.object o with indices } := by
  obtain ⟨noFunction, ok⟩ := Native.bind_baseObject base ok
  obtain ⟨position, m₁, found, ok⟩ := Action.bind_eq_ok.mp ok
  cases indexArgument_ok found
  obtain ⟨object, m₁, looked, ok⟩ := Action.bind_eq_ok.mp ok
  cases looked
  dsimp only at ok
  split at ok
  · cases ok
  · obtain ⟨backed', changed⟩ := updated_ok backed ok
    exact ⟨noFunction, backed', _, changed⟩

/-- A new size is one of the indices, if it is not beyond all bounds. -/
theorem resized_ok {args : Array Value} {w : Value} (backed : m.Backs o)
    (base : Native.argument args 0 = .object o) (ok : Native.setSize args m = .ok w m') :
    (m.object o).isFunction = false ∧ m'.Backs o ∧
      ∃ indices, m'.object o = { m.object o with indices } := by
  obtain ⟨noFunction, ok⟩ := Native.bind_baseObject base ok
  obtain ⟨size, m₁, found, ok⟩ := Action.bind_eq_ok.mp ok
  cases indexArgument_ok found
  dsimp only at ok
  split at ok
  · cases ok
  · obtain ⟨backed', changed⟩ := updated_ok backed ok
    exact ⟨noFunction, backed', _, changed⟩

section Switching
variable {e : Engine} {args : Array Value} {enabled : Bool} {w : Value} {m₁ : Machine}
  {log : List KeyEvent} {members : OrderedMap String Member} {current binding : Option Value}

/-- An interface that is made one once more has the members it has. -/
theorem bound_keeps (backed : m.Backs o) (keeps : (m.object o).Keeps log)
    (interface : (m.object o).facet = .interface members current)
    (ok : (updateObject o (fun object => { object with facet := .interface members binding }) >>=
      fun _ => pure (.object o)) m = .ok w m') :
    m'.Backs o ∧ (m'.object o).Keeps log := by
  have none : (m.object o).strings.toList = [] := by
    refine keeps.enclosed ?_
    rw [Object.interface?, interface]
    rfl
  obtain ⟨backed', changed⟩ := updated_ok backed ok
  refine ⟨backed', keeps.switched (by rw [changed]) ?_ ?_ ?_ fun _ => ?_⟩
  · rw [changed, Object.textKeys, Object.textKeys, interface]
  · rw [changed]
    rfl
  · rw [changed]
    rfl
  · rw [changed]
    exact none

/-- An interface that is none any longer has an entry for each member, in their order. -/
theorem dropped_keeps (backed : m.Backs o) (keeps : (m.object o).Keeps log)
    (interface : (m.object o).facet = .interface members current)
    (ok : (Native.dropInterface o members.toList >>= fun _ => pure (.object o)) m = .ok w m') :
    m'.Backs o ∧ (m'.object o).Keeps log := by
  have none : (m.object o).strings.toList = [] := by
    refine keeps.enclosed ?_
    rw [Object.interface?, interface]
    rfl
  obtain ⟨m₂, entries, m₃, dropped, grown, -, plain, strings, refilled⟩ :=
    Native.dropInterface_refills backed none members.nodup_keys
  rw [Action.bind_ok dropped] at ok
  cases ok
  have rest : m'.object o =
      { m.object o with strings := (m'.object o).strings, facet := .plain } :=
    refilled.rest.trans (by rw [plain])
  have facet' : (m'.object o).facet = .plain := by rw [rest]
  have names : entries.map Prod.fst = members.keys :=
    Native.names_eq refilled.revert fun _ _ h => h.1
  refine ⟨Nat.lt_of_lt_of_le backed (grown.trans refilled.grown).size,
    keeps.switched (by rw [facet']; exact rest) ?_ ?_ ?_ ?_⟩
  · rw [Object.textKeys_of_noInterface (by rw [Object.interface?, facet']), OrderedMap.keys,
      strings, names, Object.textKeys, interface]
  · rw [Object.isFunction, Object.function?, facet']
    rfl
  · rw [Object.layout?, facet']
  · rw [Object.interface?, facet', Option.isSome_none]
    exact fun some => absurd some Bool.false_ne_true

/-- An object that becomes an interface has a member for each text entry, in their order. -/
theorem raised_keeps (backed : m.Backs o) (keeps : (m.object o).Keeps log)
    (noInterface : (m.object o).interface? = none)
    (ok : (Native.raiseInterface o binding >>= fun _ => pure (.object o)) m = .ok w m') :
    m'.Backs o ∧ (m'.object o).Keeps log := by
  rcases Native.raiseInterface_cases backed binding with
    ⟨members, m₂, raised, enclosed⟩ | ⟨f, failed, -⟩
  · rw [Action.bind_ok raised] at ok
    cases ok
    obtain ⟨map, facet', -⟩ := enclosed.facet
    refine ⟨Nat.lt_of_lt_of_le backed enclosed.grown.size, keeps.switched enclosed.rest
      (enclosed.textKeys noInterface) ?_ ?_ fun _ => enclosed.strings⟩
    · rw [Object.isFunction, Object.function?, facet']
      rfl
    · rw [Object.layout?, facet']
  · rw [Action.bind_error failed] at ok
    cases ok

/-- **Turning an object into an interface or back** leaves the texts that are its keys. -/
theorem switched_ok (backed : m₁.Backs o) (keeps : (m₁.object o).Keeps log)
    (base : Native.argument args 0 = .object o)
    (flag : asBoolean e (Native.argument args 1) m = .ok enabled m₁)
    (ok : Native.setIsInterface e args m = .ok w m') :
    m'.Backs o ∧ (m'.object o).Keeps log := by
  have entries : (m.object o).isFunction = false := (Native.bind_baseObject base ok).1
  cases facet : (m₁.object o).facet with
  | record layout =>
    -- a record is refused, but only after the flag has been read: hence the bind by hand
    have looked : objectAt o m₁ = .ok (m₁.object o) m₁ := rfl
    have after := (Native.bind_baseObject base ok).2
    rw [Action.bind_ok flag] at after
    dsimp only at after
    rw [Action.bind_ok looked, facet] at after
    cases after
  | interface members current =>
    rw [Native.switch_interface base entries flag facet] at ok
    cases enabled with
    | true => exact bound_keeps backed keeps facet ok
    | false => exact dropped_keeps backed keeps facet ok
  | _ =>
    have noRecord : (m₁.object o).layout? = none := by rw [Object.layout?, facet]
    have noInterface : (m₁.object o).interface? = none := by rw [Object.interface?, facet]
    rw [Native.switch_other base entries flag noRecord noInterface] at ok
    cases enabled with
    | true => exact raised_keeps backed keeps noInterface ok
    | false =>
      cases ok
      exact ⟨backed, keeps⟩

end Switching

/-- **Whatever is done to an object makes it keep to the log of it.** -/
theorem Tended.keeps {log : List KeyEvent} (tended : Tended o log m) :
    m.Backs o ∧ (m.object o).Keeps log := by
  -- the backing goes along: an update of an object that is not there would change nothing
  induction tended with
  | born backed pristine => exact ⟨backed, pristine.keeps⟩
  | aside _ backed same ih => exact ⟨backed, same ▸ ih.2⟩
  | reshaped _ backed noFunction same ih => exact ⟨backed, same ▸ ih.2.reshaped noFunction _ _⟩
  | wrote _ noInterface direct stands ok ih =>
    obtain ⟨noFunction, k, stands', declares, backed, changed⟩ :=
      setMember_ok ih.1 noInterface direct ok
    cases stands.symm.trans stands'
    exact ⟨backed, changed ▸ ih.2.set noInterface noFunction declares _⟩
  | removed _ base stands ok ih =>
    obtain ⟨noFunction, backed, changed⟩ := removed_ok ih.1 base stands ok
    exact ⟨backed, changed ▸ ih.2.remove noFunction _⟩
  | pushed _ base ok ih =>
    obtain ⟨noFunction, backed, _, changed⟩ := pushed_ok ih.1 base ok
    exact ⟨backed, changed ▸ ih.2.reshaped noFunction _ _⟩
  | inserted _ base ok ih =>
    obtain ⟨noFunction, backed, _, changed⟩ := inserted_ok ih.1 base ok
    exact ⟨backed, changed ▸ ih.2.reshaped noFunction _ _⟩
  | resized _ base ok ih =>
    obtain ⟨noFunction, backed, _, changed⟩ := resized_ok ih.1 base ok
    exact ⟨backed, changed ▸ ih.2.reshaped noFunction _ _⟩
  | switched _ base flag ok ih => exact switched_ok ih.1 ih.2 base flag ok

end

/-! ## Keys -/

/-- **The keys of an object are in order** if they are its texts, then its indices unless it hides
them, then objects, booleans and types, all but the indices in order of insertion. -/
def Object.Ordered (o : Object) (log : List KeyEvent) (keys : List Value) : Prop :=
  ∃ texts objects booleans types,
    keys = texts.map .string ++ (List.range
        (if o.layout?.isSome || o.interface?.isSome then 0 else o.indices.size)).map .ofNat ++
      objects.map .object ++ booleans.map .boolean ++ types.map .type ∧
    Lists log .string texts ∧ Lists log .object objects ∧ Lists log .boolean booleans ∧
    booleans.length ≤ 2 ∧ Lists log .type types

/-- An index is the key that its number stands for, as long as it is small. -/
theorem Key.ofValue_ofNat {i : Nat} (small : i < 2 ^ 53) :
    Key.ofValue (.ofNat i) = .ok (.index i) := by
  have bound : (i : Int).natAbs < 2 ^ 53 := by omega
  refine Key.ofValue_number.mpr ⟨i, ⟨(Binary64.finite_ofInteger bound).1, ?_, ?_⟩, rfl⟩
  · rw [Binary64.truncate_ofInteger bound]
    omega
  · rw [Binary64.truncate_ofInteger bound]
    omega

namespace Object
variable {o : Object} {log : List KeyEvent}

theorem length_keys (o : Object) : o.keys.length = o.keyCount := by
  simp [keys, keyCount, OrderedMap.keys, OrderedMap.toList, OrderedMap.size, Nat.add_assoc]

theorem size_shownIndices (o : Object) : o.shownIndices.size =
    if o.layout?.isSome || o.interface?.isSome then 0 else o.indices.size := by
  unfold shownIndices hidesIndices layout? interface?
  cases o.facet with
  | _ => rfl

theorem Keeps.ordered (h : o.Keeps log) : o.Ordered log o.keys := by
  refine ⟨o.textKeys, o.objects.keys, o.booleans.map Prod.fst, o.types.keys, ?_, h.texts, h.objects,
    h.booleans, h.booleans.nodup.length_le_card, h.types⟩
  rw [keys, size_shownIndices, List.map_map]
  rfl

/-- Values without repetitions stay so if some of another kind follow them. -/
theorem nodup_append_kind {first second : List Value} {kinds : List Kind} {kind : Kind}
    (before : first.Nodup ∧ ∀ v ∈ first, v.kind ∈ kinds) (new : kind ∉ kinds)
    (distinct : second.Nodup) (same : ∀ v ∈ second, v.kind = kind) :
    (first ++ second).Nodup ∧ ∀ v ∈ first ++ second, v.kind ∈ kind :: kinds := by
  refine ⟨List.nodup_append.mpr ⟨before.1, distinct, ?_⟩, fun v mem => ?_⟩
  · rintro v early _ late rfl
    exact new (same v late ▸ before.2 v early)
  · rcases List.mem_append.mp mem with early | late
    · exact List.mem_cons_of_mem _ (before.2 v early)
    · exact same v late ▸ List.mem_cons_self

/-- **No key is listed twice.** -/
theorem Keeps.nodup (h : o.Keeps log) (few : o.shownIndices.size ≤ 2 ^ 53) : o.keys.Nodup := by
  have texts : (o.textKeys.map Value.string).Nodup := h.texts.nodup.map fun _ _ => Value.string.inj
  have objects : (o.objects.keys.map Value.object).Nodup :=
    h.objects.nodup.map fun _ _ => Value.object.inj
  have booleans : (o.booleans.map fun e => Value.boolean e.1).Nodup := by
    have := h.booleans.nodup.map (f := Value.boolean) fun _ _ => Value.boolean.inj
    rwa [List.map_map] at this
  have types : (o.types.keys.map Value.type).Nodup := h.types.nodup.map fun _ _ => Value.type.inj
  have indices : ((List.range o.shownIndices.size).map Value.ofNat).Nodup := by
    refine List.nodup_range.map_on fun i iIn j jIn same => ?_
    have first := Key.ofValue_ofNat (Nat.lt_of_lt_of_le (List.mem_range.mp iIn) few)
    have second := Key.ofValue_ofNat (Nat.lt_of_lt_of_le (List.mem_range.mp jIn) few)
    rw [same, second] at first
    cases first
    rfl
  have kind {α : Type} (l : List α) (f : α → Value) (k : Kind) (is : ∀ a, (f a).kind = k) :
      ∀ v ∈ l.map f, v.kind = k := by
    intro v mem
    obtain ⟨a, -, rfl⟩ := List.mem_map.mp mem
    exact is a
  have all := @nodup_append_kind _ _ [.string] _
    ⟨texts, fun v mem => List.mem_singleton.mpr (kind _ _ .string (fun _ => rfl) v mem)⟩
    (by decide) indices (kind _ _ .number fun _ => rfl)
  have all := nodup_append_kind all (by decide) objects (kind _ _ .object fun _ => rfl)
  have all := nodup_append_kind all (by decide) booleans (kind _ _ .boolean fun _ => rfl)
  exact (nodup_append_kind all (by decide) types (kind _ _ .type fun _ => rfl)).1

/-! ## Values -/

/-- **A value stands under a key** that the object may have. -/
def Holds (o : Object) (key v : Value) : Prop :=
  ∃ k, Key.ofValue key = .ok k ∧ o.get? k = some v ∧ o.Declares k

theorem values_length (noInterface : o.interface? = none) : o.values.length = o.keys.length := by
  rw [keys, textKeys_of_noInterface noInterface]
  simp [values, OrderedMap.keys, OrderedMap.values]

/-- A record has no index among its keys. -/
theorem declares_shown {i : Nat} (shown : i < o.shownIndices.size) : o.Declares (.index i) := by
  intro layout record
  rw [size_shownIndices, layout?, record] at shown
  exact absurd shown (Nat.not_lt_zero i)

/-- The entries of a partition that is an ordered map. -/
theorem Keeps.holds_map {K : Type} [BEq K] [Hashable K] (h : o.Keeps log)
    {entries : OrderedMap K Value} {kind : K → Key} {value : K → Value}
    (lists : Lists log kind entries.keys) (stands : ∀ k, Key.ofValue (value k) = .ok (kind k))
    (found : ∀ k, o.get? (kind k) = entries.get? k) :
    List.Forall₂ o.Holds (entries.keys.map value) entries.values := by
  have keys (k : K) (v : Value) (mem : (k, v) ∈ entries.toList) : k ∈ entries.keys :=
    List.mem_map_of_mem mem
  rw [OrderedMap.keys, OrderedMap.values, List.map_map, List.forall₂_map_left_iff,
    List.forall₂_map_right_iff, List.forall₂_same]
  rintro ⟨k, v⟩ mem
  exact ⟨kind k, stands k, (found k).trans (OrderedMap.mem_toList_iff.mp mem),
    h.declared _ ((lists.mem k).mp (keys k v mem))⟩

theorem find?_boolean {entries : List (Bool × Value)} (distinct : (entries.map Prod.fst).Nodup)
    {e : Bool × Value} (mem : e ∈ entries) : entries.find? (·.1 == e.1) = some e := by
  induction entries with
  | nil => cases mem
  | cons e' entries ih =>
    obtain ⟨new, distinct⟩ := List.nodup_cons.mp distinct
    rcases List.mem_cons.mp mem with rfl | mem
    · simp
    · have other : e'.1 ≠ e.1 := fun same => new (same ▸ List.mem_map_of_mem mem)
      rw [List.find?_cons_of_neg (by simpa using other), ih distinct mem]

theorem Keeps.holds_booleans (h : o.Keeps log) :
    List.Forall₂ o.Holds (o.booleans.map fun e => .boolean e.1) (o.booleans.map Prod.snd) := by
  rw [List.forall₂_map_left_iff, List.forall₂_map_right_iff, List.forall₂_same]
  intro e mem
  refine ⟨.boolean e.1, rfl, ?_, h.declared _ ((h.booleans.mem _).mp (List.mem_map_of_mem mem))⟩
  rw [get?, find?_boolean h.booleans.nodup mem]
  rfl

theorem holds_indices (few : o.shownIndices.size ≤ 2 ^ 53) :
    List.Forall₂ o.Holds ((List.range o.shownIndices.size).map .ofNat) o.shownIndices.toList := by
  refine List.forall₂_iff_get.mpr ⟨by simp, fun i inside inside' => ?_⟩
  have shown : i < o.shownIndices.size := by simpa using inside'
  refine ⟨.index i, ?_, ?_, declares_shown shown⟩
  · simpa using Key.ofValue_ofNat (Nat.lt_of_lt_of_le shown few)
  · have all : o.shownIndices = o.indices := by
      unfold shownIndices at shown ⊢
      split
      · rename_i hidden
        rw [if_pos hidden] at shown
        cases shown
      · rfl
    rw [get?, ← all, Array.getElem?_eq_getElem shown]
    rfl

/-- **The values stand under the keys**, each under the one at its place. -/
theorem Keeps.holds (h : o.Keeps log) (noInterface : o.interface? = none)
    (few : o.shownIndices.size ≤ 2 ^ 53) : List.Forall₂ o.Holds o.keys o.values := by
  have texts := h.texts
  rw [textKeys_of_noInterface noInterface] at texts
  rw [keys, values, textKeys_of_noInterface noInterface]
  have strings : List.Forall₂ o.Holds (o.strings.keys.map .string) o.strings.values :=
    h.holds_map texts (fun _ => rfl) fun _ => rfl
  have objects : List.Forall₂ o.Holds (o.objects.keys.map .object) o.objects.values :=
    h.holds_map h.objects (fun _ => rfl) fun _ => rfl
  have types : List.Forall₂ o.Holds (o.types.keys.map .type) o.types.values :=
    h.holds_map h.types (fun _ => rfl) fun _ => rfl
  exact List.rel_append (List.rel_append (List.rel_append (List.rel_append strings
    (holds_indices few)) objects) h.holds_booleans) types

end Object

/-- **What is listed is read.** -/
theorem getMember_holds {m : Machine} {o : ObjectId} {e : Engine} {a : Accessor} {key v : Value}
    (noFunction : (m.object o).function? = none) (noInterface : (m.object o).interface? = none)
    (direct : m.getterOf? o a = none) (holds : (m.object o).Holds key v) :
    getMember e (.object o) key a m = .ok v m := by
  obtain ⟨k, stands, found, declared⟩ := holds
  have entry : (m.object o).entry key = v := by
    rw [Object.entry, stands]
    exact congrArg Value.ofOption found
  rw [getMember_direct noFunction noInterface direct, Object.answer_declared declared stands, entry]
  rfl

/-- **The values of an interface**, asked for one after the other.  Under a text the member is read,
which may change the machine, and the object with it; under any other key there is what the object
holds by then. -/
inductive Turns (e : Engine) (o : ObjectId) : Machine → List Value → List Value → Machine → Prop
  | done {m : Machine} : Turns e o m [] [] m
  | member {m m₁ m' : Machine} {s : String} {v : Value} {keys values : List Value} :
    getMember e (.object o) (.string s) .dot m = .ok v m₁ → Turns e o m₁ keys values m' →
    Turns e o m (.string s :: keys) (v :: values) m'
  | entry {m m' : Machine} {key : Value} {keys values : List Value} : key.text? = none →
    Turns e o m keys values m' → Turns e o m (key :: keys) ((m.object o).entry key :: values) m'

theorem Turns.length {e : Engine} {o : ObjectId} {m m' : Machine} {keys values : List Value}
    (turns : Turns e o m keys values m') : values.length = keys.length := by
  induction turns with
  | done => rfl
  | member _ _ ih => rw [List.length_cons, List.length_cons, ih]
  | entry _ _ ih => rw [List.length_cons, List.length_cons, ih]

theorem interfaceValue_entry {e : Engine} {o : ObjectId} {key : Value} (other : key.text? = none)
    (m : Machine) : interfaceValue e o key m = .ok ((m.object o).entry key) m := by
  have entry : interfaceValue e o key = readEntry o key := by
    cases key with
    | string s => cases other
    | _ => rfl
  rw [entry, readEntry_eq]

theorem turns_of_mapM {e : Engine} {o : ObjectId} {keys : List Value} : ∀ {m values m'},
    keys.mapM (interfaceValue e o) m = .ok values m' → Turns e o m keys values m' := by
  induction keys with
  | nil =>
    intro m values m' ok
    cases ok
    exact .done
  | cons key keys ih =>
    intro m values m' ok
    rw [List.mapM_cons] at ok
    obtain ⟨v, m₁, first, ok⟩ := Action.bind_eq_ok.mp ok
    obtain ⟨rest, m₂, others, ok⟩ := Action.bind_eq_ok.mp ok
    cases ok
    cases key with
    | string s => exact .member first (ih others)
    | _ =>
      cases (interfaceValue_entry rfl m).symm.trans first
      exact .entry rfl (ih others)

section
variable {m m' : Machine} {o : ObjectId} {e : Engine}

theorem objectKeys_eq (noHook : m.attribute? o "keys" = none) (e : Engine) :
    objectKeys e o m = .ok (m.object o).keys m := by
  have asked : read (fun m => m.attribute? o "keys") m = .ok none m :=
    congrArg (EStateM.Result.ok · m) noHook
  have looked : objectAt o m = .ok (m.object o) m := rfl
  rw [objectKeys, Action.bind_ok asked]
  dsimp only
  rw [Action.bind_ok looked]
  rfl

theorem objectValues_eq (noHook : m.attribute? o "values" = none) (e : Engine) :
    objectValues e o m =
      (if (m.object o).interface?.isNone then pure (m.object o).values
        else (m.object o).keys.mapM (interfaceValue e o)) m := by
  have asked : read (fun m => m.attribute? o "values") m = .ok none m :=
    congrArg (EStateM.Result.ok · m) noHook
  have looked : objectAt o m = .ok (m.object o) m := rfl
  rw [objectValues, Action.bind_ok asked]
  dsimp only
  rw [Action.bind_ok looked]

end

/-- **Keys, values and their number agree**, whatever has been done to an object, if it has no
attributes that take over.  The keys are in order, there are as many as are counted, and no two are
the same.  If the values are had there are as many; each is what is read under its key, or was when
its turn came if the object is an interface.

Up to `2 ^ 53` indices can be told apart by their numbers; more of them fit in no store. -/
theorem keys_values_agree {m : Machine} {o : ObjectId} {log : List KeyEvent}
    (tended : Tended o log m) (noKeys : m.attribute? o "keys" = none)
    (noValues : m.attribute? o "values" = none) (e : Engine) :
    ∃ keys, objectKeys e o m = .ok keys m ∧ (m.object o).Ordered log keys ∧
      keys.length = (m.object o).keyCount ∧
      ((m.object o).shownIndices.size ≤ 2 ^ 53 → keys.Nodup) ∧
      ∀ values m', objectValues e o m = .ok values m' → values.length = keys.length ∧
        ((m.object o).interface? = none → m' = m ∧ ((m.object o).shownIndices.size ≤ 2 ^ 53 →
          List.Forall₂ (fun key v => ∀ e' a, m.getterOf? o a = none →
            getMember e' (.object o) key a m = .ok v m) keys values)) ∧
        ((m.object o).interface?.isSome = true → Turns e o m keys values m') := by
  obtain ⟨-, keeps⟩ := tended.keeps
  refine ⟨(m.object o).keys, objectKeys_eq noKeys e, keeps.ordered, Object.length_keys _,
    keeps.nodup, fun values m' ok => ?_⟩
  rw [objectValues_eq noValues] at ok
  cases interface : (m.object o).interface? with
  | some facet =>
    rw [interface, if_neg (by simp)] at ok
    have turns := turns_of_mapM ok
    exact ⟨turns.length, by simp, fun _ => turns⟩
  | none =>
    rw [interface, if_pos Option.isNone_none] at ok
    cases ok
    have length := Object.values_length interface
    refine ⟨length, fun _ => ⟨rfl, fun few => ?_⟩, by simp⟩
    cases function : (m.object o).function? with
    | none =>
      exact (keeps.holds interface few).imp fun key v holds e' a direct =>
        getMember_holds function interface direct holds
    | some f =>
      -- a function has neither keys nor values
      have none := keeps.function (by rw [Object.isFunction, function]; rfl)
      rw [none, List.length_nil, List.length_eq_zero_iff] at length
      rw [none, length]
      exact .nil

/-- An object with two entries. -/
def paired : Object :=
  { Object.blank with strings := OrderedMap.ofList [("a", .boolean true), ("b", .boolean false)] }

/-- A machine with that object. -/
def listing : Machine := { Machine.initial .standard with objects := #[paired] }

/-- The machine after the first entry of the object has been removed and written again. -/
def relisted : Machine :=
  { listing with
    objects := (listing.objects.modify 0 (·.remove (.string "a"))).modify 0
      (·.set (.string "a") (.boolean true)) }

/-- An entry that is removed and written again is listed last, and so is its value. -/
theorem keys_values_agree_relisted :
    let e : Engine := ⟨0, fun _ => pure .empty⟩
    Tended ⟨1⟩ [.wrote (.string "a"), .removed (.string "a"), .wrote (.string "b"),
        .wrote (.string "a")] relisted ∧
      objectKeys e ⟨1⟩ relisted = .ok [.string "b", .string "a"] relisted ∧
      ∃ v w, objectValues e ⟨1⟩ relisted = .ok [v, w] relisted ∧
        getMember e (.object ⟨1⟩) (.string "b") .dot relisted = .ok v relisted ∧
        getMember e (.object ⟨1⟩) (.string "a") .dot relisted = .ok w relisted := by
  intro e
  have texts : paired.strings.keys = ["a", "b"] := by
    rw [OrderedMap.keys, paired, OrderedMap.toList_ofList (by decide)]
    rfl
  have pristine : paired.Pristine := by
    refine ⟨rfl, rfl, rfl, rfl, fun s mem layout record => ?_, fun function => ?_⟩
    · cases record
    · cases function
  have backed : listing.Backs (⟨1⟩ : ObjectId) := by
    show 0 < 1
    decide
  have born : Tended ⟨1⟩ paired.birth listing := .born backed pristine
  have first : Key.ofValue (Native.argument #[.object ⟨1⟩, .string "a"] 1) = .ok (.string "a") := rfl
  have second : Key.ofValue (.string "a") = .ok (.string "a") := rfl
  have removed := born.removed rfl first
    (rfl : Native.remove #[.object ⟨1⟩, .string "a"] listing = .ok _ _)
  have wrote : Tended ⟨1⟩ _ relisted := removed.wrote rfl rfl second
    (rfl : setMember e (.object ⟨1⟩) (.string "a") (.boolean true) .dot _ = .ok _ _)
  have log : paired.birth = [.wrote (.string "b"), .wrote (.string "a")] := by
    rw [Object.birth, texts]
    rfl
  rw [log] at wrote
  obtain ⟨keys, listed, -, -, -, values⟩ := keys_values_agree wrote rfl rfl e
  have order : keys = [.string "b", .string "a"] := by
    cases listed.symm.trans (objectKeys_eq rfl e)
    show (((paired.strings.erase "a").insert "a" (.boolean true)).keys.map Value.string ++
      _ ++ _ ++ _ ++ _ : List Value) = _
    rw [OrderedMap.keys_insert, OrderedMap.keys_erase, texts]
    rfl
  rw [order] at listed values
  obtain ⟨vs, valued⟩ : ∃ vs, objectValues e ⟨1⟩ relisted = .ok vs relisted :=
    ⟨_, objectValues_eq rfl e⟩
  obtain ⟨-, read, -⟩ := values vs relisted valued
  cases (read rfl).2 (Nat.zero_le _) with
  | cons first rest =>
    cases rest with
    | cons second rest =>
      cases rest
      exact ⟨wrote, listed, _, _, valued, first e .dot rfl, second e .dot rfl⟩

end StubMachine
