import StubMachine.Proofs.Evolution.Native
import StubMachine.Proofs.Growth

/-!
# Interfaces on and off

An object becomes an interface by having its text entries made into members: a function becomes a
method, and an object with a getter or a setter an accessor.  All entries are looked at before any
is moved.  So **the switch either changes nothing or moves all of them** (`Machine.Enclosed`), and
it fails only because of an entry that can be neither.

The way back gives every member its entry again (`Machine.Released`).  A method is the function that
it was.  An accessor gets a new object for its getter and its setter, for it has not kept the one
that they came from.  **Nothing is lost on the way there and back**, and an object that is made an
interface once more has the same members (`interface_switch`).
-/

namespace StubMachine

open StubMachine.Action

/-- The texts that are keys are those under which there are entries, unless there are members. -/
theorem Object.textKeys_of_noInterface {o : Object} (none : o.interface? = none) :
    o.textKeys = o.strings.keys := by
  unfold textKeys
  split
  · rename_i members binding facet
    rw [interface?, facet] at none
    cases none
  · rfl

/-! ## What an entry becomes -/

/-- A part of an accessor: what an object holds under a name, unless that is Empty. -/
def Machine.part? (m : Machine) (p : ObjectId) (name : String) : Option Value :=
  ((m.object p).text? name).bind Value.nonEmpty?

/-- **What an entry becomes.**  A function becomes a method; any other object that has a getter or
a setter becomes an accessor. -/
inductive Machine.Becomes (m : Machine) : Value → Member → Prop
  | method {function : Value} : m.isFunction function = true → m.Becomes function (.method function)
  | accessor {p : ObjectId} : m.isFunction (.object p) = false →
    (m.part? p "get").isSome ∨ (m.part? p "set").isSome →
    m.Becomes (.object p) (.accessor (m.part? p "get") (m.part? p "set"))

namespace Machine
variable {m : Machine} {member : Member}

theorem becomes_function {function : Value} (is : m.isFunction function = true) :
    m.Becomes function member ↔ .method function = member := by
  constructor
  · intro becomes
    cases becomes with
    | method => rfl
    | accessor other => cases is.symm.trans other
  · rintro rfl
    exact .method is

theorem becomes_accessor {p : ObjectId} (other : m.isFunction (.object p) = false) :
    m.Becomes (.object p) member ↔ ((m.part? p "get").isSome ∨ (m.part? p "set").isSome) ∧
      .accessor (m.part? p "get") (m.part? p "set") = member := by
  constructor
  · intro becomes
    cases becomes with
    | method is => cases other.symm.trans is
    | accessor _ some => exact ⟨some, rfl⟩
  · rintro ⟨some, rfl⟩
    exact .accessor other some

/-- Only a function or another object becomes a member. -/
theorem Becomes.ofObject {v : Value} (becomes : m.Becomes v member) (other : m.isFunction v = false) :
    ∃ p, v = .object p := by
  cases becomes with
  | method is => cases other.symm.trans is
  | accessor => exact ⟨_, rfl⟩

end Machine

namespace Native

theorem memberOf_ok_iff {m : Machine} {name : String} {v : Value} {member : Member} :
    memberOf m name v = .ok member ↔ m.Becomes v member := by
  unfold memberOf
  by_cases function : m.isFunction v = true
  · rw [if_pos function, Machine.becomes_function function, Except.ok.injEq]
  · rw [if_neg function]
    have other : m.isFunction v = false := Bool.eq_false_iff.mpr function
    cases v with
    | object p =>
      have none : ((m.part? p "get").isNone && (m.part? p "set").isNone) = true ↔
          ¬ ((m.part? p "get").isSome ∨ (m.part? p "set").isSome) := by
        simp
      rw [Machine.becomes_accessor other]
      show (if (m.part? p "get").isNone && (m.part? p "set").isNone then _ else _) = _ ↔ _
      by_cases either : (m.part? p "get").isSome ∨ (m.part? p "set").isSome
      · rw [if_neg fun neither => none.mp neither either, Except.ok.injEq, and_iff_right either]
        rfl
      · rw [if_pos (none.mpr either)]
        exact iff_of_false (by simp) fun becomes => either becomes.1
    | _ =>
      refine iff_of_false (by simp) fun becomes => ?_
      obtain ⟨p, is⟩ := becomes.ofObject other
      cases is

/-- **All entries become members, or one of them does not.** -/
theorem membersOf_cases (m : Machine) (entries : List (String × Value)) :
    (∃ members, membersOf m entries = .ok members ∧
      List.Forall₂ (fun entry member => member.1 = entry.1 ∧ m.Becomes entry.2 member.2)
        entries members) ∨
      ∃ f, membersOf m entries = .error f ∧
        ∃ entry ∈ entries, ∀ member, ¬ m.Becomes entry.2 member := by
  cases made : membersOf m entries with
  | ok members =>
    exact .inl ⟨members, rfl, (membersOf_ok made).imp fun _ _ h => ⟨h.1, memberOf_ok_iff.mp h.2⟩⟩
  | error f =>
    refine .inr ⟨f, rfl, ?_⟩
    induction entries with
    | nil => cases made
    | cons entry entries ih =>
      rw [membersOf_cons] at made
      cases first : memberOf m entry.1 entry.2 with
      | error f' =>
        refine ⟨entry, List.mem_cons_self, fun member becomes => ?_⟩
        cases first.symm.trans (memberOf_ok_iff.mpr becomes)
      | ok member =>
        cases others : membersOf m entries with
        | error f' =>
          rw [first, others] at made
          cases made
          obtain ⟨entry', mem, not⟩ := ih others
          exact ⟨entry', List.mem_cons_of_mem _ mem, not⟩
        | ok members =>
          rw [first, others] at made
          cases made

/-! ## Switching on -/

/-- **An object is asked to be an interface, or not to be one**: the second argument is true or
false, and finding that out has changed nothing. -/
structure Switching (e : Engine) (args : Array Value) (o : ObjectId) (enabled : Bool)
    (m : Machine) : Prop where
  base : argument args 0 = .object o
  flag : asBoolean e (argument args 1) m = .ok enabled m

section
variable {e : Engine} {args : Array Value} {o : ObjectId} {m m₁ : Machine}
  (base : argument args 0 = .object o) (entries : (m.object o).isFunction = false)
include base entries

/-- Switching on makes entries into members; there is nothing to switch off.  The question whether
to switch on is answered first. -/
theorem switch_other {enabled : Bool} (flag : asBoolean e (argument args 1) m = .ok enabled m₁)
    (noRecord : (m₁.object o).layout? = none) (noInterface : (m₁.object o).interface? = none) :
    setIsInterface e args m =
      ((if enabled then raiseInterface o (argument args 2).nonEmpty? else pure ()) >>=
        fun _ => pure (.object o)) m₁ := by
  have looked : objectAt o m₁ = .ok (m₁.object o) m₁ := rfl
  rw [setIsInterface, Action.bind_ok (baseObject_ok base entries), Action.bind_ok flag]
  dsimp only
  rw [Action.bind_ok looked]
  unfold Object.layout? at noRecord
  unfold Object.interface? at noInterface
  cases facet : (m₁.object o).facet with
  | record layout =>
    rw [facet] at noRecord
    cases noRecord
  | interface members current =>
    rw [facet] at noInterface
    cases noInterface
  | _ =>
    cases enabled with
    | _ => rfl

theorem switch_interface {enabled : Bool}
    (flag : asBoolean e (argument args 1) m = .ok enabled m₁) {members : OrderedMap String Member}
    {current : Option Value} (interface : (m₁.object o).facet = .interface members current) :
    setIsInterface e args m =
      ((if enabled then
          updateObject o fun object =>
            { object with facet := .interface members ((argument args 2).nonEmpty?.or current) }
        else dropInterface o members.toList) >>= fun _ => pure (.object o)) m₁ := by
  have looked : objectAt o m₁ = .ok (m₁.object o) m₁ := rfl
  rw [setIsInterface, Action.bind_ok (baseObject_ok base entries), Action.bind_ok flag]
  dsimp only
  rw [Action.bind_ok looked, interface]
  cases enabled with
  | _ => rfl

end

end Native

/-- **An object has become an interface**: its text entries are members now, one for one and in
their order, and nothing else is different. -/
structure Machine.Enclosed (m : Machine) (o : ObjectId) (members : List (String × Member))
    (binding : Option Value) (m' : Machine) : Prop where
  grown : m.Grown (· = o.serial - 1) m'
  size : m'.objects.size = m.objects.size
  become : List.Forall₂ (fun entry member => member.1 = entry.1 ∧ m.Becomes entry.2 member.2)
    (m.object o).strings.toList members
  facet : ∃ map, (m'.object o).facet = .interface map binding ∧ map.toList = members
  strings : (m'.object o).strings.toList = []
  rest : m'.object o =
    { m.object o with strings := (m'.object o).strings, facet := (m'.object o).facet }

namespace Native
section
variable {m : Machine} {o : ObjectId} (backed : m.Backs o)
include backed

/-- **All entries are moved, or none is.** -/
theorem raiseInterface_cases (binding : Option Value) :
    (∃ members m', raiseInterface o binding m = .ok () m' ∧ m.Enclosed o members binding m') ∨
      ∃ f, raiseInterface o binding m = .error (.plain f) m ∧
        ∃ entry ∈ (m.object o).strings.toList, ∀ member, ¬ m.Becomes entry.2 member := by
  have looked : objectAt o m = .ok (m.object o) m := rfl
  have asked : read (fun m' => membersOf m' (m.object o).strings.toList) m =
      .ok (membersOf m (m.object o).strings.toList) m := rfl
  rw [raiseInterface, Action.bind_ok looked, Action.bind_ok asked]
  rcases membersOf_cases m (m.object o).strings.toList with
    ⟨members, made, become⟩ | ⟨f, made, entry, mem, not⟩
  · rw [made]
    obtain ⟨m', run, grown, size, changed⟩ := updateObject_grows m o (fun object =>
      { object with
        strings := members.foldl (fun strings e => strings.erase e.1) object.strings
        facet := .interface (OrderedMap.ofList members) binding }) backed
    refine .inl ⟨members, m', run, grown, size, become, ?_, ?_, ?_⟩
    · refine ⟨OrderedMap.ofList members, by rw [changed], OrderedMap.toList_ofList ?_⟩
      rw [membersOf_names made]
      exact (m.object o).strings.nodup_keys
    · rw [changed]
      exact erased_members made
    · rw [changed]
  · rw [made]
    exact .inr ⟨f, rfl, entry, mem, not⟩

end
end Native

/-! ## Switching off -/

/-- The object that an accessor turns back into; a part that it lacks is Empty there. -/
def Object.ofAccessor (getter setter : Option Value) : Object :=
  (Object.blank.setText "get" (.ofOption getter)).setText "set" (.ofOption setter)

/-- **What a member turns back into**: a method into its function, an accessor into a new object. -/
inductive Machine.Reverts (m m' : Machine) : Member → Value → Prop
  | method (function : Value) : m.Reverts m' (.method function) function
  | accessor {getter setter : Option Value} {p : ObjectId} : m.Fresh m' p →
    m'.object p = .ofAccessor getter setter →
    m.Reverts m' (.accessor getter setter) (.object p)

/-- Two entries are not the same new object. -/
def Machine.Apart (m m' : Machine) (entry entry' : String × Value) : Prop :=
  ∀ p, entry.2 = .object p → m.Fresh m' p → entry'.2 ≠ .object p

/-- The objects that are methods are there. -/
def Machine.KnowsMethods (m : Machine) (members : List (String × Member)) : Prop :=
  ∀ member ∈ members, ∀ p, member.2 = .method (.object p) → p.serial ≤ m.objects.size

/-- **Entries have been added to an object**, one for each of some members, and nothing else is
different but that there are new objects. -/
structure Machine.Refilled (m : Machine) (o : ObjectId) (members : List (String × Member))
    (entries : List (String × Value)) (m' : Machine) : Prop where
  grown : m.Grown (· = o.serial - 1) m'
  revert : List.Forall₂ (fun member entry => entry.1 = member.1 ∧ m.Reverts m' member.2 entry.2)
    members entries
  apart : m.KnowsMethods members → entries.Pairwise (m.Apart m')
  strings : (m'.object o).strings.toList = (m.object o).strings.toList ++ entries
  rest : m'.object o = { m.object o with strings := (m'.object o).strings }

/-- What was made for one member stays as it is while others get their entries. -/
theorem Machine.Reverts.mono {m m₁ m' : Machine} {o : ObjectId} {member : Member} {v : Value}
    (reverts : m.Reverts m₁ member v) (stored : o.serial - 1 < m.objects.size)
    (grown : m₁.Grown (· = o.serial - 1) m') : m.Reverts m' member v := by
  cases reverts with
  | method => exact .method v
  | @accessor getter setter p fresh made =>
    have before : m.objects.size < p.serial := fresh.1
    have after : p.serial ≤ m₁.objects.size := fresh.2
    have other : ¬ p.serial - 1 = o.serial - 1 := by omega
    refine .accessor (fresh.mono (Nat.le_refl _) grown.size) ?_
    rw [grown.object (by omega) other, made]

/-- What was made later was also made after an earlier state. -/
theorem Machine.Reverts.earlier {m m₁ m' : Machine} {member : Member} {v : Value}
    (reverts : m₁.Reverts m' member v) (grown : m.objects.size ≤ m₁.objects.size) :
    m.Reverts m' member v := by
  cases reverts with
  | method => exact .method v
  | accessor fresh made => exact .accessor (fresh.mono grown (Nat.le_refl _)) made

/-- An entry that is a new object has been made for its member. -/
theorem Machine.Reverts.fresh {m m₁ m' : Machine} {member : Member} {p : ObjectId}
    (reverts : m₁.Reverts m' member (.object p))
    (known : ∀ p, member = .method (.object p) → p.serial ≤ m.objects.size)
    (new : m.objects.size < p.serial) : m₁.Fresh m' p := by
  cases reverts with
  | method => exact absurd new (Nat.not_lt.mpr (known p rfl))
  | accessor made => exact made

/-- Entries that are new objects have been made for their members. -/
theorem Machine.Refilled.fresh {m m₁ m' : Machine} {o : ObjectId} {members : List (String × Member)}
    {entries : List (String × Value)} (refilled : m₁.Refilled o members entries m')
    (known : m.KnowsMethods members) {entry : String × Value} (mem : entry ∈ entries) {p : ObjectId}
    (is : entry.2 = .object p) (new : m.objects.size < p.serial) : m₁.Fresh m' p := by
  have all := refilled.revert
  clear refilled
  induction all with
  | nil => cases mem
  | @cons member entry' members entries reverts _ ih =>
    rcases List.mem_cons.mp mem with rfl | mem
    · exact (is ▸ reverts.2).fresh (known member List.mem_cons_self) new
    · exact ih (fun member listed => known member (List.mem_cons_of_mem _ listed)) mem

namespace Native

theorem memberValue_grows (member : Member) (m : Machine) :
    ∃ v m', memberValue member m = .ok v m' ∧ m.Grown (fun _ => False) m' ∧
      m.Reverts m' member v := by
  cases member with
  | method function => exact ⟨function, m, rfl, .refl m, .method function⟩
  | accessor getter setter =>
    obtain ⟨m', made, grown, size, stored⟩ :=
      newObject_grows m (.ofAccessor getter setter) fun _ => False
    refine ⟨_, m', ?_, grown, .accessor ⟨Nat.lt_succ_self _, Nat.le_of_eq size.symm⟩ stored⟩
    exact Action.bind_ok made

section
variable {o : ObjectId} {m m₁ m₂ m' : Machine} {name : String} {member : Member}
  {members : List (String × Member)} {v : Value} {entries : List (String × Value)}

/-- **One more member gets its entry** before the others do. -/
theorem refilled_cons (stored : o.serial - 1 < m.objects.size)
    (grown₁ : m.Grown (fun _ => False) m₁) (reverts : m.Reverts m₁ member v)
    (grown₂ : m₁.Grown (· = o.serial - 1) m₂) (size₂ : m₂.objects.size = m₁.objects.size)
    (changed : m₂.object o = (m₁.object o).setText name v)
    (new : name ∉ (m.object o).strings.keys) (refilled : m₂.Refilled o members entries m') :
    m.Refilled o ((name, member) :: members) ((name, v) :: entries) m' := by
  have same₁ : m₁.object o = m.object o := grown₁.object stored fun h => h
  have grown : m.Grown (· = o.serial - 1) m₂ := (grown₁.mono fun _ _ h => h.elim).trans grown₂
  refine ⟨grown.trans refilled.grown, ?revert, fun known => ?apart, ?strings, ?rest⟩
  case revert =>
    exact .cons ⟨rfl, reverts.mono stored (grown₂.trans refilled.grown)⟩
      (refilled.revert.imp fun _ _ h => ⟨h.1, h.2.earlier grown.size⟩)
  case apart =>
    have others : m.KnowsMethods members := fun member mem =>
      known member (List.mem_cons_of_mem _ mem)
    have apart := refilled.apart fun member mem p is =>
      Nat.le_trans (others member mem p is) grown.size
    refine .cons ?_ (apart.imp_of_mem fun mem _ apart p is fresh =>
      apart p is (refilled.fresh others mem is fresh.1))
    -- the object of this entry was made before those of the others
    rintro entry mem p rfl fresh is
    have early : p.serial ≤ m₁.objects.size :=
      (reverts.fresh (known _ List.mem_cons_self) fresh.1).2
    have late : m₂.objects.size < p.serial := (refilled.fresh others mem is fresh.1).1
    omega
  case strings =>
    rw [refilled.strings, changed, same₁, Object.setText, OrderedMap.toList_insert new v,
      List.append_assoc]
    rfl
  case rest => exact refilled.rest.trans (by rw [changed, same₁]; rfl)

/-- **Every member gets an entry of its own.** -/
theorem refill (o : ObjectId) (members : List (String × Member)) (m : Machine)
    (stored : o.serial - 1 < m.objects.size)
    (names : ((m.object o).strings.keys ++ members.map Prod.fst).Nodup) :
    ∃ entries m', (forIn members PUnit.unit fun (name, member) _ => do
        let v ← memberValue member
        updateObject o (·.setText name v)
        pure (ForInStep.yield PUnit.unit) : Action PUnit) m = .ok PUnit.unit m' ∧
      m.Refilled o members entries m' := by
  induction members generalizing m with
  | nil => exact ⟨[], m, rfl, .refl m, .nil, fun _ => .nil, (List.append_nil _).symm, rfl⟩
  | cons member members ih =>
    obtain ⟨name, member⟩ := member
    obtain ⟨v, m₁, valued, grown₁, reverts⟩ := memberValue_grows member m
    have stored₁ : o.serial - 1 < m₁.objects.size := Nat.lt_of_lt_of_le stored grown₁.size
    have same₁ : m₁.object o = m.object o := grown₁.object stored fun h => h
    obtain ⟨m₂, updated, grown₂, size₂, changed⟩ :=
      updateObject_grows m₁ o (·.setText name v) stored₁
    have once : (do
        let v ← memberValue member
        updateObject o (·.setText name v)
        pure (ForInStep.yield PUnit.unit) : Action _) m = .ok (.yield PUnit.unit) m₂ := by
      rw [Action.bind_ok valued, Action.bind_ok updated]
      rfl
    have new : name ∉ (m.object o).strings.keys := fun mem =>
      (List.nodup_append.mp names).2.2 _ mem _ List.mem_cons_self rfl
    have names₂ : ((m₂.object o).strings.keys ++ members.map Prod.fst).Nodup := by
      rw [changed, same₁, Object.setText, OrderedMap.keys, OrderedMap.toList_insert new v,
        List.map_append, List.append_assoc]
      exact names
    obtain ⟨entries, m', run, refilled⟩ :=
      ih m₂ (Nat.lt_of_lt_of_le stored₁ grown₂.size) names₂
    refine ⟨(name, v) :: entries, m', ?_,
      refilled_cons stored grown₁ reverts grown₂ size₂ changed new refilled⟩
    rw [List.forIn_cons, Action.bind_ok once]
    exact run

end

/-- The facet goes first, and then the members come back as entries. -/
theorem dropInterface_refills {m : Machine} {o : ObjectId} {members : List (String × Member)}
    (stored : o.serial - 1 < m.objects.size) (none : (m.object o).strings.toList = [])
    (names : (members.map Prod.fst).Nodup) :
    ∃ m₁ entries m', dropInterface o members m = .ok () m' ∧ m.Grown (· = o.serial - 1) m₁ ∧
      m₁.objects.size = m.objects.size ∧ m₁.object o = { m.object o with facet := .plain } ∧
      (m'.object o).strings.toList = entries ∧ m₁.Refilled o members entries m' := by
  obtain ⟨m₁, updated, grown, size, changed⟩ :=
    updateObject_grows m o (fun object => { object with facet := .plain }) stored
  have none₁ : (m₁.object o).strings.toList = [] := by
    rw [changed]
    exact none
  obtain ⟨entries, m', run, refilled⟩ := refill o members m₁ (size.symm ▸ stored) (by
    rw [OrderedMap.keys, none₁]
    exact names)
  refine ⟨m₁, entries, m', ?_, grown, size, changed, ?_, refilled⟩
  · rw [dropInterface, Action.bind_ok updated, Action.bind_ok run]
    rfl
  · rw [refilled.strings, none₁, List.nil_append]

end Native

/-- **An object is no interface any longer**: each member has an entry again, in the same order, and
nothing else is different but that there are new objects. -/
structure Machine.Released (m : Machine) (o : ObjectId) (members : List (String × Member))
    (m' : Machine) : Prop where
  grown : m.Grown (· = o.serial - 1) m'
  revert : List.Forall₂ (fun member entry => entry.1 = member.1 ∧ m.Reverts m' member.2 entry.2)
    members (m'.object o).strings.toList
  apart : (m'.object o).strings.toList.Pairwise (m.Apart m')
  rest : m'.object o = { m.object o with strings := (m'.object o).strings, facet := .plain }

namespace Native

theorem dropInterface_released {m : Machine} {o : ObjectId} {members : List (String × Member)}
    (stored : o.serial - 1 < m.objects.size) (none : (m.object o).strings.toList = [])
    (known : m.KnowsMethods members) (names : (members.map Prod.fst).Nodup) :
    ∃ m', dropInterface o members m = .ok () m' ∧ m.Released o members m' := by
  obtain ⟨m₁, entries, m', dropped, grown, size, changed, strings, refilled⟩ :=
    dropInterface_refills stored none names
  have apart := refilled.apart fun member mem p is => size.symm ▸ known member mem p is
  refine ⟨m', dropped, grown.trans refilled.grown, ?_, ?_, ?_⟩
  · rw [strings]
    exact refilled.revert.imp fun _ _ h => ⟨h.1, h.2.earlier grown.size⟩
  · rw [strings]
    exact apart.imp fun apart p is fresh => apart p is (by rwa [Machine.Fresh, size])
  · exact refilled.rest.trans (by rw [changed])

end Native

/-! ## There and back -/

namespace Machine

theorem isFunction_known {m : Machine} {p : ObjectId} (function : m.isFunction (.object p) = true) :
    p.serial - 1 < m.objects.size := by
  by_contra beyond
  have blank : m.object p = Object.blank := by
    rw [Machine.object, Array.getD_eq_getD_getElem?,
      Array.getElem?_eq_none (Nat.le_of_not_lt beyond)]
    rfl
  rw [Machine.isFunction, blank] at function
  cases function

/-- A method is a function. -/
theorem Becomes.function {m : Machine} {v function : Value}
    (becomes : m.Becomes v (.method function)) : m.isFunction function = true := by
  cases becomes with
  | method is => exact is

namespace Enclosed
variable {m m' : Machine} {o : ObjectId} {members : List (String × Member)} {binding : Option Value}

/-- The members are called what the entries were called. -/
theorem names (enclosed : m.Enclosed o members binding m') :
    members.map Prod.fst = (m.object o).strings.keys :=
  Native.names_eq enclosed.become fun _ _ h => h.1

/-- The texts that are keys are the same, in the same order. -/
theorem textKeys (enclosed : m.Enclosed o members binding m')
    (noInterface : (m.object o).interface? = none) :
    (m'.object o).textKeys = (m.object o).textKeys := by
  obtain ⟨map, facet, toList⟩ := enclosed.facet
  have before : (m.object o).textKeys = (m.object o).strings.keys :=
    Object.textKeys_of_noInterface noInterface
  rw [before, Object.textKeys, facet]
  show map.keys = (m.object o).strings.keys
  rw [OrderedMap.keys, toList, enclosed.names]

theorem knowsMethods (enclosed : m.Enclosed o members binding m') : m'.KnowsMethods members := by
  have all := enclosed.become
  have size := enclosed.size
  generalize (m.object o).strings.toList = entries at all
  clear enclosed
  induction all with
  | nil => exact fun _ mem => absurd mem List.not_mem_nil
  | cons become _ ih =>
    intro member mem p is
    rcases List.mem_cons.mp mem with rfl | mem
    · have := isFunction_known (is ▸ become.2).function
      omega
    · exact ih member mem p is

end Enclosed

/-- An accessor has the parts that it turns back into. -/
theorem part?_ofAccessor {m m' : Machine} {p p' : ObjectId} (made : m'.object p' =
    .ofAccessor (m.part? p "get") (m.part? p "set")) :
    m'.part? p' "get" = m.part? p "get" ∧ m'.part? p' "set" = m.part? p "set" := by
  have kept (v? : Option Value) :
      (Value.ofOption (v?.bind Value.nonEmpty?)).nonEmpty? = v?.bind Value.nonEmpty? := by
    cases v? with
    | none => rfl
    | some v =>
      cases v with
      | _ => rfl
  constructor
  · rw [part?, made, Object.ofAccessor, Object.text?, Object.setText, Object.setText,
      OrderedMap.get?_insert, if_neg (by decide), OrderedMap.get?_insert, if_pos rfl]
    exact kept _
  · rw [part?, made, Object.ofAccessor, Object.text?, Object.setText, OrderedMap.get?_insert,
      if_pos rfl]
    exact kept _

section
variable {m m' n n' : Machine} {o : ObjectId} {members : List (String × Member)}
  {binding : Option Value} (enclosed : m.Enclosed o members binding m')
  (plain : (m.object o).facet = .plain) (same : n.objects = m'.objects)
  (released : n.Released o members n')
include enclosed plain same released

/-- **What a member turned back into becomes that member again.** -/
theorem Becomes.again {v v' : Value} {member : Member} (becomes : m.Becomes v member)
    (reverts : n.Reverts n' member v') : n'.Becomes v' member := by
  cases becomes with
  | method function =>
    cases reverts
    cases v with
    | object p =>
      have known := isFunction_known function
      have other : ¬ p.serial - 1 = o.serial - 1 := by
        intro here
        rw [isFunction, object, here, ← object, Object.isFunction, Object.function?, plain]
          at function
        cases function
      refine .method ?_
      rw [isFunction, released.grown.object (by rw [same, enclosed.size]; exact known) other,
        object_of same, enclosed.grown.object known other]
      exact function
    | _ => cases function
  | @accessor p _ either =>
    cases reverts with
    | @accessor _ _ p' fresh made =>
      obtain ⟨get, set⟩ := part?_ofAccessor made
      have function : n'.isFunction (.object p') = false := by
        rw [isFunction, made]
        rfl
      rw [← get, ← set] at either ⊢
      exact .accessor function either

end

/-- What an entry becomes depends on the objects alone. -/
theorem Becomes.of_objects {m n : Machine} (same : n.objects = m.objects) {v : Value}
    {member : Member} (becomes : m.Becomes v member) : n.Becomes v member := by
  have part (p : ObjectId) (name : String) : n.part? p name = m.part? p name := by
    rw [part?, part?, object_of same]
  have function (v : Value) : n.isFunction v = m.isFunction v := by
    cases v with
    | object p => rw [isFunction, isFunction, object_of same]
    | _ => rfl
  cases becomes with
  | method is => exact .method ((function v).trans is)
  | @accessor p other either =>
    rw [← part p "get", ← part p "set"] at either ⊢
    exact .accessor ((function _).trans other) either

/-- An entry becomes one member. -/
theorem Becomes.unique {m : Machine} {v : Value} {member member' : Member}
    (h : m.Becomes v member) (h' : m.Becomes v member') : member' = member := by
  have made : Native.memberOf m "" v = .ok member := Native.memberOf_ok_iff.mpr h
  have made' : Native.memberOf m "" v = .ok member' := Native.memberOf_ok_iff.mpr h'
  exact Except.ok.inj (made'.symm.trans made)

theorem becomes_iff {m : Machine} {v : Value} : (∃ member, m.Becomes v member) ↔
    m.isFunction v = true ∨
      ∃ p, v = .object p ∧ ((m.part? p "get").isSome ∨ (m.part? p "set").isSome) := by
  constructor
  · rintro ⟨member, becomes⟩
    cases becomes with
    | method function => exact .inl function
    | accessor _ either => exact .inr ⟨_, rfl, either⟩
  · rintro (function | ⟨p, rfl, either⟩)
    · exact ⟨_, .method function⟩
    · by_cases function : m.isFunction (.object p) = true
      · exact ⟨_, .method function⟩
      · exact ⟨_, .accessor (Bool.eq_false_iff.mpr function) either⟩

end Machine

/-- The keys of an object without members of its own depend on its text entries only by their
keys. -/
theorem Object.keys_congr {o o' : Object} (plain : o.facet = .plain)
    (rest : o' = { o with strings := o'.strings }) (texts : o'.strings.keys = o.strings.keys) :
    o'.keys = o.keys := by
  rw [rest]
  unfold keys textKeys shownIndices hidesIndices
  simp only [plain, texts]

namespace Native

theorem counterpart {α β : Type} {R : α → β → Prop} {as : List α} {bs : List β}
    (all : List.Forall₂ R as bs) (a : α) (mem : a ∈ as) : ∃ b, R a b := by
  induction all with
  | nil => cases mem
  | cons first _ ih =>
    rcases List.mem_cons.mp mem with rfl | mem
    · exact ⟨_, first⟩
    · exact ih mem

section
variable {m : Machine} {o : ObjectId} {e : Engine} {args : Array Value}

/-- **Switching on moves all text entries or changes nothing.** -/
theorem switch_on_cases (backed : m.Backs o) (on : Switching e args o true m)
    (plain : (m.object o).facet = .plain) :
    (∃ members m', setIsInterface e args m = .ok (.object o) m' ∧
        m.Enclosed o members (argument args 2).nonEmpty? m' ∧
        ∀ entry ∈ (m.object o).strings.toList, ∃ member, m.Becomes entry.2 member) ∨
      ∃ f, setIsInterface e args m = .error (.plain f) m ∧
        ∃ entry ∈ (m.object o).strings.toList, ∀ member, ¬ m.Becomes entry.2 member := by
  have entries : (m.object o).isFunction = false := by
    rw [Object.isFunction, Object.function?, plain]
    rfl
  have noRecord : (m.object o).layout? = none := by rw [Object.layout?, plain]
  have noInterface : (m.object o).interface? = none := by rw [Object.interface?, plain]
  rw [switch_other on.base entries on.flag noRecord noInterface, if_pos rfl]
  rcases raiseInterface_cases backed (argument args 2).nonEmpty? with
    ⟨members, m', raised, enclosed⟩ | ⟨f, failed, entry, mem, not⟩
  · refine .inl ⟨members, m', ?_, enclosed, ?_⟩
    · rw [Action.bind_ok raised]
      rfl
    · intro entry mem
      obtain ⟨member, -, become⟩ := counterpart enclosed.become entry mem
      exact ⟨member.2, become⟩
  · refine .inr ⟨f, ?_, entry, mem, not⟩
    rw [Action.bind_error failed]

/-- Switching an interface on changes at most its private binding. -/
theorem switch_on_interface (backed : m.Backs o) (on : Switching e args o true m)
    {members : OrderedMap String Member} {current : Option Value}
    (interface : (m.object o).facet = .interface members current) :
    ∃ m', setIsInterface e args m = .ok (.object o) m' ∧ m.Grown (· = o.serial - 1) m' ∧
      m'.objects.size = m.objects.size ∧
      m'.object o = { m.object o with
        facet := .interface members ((argument args 2).nonEmpty?.or current) } ∧
      ((argument args 2).nonEmpty? = none → m' = m) := by
  obtain ⟨m', updated, grown, size, changed⟩ := updateObject_grows m o (fun object =>
    { object with facet := .interface members ((argument args 2).nonEmpty?.or current) }) backed
  refine ⟨m', ?_, grown, size, changed, fun none => ?_⟩
  · have entries : (m.object o).isFunction = false := by
      rw [Object.isFunction, Object.function?, interface]
      rfl
    rw [switch_interface on.base entries on.flag interface, if_pos rfl, Action.bind_ok updated]
    rfl
  · have unchanged : m'.object o = m.object o := by
      rw [changed, none, Option.none_or, ← interface]
    have objects : m'.objects = m.objects := by
      refine Array.ext_getElem? fun i => ?_
      by_cases inside : i < m.objects.size
      · by_cases here : i = o.serial - 1
        · rw [Machine.object, Machine.object, Array.getD_eq_getD_getElem?,
            Array.getD_eq_getD_getElem?, ← here] at unchanged
          rw [Array.getElem?_eq_getElem inside, Array.getElem?_eq_getElem (size.symm ▸ inside)]
            at unchanged ⊢
          exact congrArg some unchanged
        · exact grown.kept i inside here
      · rw [Array.getElem?_eq_none (by omega), Array.getElem?_eq_none (by omega)]
    rw [grown.rest, objects]

section
variable {m' n n' k : Machine} {members : List (String × Member)} {binding : Option Value}
  (plain : (m.object o).facet = .plain) (enclosed : m.Enclosed o members binding m')
  (same : n.objects = m'.objects)
include enclosed same

/-- **Switching off gives every member an entry again.** -/
theorem switch_off (backed : m.Backs o) (off : Switching e args o false n) :
    ∃ n', setIsInterface e args n = .ok (.object o) n' ∧ n.Released o members n' := by
  obtain ⟨map, facet, toList⟩ := enclosed.facet
  have stored : o.serial - 1 < m.objects.size := backed
  have object : n.object o = m'.object o := Machine.object_of same o
  have names : (members.map Prod.fst).Nodup := by
    rw [enclosed.names]
    exact (m.object o).strings.nodup_keys
  have known : n.KnowsMethods members := fun member mem p is => by
    rw [same]
    exact enclosed.knowsMethods member mem p is
  obtain ⟨n', dropped, released⟩ := dropInterface_released
    (by rwa [same, enclosed.size]) (by rw [object, enclosed.strings]) known names
  refine ⟨n', ?_, released⟩
  rw [← object] at facet
  have entries : (n.object o).isFunction = false := by
    rw [Object.isFunction, Object.function?, facet]
    rfl
  rw [switch_interface off.base entries off.flag facet, toList]
  simp only [Bool.false_eq_true, if_false]
  rw [Action.bind_ok dropped]
  rfl

variable (released : n.Released o members n')
include plain released

/-- The entries become the members that they come from. -/
theorem become_again : List.Forall₂
    (fun entry member => member.1 = entry.1 ∧ n'.Becomes entry.2 member.2)
    (n'.object o).strings.toList members := by
  have again {v v' : Value} {member : Member} (becomes : m.Becomes v member)
      (reverts : n.Reverts n' member v') : n'.Becomes v' member :=
    .again enclosed plain same released becomes reverts
  have become := enclosed.become
  have revert := released.revert
  generalize (m.object o).strings.toList = entries at become
  generalize (n'.object o).strings.toList = entries' at revert ⊢
  clear enclosed released
  induction become generalizing entries' with
  | nil =>
    cases revert
    exact .nil
  | cons become _ ih =>
    cases revert with
    | cons revert rest => exact .cons ⟨revert.1.symm, again become.2 revert.2⟩ (ih _ rest)

/-- The object is what it was, but for the values of its text entries. -/
theorem switched_back : n'.object o = { m.object o with strings := (n'.object o).strings } ∧
    (n'.object o).keys = (m.object o).keys := by
  have object : n.object o = m'.object o := Machine.object_of same o
  have rest : n'.object o = { m.object o with strings := (n'.object o).strings } := by
    refine released.rest.trans ?_
    rw [object, enclosed.rest, ← plain]
  refine ⟨rest, Object.keys_congr plain rest ?_⟩
  have texts : (n'.object o).strings.keys = members.map Prod.fst :=
    names_eq released.revert fun _ _ h => h.1
  rw [texts, enclosed.names]

/-- **An interface that is switched on again has the same members.** -/
theorem switch_again (backed : m.Backs o) (stored : k.objects = n'.objects)
    (on : Switching e args o true k) : ∃ k', setIsInterface e args k = .ok (.object o) k' ∧
      k.Enclosed o members (argument args 2).nonEmpty? k' := by
  have object : k.object o = n'.object o := Machine.object_of stored o
  have become : List.Forall₂ (fun entry member => member.1 = entry.1 ∧ k.Becomes entry.2 member.2)
      (k.object o).strings.toList members := by
    rw [object]
    exact (become_again plain enclosed same released).imp fun _ _ h => ⟨h.1, h.2.of_objects stored⟩
  have kept : k.Backs o := by
    have known : o.serial - 1 < m.objects.size := backed
    show o.serial - 1 < k.objects.size
    rw [← enclosed.size, ← same] at known
    rw [stored]
    exact Nat.lt_of_lt_of_le known released.grown.size
  have isPlain : (k.object o).facet = .plain := by
    rw [object, released.rest]
  rcases switch_on_cases kept on isPlain with
    ⟨members', k', switched, enclosed', -⟩ | ⟨f, -, entry, mem, not⟩
  · have unique : members' = members :=
      List.right_unique_forall₂'
        (fun _ _ _ h h' => Prod.ext (h.1.trans h'.1.symm) (h'.2.unique h.2)) enclosed'.become become
    exact ⟨k', switched, unique ▸ enclosed'⟩
  · obtain ⟨member, -, becomes⟩ := counterpart become entry mem
    exact absurd becomes (not member.2)

end
end

/-- **Turning an interface on and off loses nothing or does nothing.**  For a plain object,
switching on succeeds if every text entry is a function or an object with a getter or a setter, and
else changes nothing at all.  If it succeeds the members come from the entries, one for one.  To
switch off next gives the object as it was, with its keys in the same order, where methods have the
same values and accessors new objects with the same parts; and to switch on again gives the same
members.  For an interface, switching on changes at most its private binding. -/
theorem interface_on_and_off {m : Machine} {o : ObjectId} {e : Engine} {args : Array Value}
    (backed : m.Backs o) (on : Switching e args o true m) :
    ((m.object o).facet = .plain →
      ((∃ v m', setIsInterface e args m = .ok v m') ↔
        ∀ entry ∈ (m.object o).strings.toList, m.isFunction entry.2 = true ∨
          ∃ p, entry.2 = .object p ∧ ((m.part? p "get").isSome ∨ (m.part? p "set").isSome)) ∧
      (∀ f m', setIsInterface e args m = .error f m' → m' = m) ∧
      ∀ v m', setIsInterface e args m = .ok v m' → v = .object o ∧ ∃ members,
        m.Enclosed o members (argument args 2).nonEmpty? m' ∧
        (m'.object o).textKeys = (m.object o).textKeys ∧
        ∀ e₁ off n, n.objects = m'.objects → Switching e₁ off o false n → ∃ n',
          setIsInterface e₁ off n = .ok (.object o) n' ∧ n.Released o members n' ∧
          n'.object o = { m.object o with strings := (n'.object o).strings } ∧
          (n'.object o).keys = (m.object o).keys ∧
          ∀ e₂ again k, k.objects = n'.objects → Switching e₂ again o true k → ∃ k',
            setIsInterface e₂ again k = .ok (.object o) k' ∧
            k.Enclosed o members (argument again 2).nonEmpty? k') ∧
    ∀ members current, (m.object o).facet = .interface members current → ∃ m',
      setIsInterface e args m = .ok (.object o) m' ∧ m.Grown (· = o.serial - 1) m' ∧
      m'.objects.size = m.objects.size ∧
      m'.object o = { m.object o with
        facet := .interface members ((argument args 2).nonEmpty?.or current) } ∧
      ((argument args 2).nonEmpty? = none → m' = m) := by
  refine ⟨fun plain => ?_, fun members current => switch_on_interface backed on⟩
  rcases switch_on_cases backed on plain with
    ⟨members, m', switched, enclosed, all⟩ | ⟨f, failed, entry, mem, not⟩
  · refine ⟨⟨fun _ entry mem => Machine.becomes_iff.mp (all entry mem), fun _ => ⟨_, _, switched⟩⟩,
      fun f m₁ error => ?_, fun v m₁ ok => ?_⟩
    · cases switched.symm.trans error
    · cases switched.symm.trans ok
      refine ⟨rfl, members, enclosed, ?_, fun e₁ off n same switching => ?_⟩
      · exact enclosed.textKeys (by rw [Object.interface?, plain])
      · obtain ⟨n', dropped, released⟩ := switch_off enclosed same backed switching
        obtain ⟨rest, keys⟩ := switched_back plain enclosed same released
        exact ⟨n', dropped, released, rest, keys, fun e₂ again k stored switching' =>
          switch_again plain enclosed same released backed stored switching'⟩
  · refine ⟨⟨?_, fun able => ?_⟩, fun f m₁ error => ?_, fun v m₁ ok => ?_⟩
    · rintro ⟨v, m₁, ok⟩
      cases failed.symm.trans ok
    · obtain ⟨member, becomes⟩ := Machine.becomes_iff.mpr (able entry mem)
      exact absurd becomes (not member)
    · cases failed.symm.trans error
      rfl
    · cases failed.symm.trans ok

/-- A machine with a function, and an object that has it as getter and is itself one of its
accessors. -/
def selfish : Machine :=
  { Machine.initial .standard with
    objects := #[
      { Object.blank with
        strings := OrderedMap.ofList [("get", .object ⟨2⟩), ("self", .object ⟨1⟩)] },
      Object.ofType BuiltinType.function.id (.function (FunctionFacet.ofStub (.blank 1 0)))] }

/-- The object can be made an interface with two members, and has the same keys when it is none any
longer. -/
theorem interface_on_and_off_selfish :
    let e : Engine := ⟨0, fun _ => pure .empty⟩
    ∃ members m', setIsInterface e #[.object ⟨1⟩, .boolean true] selfish = .ok (.object ⟨1⟩) m' ∧
      selfish.Enclosed ⟨1⟩ members none m' ∧ (m'.object ⟨1⟩).textKeys = ["get", "self"] ∧
      ∃ n', setIsInterface e #[.object ⟨1⟩, .boolean false] m' = .ok (.object ⟨1⟩) n' ∧
        (n'.object ⟨1⟩).keys = [.string "get", .string "self"] := by
  intro e
  have stored : selfish.Backs (⟨1⟩ : ObjectId) := by
    show 0 < 2
    decide
  have entries : (selfish.object ⟨1⟩).strings.toList =
      [("get", .object ⟨2⟩), ("self", .object ⟨1⟩)] := OrderedMap.toList_ofList (by decide)
  have keys : (selfish.object ⟨1⟩).strings.keys = ["get", "self"] := by
    rw [OrderedMap.keys, entries]
    rfl
  have on : Switching e #[.object ⟨1⟩, .boolean true] ⟨1⟩ true selfish := ⟨rfl, rfl⟩
  obtain ⟨able, -, after⟩ := (interface_on_and_off stored on).1 rfl
  obtain ⟨v, m', switched⟩ := able.mpr fun entry mem => by
    rw [entries] at mem
    simp only [List.mem_cons, List.not_mem_nil, or_false] at mem
    rcases mem with rfl | rfl
    · exact .inl rfl
    · have getter : (selfish.object ⟨1⟩).text? "get" = some (.object ⟨2⟩) :=
        OrderedMap.mem_toList_iff.mp (entries ▸ List.mem_cons_self)
      refine .inr ⟨⟨1⟩, rfl, .inl ?_⟩
      rw [Machine.part?, getter]
      rfl
  obtain ⟨rfl, members, enclosed, texts, back⟩ := after v m' switched
  obtain ⟨n', dropped, -, -, same, -⟩ := back e #[.object ⟨1⟩, .boolean false] m' rfl ⟨rfl, rfl⟩
  refine ⟨members, m', switched, enclosed, texts.trans keys, n', dropped, same.trans ?_⟩
  show ((selfish.object ⟨1⟩).strings.keys.map Value.string ++ _ ++ _ ++ _ ++ _ : List Value) = _
  rw [keys]
  rfl

end Native

end StubMachine
