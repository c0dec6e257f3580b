import StubMachine.Native.Collection
import StubMachine.Native.Text
import StubMachine.Proofs.Evolution.Member

/-!
# Native functions on objects and texts evolve the store

-/

namespace StubMachine.Native

open StubMachine.Action Std.Do

set_option mvcgen.warning false

/-! ## Arguments -/

theorem backs_argument {m : Machine} {args : Array Value} (h : m.Backs args) (i : Nat) :
    m.Backs (argument args i) := by
  unfold argument
  rw [Array.getD_eq_getD_getElem?]
  cases at_ : args[i]? with
  | none => exact Machine.backs_empty
  | some v => exact h v (Array.mem_of_getElem? at_)

grind_pattern backs_argument => m.Backs args, argument args i

/-- The base of a function on objects may be any object that has entries. -/
theorem baseObject_ok {args : Array Value} {o : ObjectId} {m : Machine}
    (base : argument args 0 = .object o) (entries : (m.object o).isFunction = false) :
    baseObject args m = .ok o m := by
  have found : objectArgument args 0 "base" m = .ok o m := by
    rw [objectArgument, base]
    rfl
  have looked : objectAt o m = .ok (m.object o) m := rfl
  rw [baseObject, Action.bind_ok found, Action.bind_ok looked, entries]
  rfl

/-- A function has no members, so it is no base. -/
theorem baseObject_function {args : Array Value} {o : ObjectId} {m : Machine}
    (base : argument args 0 = .object o) (function : (m.object o).isFunction = true) :
    baseObject args m = .error (.plain .functionMembers) m := by
  have found : objectArgument args 0 "base" m = .ok o m := by
    rw [objectArgument, base]
    rfl
  have looked : objectAt o m = .ok (m.object o) m := rfl
  rw [baseObject, Action.bind_ok found, Action.bind_ok looked, function]
  rfl

theorem functionArgument_ok {args : Array Value} {i : Nat} {m : Machine}
    (callable : m.isFunction (argument args i) = true) (what : String) :
    functionArgument args i what m = .ok (argument args i) m := by
  have looked : isFunction (argument args i) m = .ok true m :=
    congrArg (EStateM.Result.ok · m) callable
  show (isFunction (argument args i) >>= _) m = _
  rw [Action.bind_ok looked]
  rfl

/-- What is done to a base is done to an object that is no function. -/
theorem bind_baseObject {β : Type} {args : Array Value} {o : ObjectId} {m m' : Machine}
    {k : ObjectId → Action β} {b : β} (base : argument args 0 = .object o)
    (ok : (baseObject args >>= k) m = .ok b m') :
    (m.object o).isFunction = false ∧ k o m = .ok b m' := by
  cases entries : (m.object o).isFunction with
  | false => exact ⟨rfl, by rwa [Action.bind_ok (baseObject_ok base entries)] at ok⟩
  | true =>
    rw [Action.bind_error (baseObject_function base entries)] at ok
    cases ok

/-! ## Members of interfaces -/

theorem backs_memberOf {m : Machine} (whole : m.Whole) (name : String) {v : Value} (h : m.Backs v) :
    m.Backs (memberOf m name v) := by
  rintro member eq
  unfold memberOf at eq
  split at eq
  · cases eq
    exact h
  · split at eq
    · rename_i pair _
      simp only at eq
      split at eq
      · cases eq
      · cases eq
        have part (name : String) : m.Backs (((m.object pair).text? name).bind Value.nonEmpty?) := by
          intro w found
          obtain ⟨u, at_, nonEmpty⟩ := Option.bind_eq_some_iff.mp found
          exact Machine.backs_nonEmpty? (Machine.backs_text (whole.object pair) name u at_) w nonEmpty
        exact ⟨part "get", part "set"⟩
    · cases eq

/-- What corresponds to each other and is called the same has the same names. -/
theorem names_eq {α β : Type} {R : String × α → String × β → Prop} {as : List (String × α)}
    {bs : List (String × β)} (all : List.Forall₂ R as bs) (same : ∀ a b, R a b → b.1 = a.1) :
    bs.map Prod.fst = as.map Prod.fst := by
  induction all with
  | nil => rfl
  | cons first _ ih => rw [List.map_cons, List.map_cons, same _ _ first, ih]

theorem membersOf_cons (m : Machine) (entry : String × Value) (entries : List (String × Value)) :
    membersOf m (entry :: entries) = do
      let member ← memberOf m entry.1 entry.2
      return (entry.1, member) :: (← membersOf m entries) := by
  simp [membersOf, List.mapM_cons]

/-- The members have the names of the entries, and each comes from one of them. -/
theorem membersOf_ok {m : Machine} {entries : List (String × Value)} {members : List (String × Member)}
    (made : membersOf m entries = .ok members) :
    List.Forall₂ (fun entry member => member.1 = entry.1 ∧ memberOf m entry.1 entry.2 = .ok member.2)
      entries members := by
  induction entries generalizing members with
  | nil =>
    cases made
    exact .nil
  | cons entry entries ih =>
    rw [membersOf_cons] at made
    cases first : memberOf m entry.1 entry.2 with
    | error f =>
      rw [first] at made
      cases made
    | ok member =>
      cases others : membersOf m entries with
      | error f =>
        rw [first, others] at made
        cases made
      | ok rest =>
        rw [first, others] at made
        cases made
        exact .cons ⟨rfl, first⟩ (ih others)

theorem backs_membersOf {m : Machine} (whole : m.Whole) {entries : List (String × Value)}
    {members : List (String × Member)} (made : membersOf m entries = .ok members)
    (h : m.Backs entries) : m.Backs members := by
  have all := membersOf_ok made
  clear made
  induction all with
  | nil => exact fun _ mem => nomatch mem
  | @cons entry member entries members made _ ih =>
    intro e mem
    rcases List.mem_cons.mp mem with rfl | mem
    · exact ⟨trivial, backs_memberOf whole _ (h entry List.mem_cons_self).2 _ made.2⟩
    · exact ih (fun a listed => h a (List.mem_cons_of_mem _ listed)) e mem

/-- Members are called what the entries were called. -/
theorem membersOf_names {m : Machine} {entries : List (String × Value)}
    {members : List (String × Member)} (made : membersOf m entries = .ok members) :
    members.map Prod.fst = entries.map Prod.fst :=
  names_eq (membersOf_ok made) fun _ _ h => h.1

/-- No entry is left besides the members. -/
theorem erased_members {m : Machine} {entries : OrderedMap String Value}
    {members : List (String × Member)} (made : membersOf m entries.toList = .ok members) :
    (members.foldl (fun left e => left.erase e.1) entries).toList = [] :=
  OrderedMap.erase_all (membersOf_names made)

section
variable [L : Latitude] {m₀ : Machine} {e : Engine} (engine : e.Sound) (args : Array Value)

@[spec] theorem objectArgument_sound (i : Nat) (what : String) :
    Sound m₀ (m₀.Backs args) (objectArgument args i what) := by
  apply Sound.intro
  mvcgen [objectArgument]
  all_goals grind

@[spec] theorem stringArgument_sound (i : Nat) (what : String) :
    Sound m₀ True (stringArgument args i what) := by
  apply Sound.intro
  mvcgen [stringArgument]
  all_goals grind

@[spec] theorem indexArgument_sound (i : Nat) (what : String) :
    Sound m₀ True (indexArgument args i what) := by
  apply Sound.intro
  mvcgen [indexArgument]
  all_goals grind

@[spec] theorem functionArgument_sound (i : Nat) (what : String) :
    Sound m₀ (m₀.Backs args) (functionArgument args i what) := by
  apply Sound.intro
  mvcgen [functionArgument]
  all_goals grind

/-- **The base is an object that is no function**, and nothing happens to the machine. -/
@[spec] theorem baseObject_spec :
    ⦃fun m => ⌜m = m₀ ∧ m.Whole ∧ m₀.Backs args⌝⦄
      (baseObject args : EStateM Failure Machine ObjectId)
    ⦃post⟨fun o m => ⌜m = m₀ ∧ m.Whole ∧ m.Backs o ∧ (m.object o).isFunction = false⌝,
      fun _ m => ⌜m₀.Evolves m ∧ m.Whole⌝⟩⦄ := by
  mvcgen [baseObject, objectArgument]
  all_goals grind

@[spec] theorem baseString_sound : Sound m₀ True (baseString args) := stringArgument_sound args 0 _

/-! ## Writing -/

@[spec] theorem push_sound : Sound m₀ (m₀.Backs args) (push args) := by
  apply Sound.intro
  mvcgen [push]
  all_goals grind [Object.push]

@[spec] theorem insert_sound : Sound m₀ (m₀.Backs args) (insert args) := by
  apply Sound.intro
  mvcgen [insert]
  all_goals grind

@[spec] theorem remove_sound : Sound m₀ (m₀.Backs args) (remove args) := by
  apply Sound.intro
  mvcgen [remove]
  all_goals grind

@[spec] theorem setAttributes_sound : Sound m₀ (m₀.Backs args) (setAttributes args) := by
  apply Sound.intro
  mvcgen [setAttributes]
  all_goals grind

@[spec] theorem setSize_sound : Sound m₀ (m₀.Backs args) (setSize args) := by
  apply Sound.intro
  mvcgen [setSize]
  all_goals grind [Object.resize]

/-! ## Sorting -/

/-- An ordering that can be asked about backed values, from some state on. -/
def Asks (m₀ : Machine) (order : Value → Value → Action Bool) : Prop :=
  ∀ a b m, m₀.Evolves m → m.Backs a → m.Backs b → Sound m True (order a b)

omit L in
theorem Asks.later [Latitude] {m : Machine} {order : Value → Value → Action Bool}
    (asks : Asks m₀ order) (evolved : m₀.Evolves m) : Asks m order :=
  fun a b m' evolved' => asks a b m' (evolved.trans evolved')

theorem mergeRuns_sound {order : Value → Value → Action Bool} (left right : List Value)
    (asks : Asks m₀ order) : Sound m₀ (m₀.Backs left ∧ m₀.Backs right) (mergeRuns order left right) := by
  fun_induction mergeRuns order left right generalizing m₀ with
  | case1 right =>
    apply Sound.intro
    mvcgen
    all_goals grind
  | case2 left =>
    apply Sound.intro
    mvcgen
    all_goals grind
  | case3 a left b right first second =>
    have asked (m : Machine) (evolved : m₀.Evolves m) (backed : m.Backs a ∧ m.Backs b) :
        Sound m True (order a b) := asks a b m evolved backed.1 backed.2
    have first' (m : Machine) (evolved : m₀.Evolves m) := first (asks.later evolved)
    have second' (m : Machine) (evolved : m₀.Evolves m) := second (asks.later evolved)
    apply Sound.intro
    mvcgen [asked, first', second']
    all_goals grind

theorem mergeSort_sound {order : Value → Value → Action Bool} (values : List Value)
    (asks : Asks m₀ order) : Sound m₀ (m₀.Backs values) (mergeSort order values) := by
  fun_induction mergeSort order values generalizing m₀ with
  | case1 values short =>
    apply Sound.intro
    mvcgen
    all_goals grind
  | case2 values long middle first =>
    rename_i second
    have first' (m : Machine) (evolved : m₀.Evolves m) := first (asks.later evolved)
    have second' (m : Machine) (evolved : m₀.Evolves m) := second (asks.later evolved)
    have merged (left right : List Value) (m : Machine) (evolved : m₀.Evolves m) :=
      mergeRuns_sound left right (asks.later evolved)
    apply Sound.intro
    mvcgen [first', second', merged]
    all_goals grind

include engine

theorem inOrder_sound (comparator a b : Value) :
    Sound m₀ (m₀.Backs comparator ∧ m₀.Backs a ∧ m₀.Backs b) (inOrder e comparator a b) := by
  apply Sound.intro
  mvcgen [inOrder]
  all_goals grind

@[spec] theorem sort_sound : Sound m₀ (m₀.Backs args) (sort e args) := by
  have sorted (comparator : Value) (values : List Value) (m : Machine)
      (backed : m.Backs comparator ∧ m.Backs values) :
      Sound m True (mergeSort (inOrder e comparator) values) := by
    refine (mergeSort_sound values fun a b m' evolved ha hb => ?_).of backed.2
    exact (inOrder_sound engine comparator a b).of ⟨backed.1.mono evolved, ha, hb⟩
  apply Sound.intro
  mvcgen [sort, sorted]
  all_goals grind

/-! ## Calling a function on the values -/

omit engine in
@[spec] theorem snapshot_sound (what : String) : Sound m₀ (m₀.Backs args) (snapshot args what) := by
  apply Sound.intro
  mvcgen [snapshot]
  all_goals grind

/-- Calling a function on a value, wherever the machine has evolved to since. -/
theorem applied_sound {function v : Value} {m m' : Machine} (backed : m.Backs function ∧ m.Backs v)
    (evolved : m.Evolves m') : Sound m' True (e.call function [("value", v)]) := by
  have given := backed.2.mono evolved
  refine (call_sound engine function _).of ⟨backed.1.mono evolved, ?_⟩
  grind

@[spec] theorem filter_sound : Sound m₀ (m₀.Backs args) (filter e args) := by
  have kept (by_ : Value) (values : List Value) (m : Machine)
      (backed : m.Backs by_ ∧ m.Backs values) :
      Sound m (m.Backs values)
        (values.filterM fun v => do asBoolean e (← e.call by_ [("value", v)])) := by
    refine filterM_sound fun v mem m' evolved => ?_
    exact (applied_sound engine ⟨backed.1, backed.2 v mem⟩ evolved).bind fun verdict _ _ =>
      asBoolean_sound engine verdict
  apply Sound.intro
  mvcgen [filter, kept]
  all_goals grind

@[spec] theorem map_sound : Sound m₀ (m₀.Backs args) (map e args) := by
  have mapped (function : Value) (values : List Value) (m : Machine)
      (backed : m.Backs function ∧ m.Backs values) :
      Sound m True (values.mapM fun v => e.call function [("value", v)]) := by
    exact mapM_sound fun v mem m' evolved =>
      applied_sound engine ⟨backed.1, backed.2 v mem⟩ evolved
  apply Sound.intro
  mvcgen [map, mapped]
  all_goals grind

@[spec 2000] theorem fold_sound (function : Value) (values : List Value) :
    Sound m₀ (m₀.Backs function ∧ m₀.Backs values) (values.foldlM
      (fun previous v => e.call function [("previous", previous), ("value", v)]) Value.empty) := by
  rw [sound_iff]
  intro whole backed
  refine sound_iff.mp (foldlM_sound (fun previous v mem m evolved => ?_) _) whole Machine.backs_empty
  have given := Machine.Backs.mono (backed.2 v mem) evolved
  have function := backed.1.mono evolved
  rw [sound_iff]
  intro whole folded
  exact sound_iff.mp (call_sound engine _ _) whole ⟨function, by grind⟩

@[spec] theorem reduce_sound : Sound m₀ (m₀.Backs args) (reduce e args) := by
  apply Sound.intro
  mvcgen [reduce]
  all_goals grind

@[spec] theorem search_sound (condition : Value) (wanted : Bool) (values : List Value) :
    Sound m₀ (m₀.Backs condition ∧ m₀.Backs values) (search e condition wanted values) := by
  induction values generalizing m₀ with
  | nil =>
    apply Sound.intro
    mvcgen [search]
    all_goals grind
  | cons v rest ih =>
    have others (m : Machine) :
        Sound m (m.Backs condition ∧ m.Backs rest) (search e condition wanted rest) := ih
    apply Sound.intro
    mvcgen [search, others]
    all_goals grind

@[spec] theorem any_sound : Sound m₀ (m₀.Backs args) (any e args) := by
  apply Sound.intro
  mvcgen [any]
  all_goals grind

@[spec] theorem all_sound : Sound m₀ (m₀.Backs args) (all e args) := by
  apply Sound.intro
  mvcgen [all]
  all_goals grind

/-- Calling a function on every entry. -/
@[spec 2000] theorem visits_sound (body : Value) (entries : List (Value × Value)) :
    Sound m₀ (m₀.Backs body ∧ m₀.Backs entries)
      (forIn entries PUnit.unit fun (key, value) _ => do
        let _ ← e.call body [("key", key), ("value", value)]
        pure (ForInStep.yield PUnit.unit)) := by
  rw [sound_iff]
  intro whole backed
  refine sound_iff.mp (forIn_sound fun entry mem m evolved => ?_) whole trivial
  have given := Machine.Backs.mono (backed.2 entry mem) evolved
  have function := backed.1.mono evolved
  exact ((call_sound engine _ _).of ⟨function, by grind⟩).bind fun _ _ _ =>
    (pure_sound _).assuming _

@[spec] theorem foreach_sound : Sound m₀ (m₀.Backs args) (foreach e args) := by
  apply Sound.intro
  mvcgen [foreach]
  all_goals grind

/-! ## Looking -/

omit engine in
@[spec] theorem findIndex_sound : Sound m₀ (m₀.Backs args) (findIndex args) := by
  apply Sound.intro
  mvcgen [findIndex]
  all_goals grind

omit engine in
@[spec] theorem subset_sound : Sound m₀ (m₀.Backs args) (subset args) := by
  apply Sound.intro
  mvcgen [subset]
  all_goals grind

/-! ## Interfaces -/

omit engine in
@[spec] theorem memberValue_spec (member : Member) :
    Fills m₀ (m₀.Backs member) (memberValue member) := by
  cases member with
  | method function =>
    apply Fills.intro
    mvcgen [memberValue]
    all_goals grind
  | accessor getter setter =>
    apply Fills.intro
    mvcgen [memberValue]
    all_goals grind

omit engine in
/-- Members turn back into entries of a map. -/
@[spec 2000] theorem restores_fills (o : ObjectId) (members : List (String × Member)) :
    Fills m₀ (m₀.Backs o ∧ (m₀.object o).facet = .plain ∧ m₀.Backs members)
      (forIn members PUnit.unit fun (name, member) _ => do
        let v ← memberValue member
        updateObject o (·.setText name v)
        pure (ForInStep.yield PUnit.unit)) := by
  have restored (entry : String × Member) (m : Machine) :
      Fills m (m.Backs o ∧ (m.object o).facet = .plain ∧ m.Backs entry) (do
        let v ← memberValue entry.2
        updateObject o (·.setText entry.1 v)
        pure (ForInStep.yield PUnit.unit)) := by
    apply Fills.intro
    mvcgen
    all_goals grind
  rw [fills_iff]
  intro whole ⟨backed, facet, refers⟩
  refine fills_iff.mp (forIn_fills fun entry mem m evolved plain => ?_) whole trivial
  exact (restored entry m).of ⟨backed.mono evolved, plain o backed facet,
    Machine.Backs.mono (refers entry mem) evolved⟩

omit engine in
@[spec] theorem dropInterface_sound (o : ObjectId) (members : List (String × Member)) :
    Sound m₀ (m₀.Backs o ∧ m₀.Backs members ∧
        ∃ bound binding, (m₀.object o).facet = .interface bound binding)
      (dropInterface o members) := by
  apply Sound.intro
  mvcgen [dropInterface]
  all_goals grind

omit engine in
@[spec] theorem raiseInterface_sound (o : ObjectId) (binding : Option Value) :
    Sound m₀ (m₀.Backs o ∧ m₀.Backs binding ∧ ((m₀.object o).facet = .plain ∨ L.meddles))
      (raiseInterface o binding) := by
  apply Sound.intro
  mvcgen [raiseInterface]
  all_goals grind [erased_members, backs_membersOf, Machine.backs_mapOfList,
    Machine.backs_mapEraseAll]

@[spec] theorem setIsInterface_sound : Sound m₀ (m₀.Backs args) (setIsInterface e args) := by
  apply Sound.intro
  mvcgen [setIsInterface]
  all_goals grind [Object.facet_cases]

end

end StubMachine.Native
