import StubMachine.Native.Catalog
import StubMachine.Proofs.Evolution.Native
import StubMachine.Proofs.InTurn
import StubMachine.Proofs.Sorting

/-!
# Functions called on the values of an object

Mapping, filtering, folding and searching an object call a function of the script, which may do
anything: change the object whose values it is called on, start the same over again, or fail.
**They go by the values that there were when they began** (`callbacks_see_snapshot`).  Each value
has one turn, in order, until a turn fails or a search has found what it looks for; what comes out
is made of the results of the turns.

The machine changes by the turns and by nothing else, but that a map and a filter make a new list at
the end.  So none of them writes to the object.
-/

namespace StubMachine.Native

open StubMachine.Action

/-! ## Turns -/

section Turns
variable (e : Engine) (f : Value)

/-- Call the function on a value. -/
def callOn (v : Value) : Action Value := e.call f [("value", v)]

/-- Call the function on what has been got so far and a value. -/
def callOnBoth (previous v : Value) : Action Value :=
  e.call f [("previous", previous), ("value", v)]

/-- Call the function on a value, and take what it returns for true or false. -/
def verdictOn (v : Value) : Action Bool := do asBoolean e (← callOn e f v)

/-- The values for which the verdict is true. -/
def chosen (values : List Value) (verdicts : List Bool) : List Value :=
  ((values.zip verdicts).filter Prod.snd).map Prod.fst

variable (values : List Value) (m : Machine)

/-- **How mapping ends**: with a new list of what the calls returned, or as the first call that
fails. -/
inductive Mapped : EStateM.Result Failure Machine Value → Prop
  | all {results : List Value} {m₁ : Machine} : InTurn (callOn e f) m values results m₁ →
    Mapped (.ok (.object ⟨m₁.objects.size + 1⟩) (m₁.withList results.toArray))
  | failed {failure : Failure} {m' : Machine} : BreaksOff (callOn e f) m values failure m' →
    Mapped (.error failure m')

/-- **How filtering ends**: with a new list of the values for which the verdict is true, or as the
first call or conversion that fails. -/
inductive Filtered : EStateM.Result Failure Machine Value → Prop
  | all {verdicts : List Bool} {m₁ : Machine} : InTurn (verdictOn e f) m values verdicts m₁ →
    Filtered (.ok (.object ⟨m₁.objects.size + 1⟩) (m₁.withList (chosen values verdicts).toArray))
  | failed {failure : Failure} {m' : Machine} : BreaksOff (verdictOn e f) m values failure m' →
    Filtered (.error failure m')

/-- **How folding ends**: with what the last call returned, each having been given what the one
before it returned, and the first one Empty; or as the first call that fails. -/
inductive Reduced : EStateM.Result Failure Machine Value → Prop
  | all {result : Value} {m' : Machine} : Folded (callOnBoth e f) m .empty values result m' →
    Reduced (.ok result m')
  | failed {failure : Failure} {m' : Machine} :
    FoldBreaksOff (callOnBoth e f) m .empty values failure m' → Reduced (.error failure m')

/-- **All of the values have had their turn, and none of them was wanted.** -/
def Unwanted (wanted : Bool) (before : List Value) (m₁ : Machine) : Prop :=
  InTurn (verdictOn e f) m before (List.replicate before.length (!wanted)) m₁

/-- **How a search ends**: with `hit` at the first value for which the verdict is the wanted one,
with `miss` after all values if there is none, or as the first call or conversion that fails.  Up to
that value, none was wanted, and those after it have no turn. -/
inductive Searched {α : Type} (wanted : Bool) (hit miss : α) :
    EStateM.Result Failure Machine α → Prop
  | found {before after : List Value} {v : Value} {m₁ m' : Machine} :
    values = before ++ v :: after → Unwanted e f m wanted before m₁ →
    verdictOn e f v m₁ = .ok wanted m' → Searched wanted hit miss (.ok hit m')
  | none {m' : Machine} : Unwanted e f m wanted values m' → Searched wanted hit miss (.ok miss m')
  | failed {before after : List Value} {v : Value} {m₁ m' : Machine} {failure : Failure} :
    values = before ++ v :: after → Unwanted e f m wanted before m₁ →
    verdictOn e f v m₁ = .error failure m' → Searched wanted hit miss (.error failure m')

end Turns

section
variable {e : Engine} {f : Value} {values : List Value} {m m' : Machine}

/-! ## Filtering and searching -/

theorem chosen_cons (v : Value) (values : List Value) (b : Bool) (verdicts : List Bool) :
    chosen (v :: values) (b :: verdicts) =
      if b then v :: chosen values verdicts else chosen values verdicts := by
  rw [chosen, List.zip_cons_cons, List.filter_cons]
  split
  · rfl
  · rfl

/-- Filtering asks about every value, and then chooses. -/
theorem filterM_eq (p : Value → Action Bool) (values : List Value) :
    values.filterM p = values.mapM p >>= fun verdicts => pure (chosen values verdicts) := by
  -- the library filters with an accumulator, so the induction is for every one of them
  have accumulated : ∀ kept, values.filterAuxM p kept =
      values.mapM p >>= fun verdicts => pure ((chosen values verdicts).reverse ++ kept) := by
    induction values with
    | nil => exact fun kept => rfl
    | cons v values ih =>
      intro kept
      rw [List.filterAuxM, List.mapM_cons, bind_assoc]
      refine bind_congr fun b => ?_
      rw [ih, bind_assoc]
      refine bind_congr fun verdicts => ?_
      rw [pure_bind, chosen_cons]
      cases b with
      | true => simp
      | false => rfl
  rw [List.filterM, accumulated, bind_assoc]
  refine bind_congr fun verdicts => ?_
  rw [pure_bind, List.append_nil, List.reverse_reverse]

/-- A search goes on with the rest of the values unless the verdict is the wanted one. -/
theorem search_cons (wanted : Bool) (v : Value) :
    search e f wanted (v :: values) =
      verdictOn e f v >>= fun b => if b = wanted then pure true else search e f wanted values := by
  rw [search, verdictOn, callOn, bind_assoc]
  refine bind_congr fun answer => bind_congr fun b => ?_
  by_cases same : b = wanted
  · rw [if_pos same, if_pos (beq_iff_eq.mpr same)]
  · rw [if_neg same, if_neg (mt beq_iff_eq.mp same)]

/-- A value that is not wanted comes before those that a search goes through. -/
theorem Searched.next {α : Type} {v : Value} {wanted : Bool} {hit miss : α} {m₁ : Machine}
    {outcome : EStateM.Result Failure Machine α} (first : verdictOn e f v m = .ok (!wanted) m₁)
    (h : Searched e f values m₁ wanted hit miss outcome) :
    Searched e f (v :: values) m wanted hit miss outcome := by
  cases h with
  | @found before after w m₂ m' same unwanted here =>
    have split : v :: values = (v :: before) ++ w :: after := by rw [same, List.cons_append]
    exact .found split (.next first unwanted) here
  | none unwanted => exact .none (.next first unwanted)
  | @failed before after w m₂ m' failure same unwanted failed =>
    have split : v :: values = (v :: before) ++ w :: after := by rw [same, List.cons_append]
    exact .failed split (.next first unwanted) failed

/-- **A search stops at the first value that is wanted.** -/
theorem search_searched (e : Engine) (f : Value) (wanted : Bool) (values : List Value) (m : Machine) :
    Searched e f values m wanted true false (search e f wanted values m) := by
  -- each value is asked in the machine that asking those before it has left
  induction values generalizing m with
  | nil => exact .none (.done m)
  | cons v values ih =>
    rw [search_cons]
    cases verdict : verdictOn e f v m with
    | error failure m' =>
      rw [Action.bind_error verdict]
      exact .failed (List.nil_append _).symm (.done m) verdict
    | ok b m₁ =>
      rw [Action.bind_ok verdict]
      by_cases same : b = wanted
      · rw [if_pos same]
        exact .found (List.nil_append _).symm (.done m) (same ▸ verdict)
      · rw [if_neg same]
        rw [Bool.eq_not_of_ne same] at verdict
        exact (ih m₁).next verdict

/-- What a search is asked for is made of what it finds. -/
theorem Searched.answer {α : Type} {wanted : Bool} {x : Action Bool} (answer : Bool → α)
    (h : Searched e f values m wanted true false (x m)) :
    Searched e f values m wanted (answer true) (answer false) ((x >>= fun b => pure (answer b)) m) := by
  cases run : x m with
  | ok b m' =>
    rw [Action.bind_ok run]
    rw [run] at h
    cases h with
    | found same unwanted here => exact .found same unwanted here
    | none unwanted => exact .none unwanted
  | error failure m' =>
    rw [Action.bind_error run]
    rw [run] at h
    cases h with
    | failed same unwanted failed => exact .failed same unwanted failed

end

/-! ## The functions -/

section
variable {e : Engine} {args : Array Value} {o : ObjectId} {m : Machine}
  (base : argument args 0 = .object o)
include base

/-- The values are taken down before anything is called. -/
theorem snapshot_ok (entries : (m.object o).isFunction = false)
    (callable : m.isFunction (argument args 1) = true) (what : String) :
    snapshot args what m = .ok ((m.object o).indices.toList, argument args 1) m := by
  rw [snapshot, Action.bind_ok (baseObject_ok base entries),
    Action.bind_ok (functionArgument_ok callable what)]
  rfl

theorem snapshot_function (function : (m.object o).isFunction = true) (what : String) :
    snapshot args what m = .error (.plain .functionMembers) m := by
  rw [snapshot, Action.bind_error (baseObject_function base function)]

section
variable (entries : (m.object o).isFunction = false)
  (callable : m.isFunction (argument args 1) = true)
include entries callable

theorem map_mapped : Mapped e (argument args 1) (m.object o).indices.toList m (map e args m) := by
  rw [map, Action.bind_ok (snapshot_ok base entries callable "to")]
  show Mapped _ _ _ _ ((List.mapM (callOn e (argument args 1)) _ >>= _) m)
  cases run : (m.object o).indices.toList.mapM (callOn e (argument args 1)) m with
  | ok results m₁ =>
    rw [Action.bind_ok run]
    exact .all (mapM_eq_ok_iff.mp run)
  | error failure m' =>
    rw [Action.bind_error run]
    exact .failed (mapM_eq_error_iff.mp run)

theorem filter_filtered :
    Filtered e (argument args 1) (m.object o).indices.toList m (filter e args m) := by
  rw [filter, Action.bind_ok (snapshot_ok base entries callable "by")]
  show Filtered _ _ _ _ ((List.filterM (verdictOn e (argument args 1)) _ >>= _) m)
  rw [filterM_eq, bind_assoc]
  cases run : (m.object o).indices.toList.mapM (verdictOn e (argument args 1)) m with
  | ok verdicts m₁ =>
    rw [Action.bind_ok run]
    exact .all (mapM_eq_ok_iff.mp run)
  | error failure m' =>
    rw [Action.bind_error run]
    exact .failed (mapM_eq_error_iff.mp run)

theorem reduce_reduced :
    Reduced e (argument args 1) (m.object o).indices.toList m (reduce e args m) := by
  rw [reduce, Action.bind_ok (snapshot_ok base entries callable "to")]
  show Reduced _ _ _ _ (List.foldlM (callOnBoth e (argument args 1)) _ _ m)
  cases run : (m.object o).indices.toList.foldlM (callOnBoth e (argument args 1)) .empty m with
  | ok result m' => exact .all (foldlM_eq_ok_iff.mp run)
  | error failure m' => exact .failed (foldlM_eq_error_iff.mp run)

theorem any_searched :
    Searched e (argument args 1) (m.object o).indices.toList m true (Value.boolean true)
      (.boolean false) (any e args m) := by
  rw [any, Action.bind_ok (snapshot_ok base entries callable "condition")]
  exact (search_searched e _ true _ m).answer Value.boolean

theorem all_searched :
    Searched e (argument args 1) (m.object o).indices.toList m false (Value.boolean false)
      (.boolean true) (all e args m) := by
  rw [all, Action.bind_ok (snapshot_ok base entries callable "condition")]
  exact (search_searched e _ false _ m).answer fun b => Value.boolean (!b)

end

end

/-- **Functions are called on the values that there were**, in order and once each.  Mapping,
filtering, folding and searching an object end as told of the values under its indices at the time
of the call, whatever the function does to the object meanwhile; and the new list that is made at
the end is an object of its own, which leaves every other as it is.  A function as the base has no
values and is refused. -/
theorem callbacks_see_snapshot (e : Engine) {args : Array Value} {o : ObjectId} {m : Machine}
    (base : argument args 0 = .object o) (callable : m.isFunction (argument args 1) = true) :
    ((m.object o).isFunction = false →
      let f := argument args 1
      let values := (m.object o).indices.toList
      Mapped e f values m (runQuery e args .map m) ∧
      Filtered e f values m (runQuery e args .filter m) ∧
      Reduced e f values m (runQuery e args .reduce m) ∧
      Searched e f values m true (Value.boolean true) (.boolean false) (runQuery e args .any m) ∧
      Searched e f values m false (Value.boolean false) (.boolean true) (runQuery e args .all m)) ∧
    (∀ (m₁ : Machine) (made : Array Value),
      (m₁.withList made).object ⟨m₁.objects.size + 1⟩ = { Object.blank with indices := made } ∧
        ∀ p, m₁.Backs p → (m₁.withList made).object p = m₁.object p) ∧
    ((m.object o).isFunction = true →
      ∀ q ∈ [Query.map, .filter, .reduce, .any, .all],
        runQuery e args q m = .error (.plain .functionMembers) m) := by
  refine ⟨fun entries => ⟨map_mapped base entries callable, filter_filtered base entries callable,
    reduce_reduced base entries callable, any_searched base entries callable,
    all_searched base entries callable⟩,
    fun m₁ made => ⟨m₁.withList_new made, fun p stored => m₁.withList_old made stored⟩,
    fun function q mem => ?_⟩
  have refused := snapshot_function base function
  simp only [List.mem_cons, List.not_mem_nil, or_false] at mem
  rcases mem with rfl | rfl | rfl | rfl | rfl
  · exact Action.bind_error (refused "to")
  · exact Action.bind_error (refused "by")
  · exact Action.bind_error (refused "to")
  · exact Action.bind_error (refused "condition")
  · exact Action.bind_error (refused "condition")

/-- Whatever is called empties the first object and returns true. -/
def emptying : Engine :=
  ⟨0, fun _ => do
    updateObject ⟨1⟩ (·.resize 0)
    return .boolean true⟩

/-- A function that empties a list of two values at its first call is called on both of them, and
the list stays empty. -/
theorem callbacks_see_snapshot_emptied :
    let args := #[Value.object ⟨1⟩, .object ⟨2⟩]
    argument args 0 = .object ⟨1⟩ ∧ sortable.isFunction (argument args 1) = true ∧
      ∃ m', map emptying args sortable = .ok (.object ⟨3⟩) m' ∧
        (m'.object ⟨3⟩).indices = #[.boolean true, .boolean true] ∧
        (m'.object ⟨1⟩).indices = #[] := by
  intro args
  refine ⟨rfl, rfl, ?_⟩
  have mapped := ((@callbacks_see_snapshot emptying args ⟨1⟩ sortable rfl rfl).1 rfl).1
  generalize ran : runQuery emptying args .map sortable = outcome at mapped
  have ran : map emptying args sortable = outcome := ran
  cases mapped with
  | failed broken =>
    obtain ⟨before, v, after, results, m₁, -, -, failed⟩ := broken
    cases failed
  | @all results m₁ turns =>
    have turns : InTurn (callOn emptying (.object ⟨2⟩)) sortable [.boolean true, .boolean false]
      results m₁ := turns
    cases turns with
    | next first turns =>
      cases first
      cases turns with
      | next second turns =>
        cases second
        cases turns
        exact ⟨_, ran, rfl, rfl⟩

end StubMachine.Native
