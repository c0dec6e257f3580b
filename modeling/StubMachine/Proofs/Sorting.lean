import StubMachine.Proofs.Evolution.Requests

/-!
# Sorting

The indices of an object are sorted by a comparator that may do anything: raise, answer
inconsistently, or change the very object that is being sorted.  **Nothing is lost and
nothing is doubled** (`sort_exact`): a sort that ends leaves the values that it found, in
some order, and one that breaks off has written nothing.  What the order is good for is up
to the comparator.  If it says what one total and transitive relation says, the values are
in ascending order and those that are alike stay in the order in which they were.

All that sorting does to the machine is what its comparisons do (`Compared`).  Of a merge it
is shown once that it is the merge of the two lists by the relation; what a merge does to
sorted lists is then a matter of lists (`merge_arranges`).
-/

namespace StubMachine.Native

open StubMachine.Action

/-! ## Comparing -/

section Comparing

variable (order : Value → Value → Action Bool) (elements : List Value)

/-- **Comparisons of elements**, one after the other, all of which end. -/
inductive Compared : Machine → Machine → Prop
  | refl (m : Machine) : Compared m m
  | step {a b : Value} {before : Bool} {m m₁ m' : Machine} : a ∈ elements → b ∈ elements →
    order a b m = .ok before m₁ → Compared m₁ m' → Compared m m'

/-- From this state on, every comparison of elements that ends says what the relation says. -/
def Steady (le : Value → Value → Bool) (m : Machine) : Prop :=
  ∀ m₁, Compared order elements m m₁ → ∀ a ∈ elements, ∀ b ∈ elements, ∀ before m₂,
    order a b m₁ = .ok before m₂ → before = le a b

/-- **An outcome of comparisons alone**: they end and the result is as described, or one of
them fails and everything fails with it. -/
inductive Comparison {α : Type} (m : Machine) (P : α → Prop) :
    EStateM.Result Failure Machine α → Prop
  | ends {result : α} {m' : Machine} : Compared order elements m m' → P result →
    Comparison m P (.ok result m')
  | fails {a b : Value} {m₁ m' : Machine} {failure : Failure} : Compared order elements m m₁ →
    a ∈ elements → b ∈ elements → order a b m₁ = .error failure m' →
    Comparison m P (.error failure m')

end Comparing

section Comparing

variable {order : Value → Value → Action Bool} {elements : List Value}
  {le : Value → Value → Bool} {m m₁ m' : Machine}

theorem Compared.trans (h : Compared order elements m m₁) (h' : Compared order elements m₁ m') :
    Compared order elements m m' := by
  induction h with
  | refl m => exact h'
  | step inside inside' ends _ ih => exact .step inside inside' ends (ih h')

theorem Steady.later (steady : Steady order elements le m) (h : Compared order elements m m₁) :
    Steady order elements le m₁ :=
  fun m₂ h' => steady m₂ (h.trans h')

namespace Comparison
variable {α β : Type} {P : α → Prop} {Q : β → Prop}

theorem pure {a : α} (holds : P a) : Comparison order elements m P ((Pure.pure a : Action α) m) :=
  .ends (.refl m) holds

/-- Comparisons that came before are comparisons, too. -/
theorem earlier {outcome : EStateM.Result Failure Machine α} (compared : Compared order elements m m₁)
    (h : Comparison order elements m₁ P outcome) : Comparison order elements m P outcome := by
  cases h with
  | ends compared' holds => exact .ends (compared.trans compared') holds
  | fails compared' inside inside' failed =>
    exact .fails (compared.trans compared') inside inside' failed

theorem bind {x : Action α} {k : α → Action β} (hx : Comparison order elements m P (x m))
    (hk : ∀ a m', Compared order elements m m' → P a → Comparison order elements m' Q (k a m')) :
    Comparison order elements m Q ((x >>= k) m) := by
  rw [Action.bind_eq]
  cases run : x m with
  | ok a m₁ =>
    rw [run] at hx
    cases hx with
    | ends compared holds =>
      exact (hk a m₁ compared holds).earlier compared
  | error failure m₁ =>
    rw [run] at hx
    cases hx with
    | fails compared inside inside' failed => exact .fails compared inside inside' failed

theorem mono {P' : α → Prop} {outcome : EStateM.Result Failure Machine α}
    (h : Comparison order elements m P outcome) (weaker : ∀ a, P a → P' a) :
    Comparison order elements m P' outcome := by
  cases h with
  | ends compared holds => exact .ends compared (weaker _ holds)
  | fails compared inside inside' failed => exact .fails compared inside inside' failed

/-- One comparison. -/
theorem one {a b : Value} (inside : a ∈ elements) (inside' : b ∈ elements) :
    Comparison order elements m
      (fun before => ∀ le, Steady order elements le m → before = le a b) (order a b m) := by
  cases run : order a b m with
  | ok before m₁ =>
    exact .ends (.step inside inside' run (.refl m₁))
      fun le steady => steady m (.refl m) a inside b inside' before m₁ run
  | error failure m₁ => exact .fails (.refl m) inside inside' run

end Comparison

/-! ## Merging -/

/-- **Merging compares, and merges.** -/
theorem mergeRuns_comparison {left right : List Value} (inLeft : left ⊆ elements)
    (inRight : right ⊆ elements) (m : Machine) :
    Comparison order elements m
      (fun merged => merged.Perm (left ++ right) ∧
        ∀ le, Steady order elements le m → merged = left.merge right le)
      (mergeRuns order left right m) := by
  induction left, right using mergeRuns.induct generalizing m with
  | case1 right =>
    rw [mergeRuns]
    exact .pure ⟨.refl _, fun le _ => (List.nil_merge right).symm⟩
  | case2 left nonempty =>
    rw [mergeRuns]
    · exact .pure ⟨by rw [List.append_nil], fun le _ => (List.merge_right left).symm⟩
    · exact nonempty
  | case3 a left b right first second =>
    rw [mergeRuns]
    refine Comparison.bind (.one (inLeft List.mem_cons_self) (inRight List.mem_cons_self))
      fun before m₁ compared agrees => ?_
    cases before with
    | true =>
      refine Comparison.bind (first (List.subset_of_cons_subset inLeft) inRight m₁)
        fun merged m₂ _ rest => .pure ⟨rest.1.cons a, fun le steady => ?_⟩
      rw [rest.2 le (steady.later compared), List.cons_merge_cons_pos le left right (agrees le steady).symm]
    | false =>
      refine Comparison.bind (second inLeft (List.subset_of_cons_subset inRight) m₁)
        fun merged m₂ _ rest => .pure ⟨?_, fun le steady => ?_⟩
      · exact (rest.1.cons b).trans List.perm_middle.symm
      · rw [rest.2 le (steady.later compared), List.cons_merge_cons_neg le left right]
        simp [← agrees le steady]

/-! ## Arranging -/

/-- **The relation is total and transitive on the elements.** -/
structure Orders (le : Value → Value → Bool) (elements : List Value) : Prop where
  total : ∀ a ∈ elements, ∀ b ∈ elements, le a b = true ∨ le b a = true
  trans : ∀ a ∈ elements, ∀ b ∈ elements, ∀ c ∈ elements,
    le a b = true → le b c = true → le a c = true

/-- Neither of two values comes before the other. -/
def alike (le : Value → Value → Bool) (a b : Value) : Bool := le a b && le b a

/-- **The values in ascending order**, with those that are alike to some element in the order in
which they were. -/
structure Arranges (le : Value → Value → Bool) (elements values sorted : List Value) : Prop where
  ascending : sorted.Pairwise fun a b => le a b = true
  stable : ∀ a ∈ elements, sorted.filter (alike le a) = values.filter (alike le a)

section Merge
variable (orders : Orders le elements)
include orders

theorem Orders.refl {a : Value} (inside : a ∈ elements) : le a a = true :=
  (orders.total a inside a inside).elim id id

/-- The merge of two ascending lists is ascending. -/
theorem merge_ascending {left right : List Value} (inLeft : left ⊆ elements)
    (inRight : right ⊆ elements) (sortedLeft : left.Pairwise fun a b => le a b = true)
    (sortedRight : right.Pairwise fun a b => le a b = true) :
    (left.merge right le).Pairwise fun a b => le a b = true := by
  -- one of two heads goes first, so one of the two lists gets shorter
  induction left generalizing right with
  | nil => rwa [List.nil_merge]
  | cons a left ihLeft =>
    induction right with
    | nil => rwa [List.merge_right]
    | cons b right ihRight =>
      obtain ⟨hereA, insideLeft⟩ := List.cons_subset.mp inLeft
      obtain ⟨hereB, insideRight⟩ := List.cons_subset.mp inRight
      obtain ⟨leastA, restLeft⟩ := List.pairwise_cons.mp sortedLeft
      obtain ⟨leastB, restRight⟩ := List.pairwise_cons.mp sortedRight
      by_cases before : le a b = true
      · rw [List.cons_merge_cons_pos le left right before]
        refine .cons (fun c merged => ?_) (ihLeft insideLeft inRight restLeft sortedRight)
        rcases List.mem_merge.mp merged with inside | inside
        · exact leastA c inside
        · rcases List.mem_cons.mp inside with rfl | later
          · exact before
          · exact orders.trans a hereA b hereB c (insideRight later) before (leastB c later)
      · have after : le b a = true := (orders.total a hereA b hereB).resolve_left before
        rw [List.cons_merge_cons_neg le left right before]
        refine .cons (fun c merged => ?_) (ihRight insideRight restRight)
        rcases List.mem_merge.mp merged with inside | inside
        · rcases List.mem_cons.mp inside with rfl | later
          · exact after
          · exact orders.trans b hereB a hereA c (insideLeft later) after (leastA c later)
        · exact leastB c inside

/-- Nothing in an ascending list is alike to a value before which its first does not come: what is
alike to that comes before it, and after the first. -/
theorem filter_alike_eq_nil {a b c : Value} {left : List Value} (inLeft : a :: left ⊆ elements)
    (least : ∀ d ∈ left, le a d = true) (hereB : b ∈ elements) (hereC : c ∈ elements)
    (same : alike le c b = true) (after : ¬ le a b = true) :
    (a :: left).filter (alike le c) = [] := by
  obtain ⟨le_cb, -⟩ : le c b = true ∧ le b c = true := by simpa [alike] using same
  refine List.filter_eq_nil_iff.mpr fun d inside same' => after ?_
  obtain ⟨-, le_dc⟩ : le c d = true ∧ le d c = true := by simpa [alike] using same'
  have hereA := inLeft List.mem_cons_self
  have hereD := inLeft inside
  have le_ad : le a d = true := by
    rcases List.mem_cons.mp inside with rfl | later
    · exact orders.refl hereA
    · exact least d later
  have le_db := orders.trans d hereD c hereC b hereB le_dc le_cb
  exact orders.trans a hereA d hereD b hereB le_ad le_db

/-- The merge of two ascending lists leaves what is alike in order, first list first. -/
theorem merge_filter_alike {left right : List Value} (inLeft : left ⊆ elements)
    (inRight : right ⊆ elements) (sortedLeft : left.Pairwise fun a b => le a b = true)
    {c : Value} (hereC : c ∈ elements) :
    (left.merge right le).filter (alike le c) =
      left.filter (alike le c) ++ right.filter (alike le c) := by
  induction left generalizing right with
  | nil => rw [List.nil_merge, List.filter_nil, List.nil_append]
  | cons a left ihLeft =>
    induction right with
    | nil => rw [List.merge_right, List.filter_nil, List.append_nil]
    | cons b right ihRight =>
      obtain ⟨hereA, insideLeft⟩ := List.cons_subset.mp inLeft
      obtain ⟨hereB, insideRight⟩ := List.cons_subset.mp inRight
      obtain ⟨leastA, restLeft⟩ := List.pairwise_cons.mp sortedLeft
      by_cases before : le a b = true
      · rw [List.cons_merge_cons_pos le left right before]
        have rest := ihLeft insideLeft inRight restLeft
        by_cases same : alike le c a = true
        · rw [List.filter_cons_of_pos same, List.filter_cons_of_pos same, rest]
          rfl
        · rw [List.filter_cons_of_neg same, List.filter_cons_of_neg same, rest]
      · rw [List.cons_merge_cons_neg le left right before]
        have rest := ihRight insideRight
        by_cases same : alike le c b = true
        · have none := filter_alike_eq_nil orders inLeft leastA hereB hereC same before
          rw [List.filter_cons_of_pos same, List.filter_cons_of_pos same, rest, none]
          rfl
        · rw [List.filter_cons_of_neg same, List.filter_cons_of_neg same, rest]

/-- **The merge of two arranged halves is arranged.** -/
theorem merge_arranges {first second left right : List Value}
    (inFirst : first ⊆ elements) (inSecond : second ⊆ elements) (permLeft : left.Perm first)
    (permRight : right.Perm second) (arrangedLeft : Arranges le elements first left)
    (arrangedRight : Arranges le elements second right) :
    Arranges le elements (first ++ second) (left.merge right le) := by
  have inLeft : left ⊆ elements := List.Subset.trans permLeft.subset inFirst
  have inRight : right ⊆ elements := List.Subset.trans permRight.subset inSecond
  refine ⟨merge_ascending orders inLeft inRight arrangedLeft.ascending arrangedRight.ascending,
    fun c here => ?_⟩
  rw [merge_filter_alike orders inLeft inRight arrangedLeft.ascending here,
    arrangedLeft.stable c here, arrangedRight.stable c here, List.filter_append]

end Merge

/-- **Sorting compares, and arranges.** -/
theorem mergeSort_comparison {values : List Value} (inside : values ⊆ elements) (m : Machine) :
    Comparison order elements m
      (fun sorted => sorted.Perm values ∧
        ∀ le, Orders le elements → Steady order elements le m → Arranges le elements values sorted)
      (mergeSort order values m) := by
  -- on the halves, and in the machine that sorting the first of them has left
  induction values using mergeSort.induct generalizing m with
  | case1 values short =>
    rw [mergeSort, dif_pos short]
    refine .pure ⟨.refl _, fun le _ _ => ⟨?_, fun _ _ => rfl⟩⟩
    rcases values with _ | ⟨a, _ | ⟨b, rest⟩⟩
    · exact .nil
    · exact List.pairwise_singleton _ a
    · exact absurd short (by simp)
  | case2 values long middle ihLeft ihRight =>
    have inFirst : values.take middle ⊆ elements := List.Subset.trans (List.take_subset _ _) inside
    have inSecond : values.drop middle ⊆ elements := List.Subset.trans (List.drop_subset _ _) inside
    rw [mergeSort, dif_neg long]
    refine Comparison.bind (ihLeft inFirst m) fun left m₁ compared first =>
      Comparison.bind (ihRight inSecond m₁) fun right m₂ compared' second => ?_
    obtain ⟨permLeft, arrangesLeft⟩ := first
    obtain ⟨permRight, arrangesRight⟩ := second
    have merged := @mergeRuns_comparison order _ _ _ (List.Subset.trans permLeft.subset inFirst)
      (List.Subset.trans permRight.subset inSecond) m₂
    refine merged.mono fun sorted made => ⟨?_, fun le orders steady => ?_⟩
    · calc sorted.Perm (left ++ right) := made.1
        _ |>.Perm (values.take middle ++ values.drop middle) := permLeft.append permRight
        _ = values := List.take_append_drop middle values
    · rw [made.2 le ((steady.later compared).later compared'),
        ← List.take_append_drop middle values]
      exact merge_arranges orders inFirst inSecond permLeft permRight
        (arrangesLeft le orders steady) (arrangesRight le orders (steady.later compared))

end Comparing

/-! ## Sorting an object -/

/-- **A comparison of two values fails**: either the call of the comparator does, or what it
answers cannot be taken for a number. -/
def Refuses (e : Engine) (comparator a b : Value) (m : Machine) (failure : Failure)
    (m' : Machine) : Prop :=
  e.call comparator [("a", a), ("b", b)] m = .error failure m' ∨
    ∃ verdict m₁, e.call comparator [("a", a), ("b", b)] m = .ok verdict m₁ ∧
      asNumber e verdict m₁ = .error failure m'

theorem inOrder_error {e : Engine} {comparator a b : Value} {m m' : Machine} {failure : Failure}
    (failed : inOrder e comparator a b m = .error failure m') :
    Refuses e comparator a b m failure m' := by
  cases called : e.call comparator [("a", a), ("b", b)] m with
  | error failure₁ m₁ =>
    rw [inOrder, Action.bind_error called] at failed
    cases failed
    exact .inl called
  | ok verdict m₁ =>
    rw [inOrder, Action.bind_ok called] at failed
    refine .inr ⟨verdict, m₁, called, ?_⟩
    cases converted : asNumber e verdict m₁ with
    | error failure₂ m₂ =>
      rw [Action.bind_error converted] at failed
      cases failed
      rfl
    | ok n m₂ =>
      rw [Action.bind_ok converted] at failed
      cases failed

/-- An object with entries is sorted by comparing, and then written once. -/
theorem sort_eq {e : Engine} {args : Array Value} {o : ObjectId} {m : Machine}
    (base : argument args 0 = .object o) (entries : (m.object o).isFunction = false)
    (callable : m.isFunction (argument args 1) = true) :
    sort e args m =
      (mergeSort (inOrder e (argument args 1)) (m.object o).indices.toList >>= fun sorted =>
        updateObject o (fun object => { object with indices := sorted.toArray }) >>= fun _ =>
          pure (.object o)) m := by
  rw [sort, Action.bind_ok (baseObject_ok base entries),
    Action.bind_ok (functionArgument_ok callable "comparator")]
  rfl

section
variable [Latitude] {e : Engine} (engine : e.Sound)
include engine

/-- Comparisons evolve the store. -/
theorem Compared.evolves {comparator : Value} {elements : List Value} {m m' : Machine}
    (h : Compared (inOrder e comparator) elements m m') (whole : m.Whole)
    (backed : m.Backs comparator) (listed : m.Backs elements) : m.Evolves m' ∧ m'.Whole := by
  induction h with
  | refl m => exact ⟨.refl m, whole⟩
  | @step a b before m m₁ m' inside inside' ends _ ih =>
    have sound := sound_iff.mp (inOrder_sound engine comparator a b) whole
      ⟨backed, listed a inside, listed b inside'⟩
    rw [ends] at sound
    obtain ⟨evolved, whole₁, -⟩ := sound
    obtain ⟨evolved', whole'⟩ := ih whole₁ (backed.mono evolved) (listed.mono evolved)
    exact ⟨evolved.trans evolved', whole'⟩

end

/-- **Sorting is exact.**  Either every comparison ends; then all that happens besides the
comparisons is that the indices are replaced by the same values in some order, and that order is
ascending and stable if the comparator follows a total and transitive relation.  Or a comparison
fails; then the sort fails with it, in the state in which the comparison has left the machine. -/
theorem sort_exact [Latitude] {host : Host} (hosted : host.Sound) (fuel : Nat) {m : Machine}
    (whole : m.Whole) {args : Array Value} (backed : m.Backs args) {o : ObjectId}
    (base : argument args 0 = .object o) (entries : (m.object o).isFunction = false)
    (callable : m.isFunction (argument args 1) = true) :
    let e := Engine.ofHost host fuel
    let order := inOrder e (argument args 1)
    let values := (m.object o).indices.toList
    (∃ sorted m₁ m', sort e args m = .ok (.object o) m' ∧ Compared order values m m₁ ∧
      m' = { m₁ with objects := m₁.objects.modify (o.serial - 1) fun object =>
        { object with indices := sorted.toArray } } ∧
      (m'.object o).indices = sorted.toArray ∧ sorted.Perm values ∧
      ∀ le, Orders le values → Steady order values le m → Arranges le values values sorted) ∨
    ∃ a ∈ values, ∃ b ∈ values, ∃ m₁ failure m', Compared order values m m₁ ∧
      Refuses e (argument args 1) a b m₁ failure m' ∧ sort e args m = .error failure m' := by
  intro e order values
  have engine : e.Sound := by
    rw [show e = Plan.idle.engine host fuel from
      (Plan.engine_truthful (Plan.idle_truthful host) fuel).symm]
    exact Plan.engine_sound Plan.idle_stops hosted fuel
  have stored : m.Backs o := by
    have given := backs_argument backed 0
    rwa [base] at given
  have listed : m.Backs values := fun v inside =>
    Machine.backs_indices (whole.object o) v (Array.mem_toList_iff.mp inside)
  rw [sort_eq base entries callable]
  have outcome := @mergeSort_comparison order _ _ (List.Subset.refl values) m
  cases run : mergeSort order values m with
  | error failure m' =>
    rw [run] at outcome
    cases outcome with
    | @fails a b m₁ _ _ compared inside inside' failed =>
      exact .inr ⟨a, inside, b, inside', m₁, failure, m', compared, inOrder_error failed,
        Action.bind_error run⟩
  | ok sorted m₁ =>
    rw [run] at outcome
    cases outcome with
    | ends compared arranged =>
      obtain ⟨evolved, -⟩ := compared.evolves engine whole (backs_argument backed 1) listed
      refine .inl ⟨sorted, m₁, _, Action.bind_ok run, compared, rfl, ?_, arranged.1, arranged.2⟩
      have kept : o.serial - 1 < m₁.objects.size := Nat.lt_of_lt_of_le stored evolved.size_le
      rw [Machine.object_modify, if_pos ⟨rfl, kept⟩]

/-- A machine with a list of two values and a function. -/
def sortable : Machine :=
  let listed : Machine := { Machine.initial .standard with
    objects := #[{ Object.blank with indices := #[.boolean true, .boolean false] }] }
  { listed with
    objects := listed.objects.push
      (Object.ofType BuiltinType.function.id (.function (FunctionFacet.ofStub (.blank 1 0)))) }

/-- Whatever its function answers, its list still holds the two values after it has been sorted, or
the function or its answer is to blame. -/
theorem sort_exact_sortable :
    let e := Engine.ofHost .complaining 3
    sortable.Whole ∧
      ((∃ m', sort e #[.object ⟨1⟩, .object ⟨2⟩] sortable = .ok (.object ⟨1⟩) m' ∧
        (m'.object ⟨1⟩).indices.toList.Perm [.boolean true, .boolean false]) ∨
      ∃ a b m₁ failure m', Refuses e (.object ⟨2⟩) a b m₁ failure m' ∧
        sort e #[.object ⟨1⟩, .object ⟨2⟩] sortable = .error failure m') := by
  intro e
  let _ : Latitude := .scripts
  have list : (Machine.initial .standard).Backs
      ({ Object.blank with indices := #[.boolean true, .boolean false] } : Object) :=
    Machine.backs_setIndices (Machine.initial_whole .standard).blank (by grind)
  obtain ⟨-, listed, -⟩ := (Machine.initial_whole .standard).added (.map rfl rfl rfl) list
  obtain ⟨-, whole, -⟩ := listed.added (.function (FunctionFacet.ofStub (.blank 1 0))) (by grind)
  have backed : sortable.Backs #[Value.object ⟨1⟩, .object ⟨2⟩] := by
    intro v mem
    simp only [List.mem_toArray, List.mem_cons, List.not_mem_nil, or_false] at mem
    rcases mem with rfl | rfl
    · show 0 < sortable.objects.size
      decide
    · show 1 < sortable.objects.size
      decide
  refine ⟨whole, ?_⟩
  rcases sort_exact Host.complaining_sound 3 whole backed rfl rfl rfl with
    ⟨sorted, m₁, m', ends, -, -, indices, perm, -⟩ | ⟨a, -, b, -, m₁, failure, m', -, refuses, fails⟩
  · exact .inl ⟨m', ends, by rw [indices]; exact perm⟩
  · exact .inr ⟨a, b, m₁, failure, m', refuses, fails⟩

end StubMachine.Native
