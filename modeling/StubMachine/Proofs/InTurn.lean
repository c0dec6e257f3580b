import StubMachine.Proofs.Calling

/-!
# One value after the other

Many operations do the same thing with each value of a list: convert it, write it, call a function
on it.  What that comes to does not depend on the thing that is done.  **Either it is done for all
values, each time in the state in which the last time ended, or it is done for those before some
value and fails for that one** (`mapM_eq_ok_iff`, `mapM_eq_error_iff`).  Nothing is done twice and
nothing in between, since each state leads to the next.

A fold also hands on what it has got so far (`Folded`).

What has been got is often put into a new list, which is what becomes of a machine at the end
(`Machine.withList`).
-/

namespace StubMachine

namespace Action
variable {α β : Type}

/-- What is put together fails in its first part or in what follows it. -/
theorem bind_eq_error {x : Action α} {k : α → Action β} {m m' : Machine} {failure : Failure} :
    (x >>= k) m = .error failure m' ↔
      x m = .error failure m' ∨ ∃ a m₁, x m = .ok a m₁ ∧ k a m₁ = .error failure m' := by
  rw [Action.bind_eq]
  cases run : x m with
  | ok a m₁ =>
    constructor
    · exact fun failed => .inr ⟨a, m₁, rfl, failed⟩
    · rintro (failed | ⟨a', m₂, same, failed⟩)
      · cases failed
      · cases same
        exact failed
  | error failure₁ m₁ =>
    constructor
    · intro failed
      cases failed
      exact .inl rfl
    · rintro (failed | ⟨a', m₂, same, -⟩)
      · cases failed
        rfl
      · cases same

/-! ## Doing the same for each value -/

/-- **Something is done for each value in turn**, with these results. -/
inductive InTurn (x : α → Action β) : Machine → List α → List β → Machine → Prop
  | done (m : Machine) : InTurn x m [] [] m
  | next {a : α} {b : β} {as : List α} {bs : List β} {m m₁ m' : Machine} : x a m = .ok b m₁ →
    InTurn x m₁ as bs m' → InTurn x m (a :: as) (b :: bs) m'

/-- **It fails for one of the values**, and nothing is done for those after it. -/
def BreaksOff (x : α → Action β) (m : Machine) (values : List α) (failure : Failure)
    (m' : Machine) : Prop :=
  ∃ before a after bs m₁, values = before ++ a :: after ∧ InTurn x m before bs m₁ ∧
    x a m₁ = .error failure m'

section
variable {x : α → Action β} {m m' : Machine} {as : List α} {bs : List β} {failure : Failure}

theorem InTurn.length (h : InTurn x m as bs m') : bs.length = as.length := by
  induction h with
  | done m => rfl
  | next _ _ ih => rw [List.length_cons, List.length_cons, ih]

/-- Every result is that of some turn. -/
theorem InTurn.exists_of_mem (h : InTurn x m as bs m') {b : β} (mem : b ∈ bs) :
    ∃ a ∈ as, ∃ m₁ m₂, x a m₁ = .ok b m₂ := by
  induction h with
  | done m => cases mem
  | next first _ ih =>
    rcases List.mem_cons.mp mem with rfl | later
    · exact ⟨_, List.mem_cons_self, _, _, first⟩
    · obtain ⟨a, mem, turn⟩ := ih later
      exact ⟨a, List.mem_cons_of_mem _ mem, turn⟩

theorem not_breaksOff_nil : ¬ BreaksOff x m [] failure m' := by
  rintro ⟨before, a, after, bs, m₁, none, -⟩
  exact List.append_ne_nil_of_right_ne_nil before (List.cons_ne_nil a after) none.symm

/-- It fails for the first value, or for one after it. -/
theorem breaksOff_cons {a : α} :
    BreaksOff x m (a :: as) failure m' ↔
      x a m = .error failure m' ∨ ∃ b m₁, x a m = .ok b m₁ ∧ BreaksOff x m₁ as failure m' := by
  constructor
  · rintro ⟨before, a', after, bs, m₁, same, inTurn, failed⟩
    cases before with
    | nil =>
      cases same
      cases inTurn
      exact .inl failed
    | cons a₁ before =>
      cases same
      cases inTurn with
      | next first others => exact .inr ⟨_, _, first, before, a', after, _, m₁, rfl, others, failed⟩
  · rintro (failed | ⟨b, m₁, first, before, a', after, bs, m₂, rfl, others, failed⟩)
    · exact ⟨[], a, as, [], m, rfl, .done m, failed⟩
    · exact ⟨a :: before, a', after, b :: bs, m₂, rfl, .next first others, failed⟩

/-- **A list is gone through to its end** precisely if every value has its turn. -/
theorem mapM_eq_ok_iff : as.mapM x m = .ok bs m' ↔ InTurn x m as bs m' := by
  induction as generalizing m bs with
  | nil =>
    constructor
    · intro ok
      cases ok
      exact .done _
    · intro h
      cases h
      rfl
  | cons a as ih =>
    rw [List.mapM_cons, Action.bind_eq_ok]
    constructor
    · rintro ⟨b, m₁, first, ok⟩
      obtain ⟨bs', m₂, others, ok⟩ := Action.bind_eq_ok.mp ok
      cases ok
      exact .next first (ih.mp others)
    · intro h
      cases h with
      | next first others => exact ⟨_, _, first, Action.bind_ok (ih.mpr others)⟩

/-- **Going through a list fails** precisely if it breaks off at some value. -/
theorem mapM_eq_error_iff : as.mapM x m = .error failure m' ↔ BreaksOff x m as failure m' := by
  induction as generalizing m with
  | nil => exact ⟨fun failed => (by cases failed), fun h => absurd h not_breaksOff_nil⟩
  | cons a as ih =>
    rw [List.mapM_cons, breaksOff_cons, bind_eq_error]
    refine or_congr_right (exists_congr fun b => exists_congr fun m₁ => and_congr_right fun _ => ?_)
    rw [bind_eq_error, ih]
    refine or_iff_left ?_
    rintro ⟨bs, m₂, -, failed⟩
    cases failed

end

/-! ## Handing on a result -/

/-- **Something is done for each value in turn with what has been got so far**, which starts as
`b` and ends as `b'`. -/
inductive Folded (x : β → α → Action β) : Machine → β → List α → β → Machine → Prop
  | done (m : Machine) (b : β) : Folded x m b [] b m
  | next {a : α} {b b₁ b' : β} {as : List α} {m m₁ m' : Machine} : x b a m = .ok b₁ m₁ →
    Folded x m₁ b₁ as b' m' → Folded x m b (a :: as) b' m'

/-- **It fails for one of the values**, with what has been got from those before it. -/
def FoldBreaksOff (x : β → α → Action β) (m : Machine) (b : β) (values : List α)
    (failure : Failure) (m' : Machine) : Prop :=
  ∃ before a after b₁ m₁, values = before ++ a :: after ∧ Folded x m b before b₁ m₁ ∧
    x b₁ a m₁ = .error failure m'

section
variable {x : β → α → Action β} {m m' : Machine} {as : List α} {b b' : β} {failure : Failure}

theorem foldlM_eq_ok_iff : as.foldlM x b m = .ok b' m' ↔ Folded x m b as b' m' := by
  induction as generalizing m b with
  | nil =>
    constructor
    · intro ok
      cases ok
      exact .done _ _
    · intro h
      cases h
      rfl
  | cons a as ih =>
    rw [List.foldlM_cons, Action.bind_eq_ok]
    constructor
    · rintro ⟨b₁, m₁, first, others⟩
      exact .next first (ih.mp others)
    · intro h
      cases h with
      | next first others => exact ⟨_, _, first, ih.mpr others⟩

theorem not_foldBreaksOff_nil : ¬ FoldBreaksOff x m b [] failure m' := by
  rintro ⟨before, a, after, b₁, m₁, none, -⟩
  exact List.append_ne_nil_of_right_ne_nil before (List.cons_ne_nil a after) none.symm

/-- It fails for the first value, or for one after it. -/
theorem foldBreaksOff_cons {a : α} :
    FoldBreaksOff x m b (a :: as) failure m' ↔
      x b a m = .error failure m' ∨
        ∃ b₁ m₁, x b a m = .ok b₁ m₁ ∧ FoldBreaksOff x m₁ b₁ as failure m' := by
  constructor
  · rintro ⟨before, a', after, b₂, m₂, same, folded, failed⟩
    cases before with
    | nil =>
      cases same
      cases folded
      exact .inl failed
    | cons a₁ before =>
      cases same
      cases folded with
      | next first others => exact .inr ⟨_, _, first, before, a', after, _, m₂, rfl, others, failed⟩
  · rintro (failed | ⟨b₁, m₁, first, before, a', after, b₂, m₂, rfl, others, failed⟩)
    · exact ⟨[], a, as, b, m, rfl, .done m b, failed⟩
    · exact ⟨a :: before, a', after, b₂, m₂, rfl, .next first others, failed⟩

theorem foldlM_eq_error_iff :
    as.foldlM x b m = .error failure m' ↔ FoldBreaksOff x m b as failure m' := by
  induction as generalizing m b with
  | nil => exact ⟨fun failed => (by cases failed), fun h => absurd h not_foldBreaksOff_nil⟩
  | cons a as ih =>
    rw [List.foldlM_cons, foldBreaksOff_cons, bind_eq_error]
    exact or_congr_right (exists_congr fun b₁ => exists_congr fun m₁ => and_congr_right fun _ => ih)

end

end Action

/-! ## New lists -/

/-- The state after a new list of values has been made. -/
def Machine.withList (m : Machine) (values : Array Value) : Machine :=
  { m with objects := m.objects.push { Object.blank with indices := values } }

section
variable (m : Machine) (values : Array Value)

/-- The list is a new object. -/
theorem Machine.withList_new :
    (m.withList values).object ⟨m.objects.size + 1⟩ = { Object.blank with indices := values } := by
  rw [withList, object_push, if_pos (Nat.add_sub_cancel _ _)]

/-- Making a list leaves the objects that there were. -/
theorem Machine.withList_old {o : ObjectId} (stored : o.serial - 1 < m.objects.size) :
    (m.withList values).object o = m.object o := by
  rw [withList, object_push, if_neg (Nat.ne_of_lt stored)]

end

end StubMachine
