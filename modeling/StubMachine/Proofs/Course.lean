import StubMachine.Proofs.FrameDiscipline

/-!
# Courses of a run

What happens in a machine happens in activities: a request is carried out, an instruction
is executed, a frame is about to start over.  They nest, and one follows on another.  To
tell what comes after what, some of them may be made to fail: a `Plan` says which
activities, in which states, fail in which way instead of being carried out.

A run under a plan follows a `Course`: either it ends, or an activity starts and the rest
depends on what the plan says about it.  So a course is a tree, and a plan picks a path
through it, along which it can be read which activities are started and in which order
(`Course.trace`), and how the run ends (`Course.outcome`).

In a course that is **final** a fatal failure ends everything: behind an activity that
fails fatally nothing is started any more, and the run ends with the same failure.
Between that activity and the end of the run only frames are left (`Machine.Left`).
**What can be continued without intercepting fatal failures has a final course if all its
parts have** (`Orderly.andThen`).
-/

namespace StubMachine

open StubMachine.Action

/-- How an action ends, and in which state. -/
abbrev Outcome (α : Type) := EStateM.Result Failure Machine α

/-- The state of an outcome. -/
def Outcome.state {α : Type} : Outcome α → Machine
  | .ok _ m => m
  | .error _ m => m

/-- The action came to an end of its own accord: with a result, or with a failure other than that
the fuel was exhausted. -/
def Outcome.Genuine {α : Type} : Outcome α → Prop
  | .ok _ _ => True
  | .error failure _ => failure ≠ .exhausted

/-! ## Activities and plans -/

/-- Something that is done in a machine, with the bound that is left. -/
inductive Activity
  | request (fuel : Nat) (request : Request)
  | instruction (fuel place : Nat) (instruction : Instruction)
  | startOver (fuel place : Nat)

/-- The start of an activity. -/
structure Moment where
  activity : Activity
  machine : Machine

/-- **A plan of failures**: which activities fail instead of being carried out, how, and in
which state. -/
def Plan := Moment → Option (Failure × Machine)

namespace Plan

/-- Everything is carried out. -/
def idle : Plan := fun _ => none

open Classical in
/-- Everything is carried out but what starts at a certain moment, which fails. -/
noncomputable def only (μ : Moment) (failure : Failure) (n : Machine) : Plan :=
  fun ν => if ν = μ then some (failure, n) else none

theorem only_self (μ : Moment) (failure : Failure) (n : Machine) :
    only μ failure n μ = some (failure, n) := if_pos rfl

theorem eq_of_only {μ ν : Moment} {failure : Failure} {n : Machine}
    {mishap : Failure × Machine} (h : only μ failure n ν = some mishap) :
    ν = μ ∧ mishap = (failure, n) := by
  rw [only] at h
  split at h
  · exact ⟨‹ν = μ›, (Option.some.inj h).symm⟩
  · cases h

/-- Start an activity, unless the plan has it fail. -/
def supervise {α : Type} (plan : Plan) (activity : Activity) (x : Action α) : Action α := fun m =>
  match plan ⟨activity, m⟩ with
  | some (failure, n) => .error failure n
  | none => x m

section Supervise
variable {α : Type} {plan : Plan} {activity : Activity} {x : Action α} {m : Machine}

theorem supervise_carriedOut (h : plan ⟨activity, m⟩ = none) :
    plan.supervise activity x m = x m := by
  simp only [supervise, h]

theorem supervise_fails {failure : Failure} {n : Machine}
    (h : plan ⟨activity, m⟩ = some (failure, n)) :
    plan.supervise activity x m = .error failure n := by
  simp only [supervise, h]

end Supervise

end Plan

/-! ## Courses -/

/-- **A course**: it ends, or an activity starts and the rest depends on its failing. -/
inductive Course (α : Type)
  | ends (outcome : Outcome α)
  | starts (μ : Moment) (rest : Option (Failure × Machine) → Course α)

namespace Course
variable {α β : Type}

/-- How a course ends under a plan. -/
def outcome (plan : Plan) : Course α → Outcome α
  | ends r => r
  | starts μ rest => (rest (plan μ)).outcome plan

/-- The activities that are started under a plan, in order. -/
def trace (plan : Plan) : Course α → List Moment
  | ends _ => []
  | starts μ rest => μ :: (rest (plan μ)).trace plan

/-- Go on where a course ends. -/
def andThen : Course α → (Outcome α → Course β) → Course β
  | ends r, k => k r
  | starts μ rest, k => .starts μ fun mishap => (rest mishap).andThen k

theorem outcome_andThen (course : Course α) (k : Outcome α → Course β) (plan : Plan) :
    (course.andThen k).outcome plan = (k (course.outcome plan)).outcome plan := by
  induction course with
  | ends r => rfl
  | starts μ rest ih => exact ih (plan μ)

/-- Plans that agree on what is started under one of them have the same outcome. -/
theorem outcome_congr {course : Course α} {plan plan' : Plan}
    (agree : ∀ μ ∈ course.trace plan, plan' μ = plan μ) :
    course.outcome plan' = course.outcome plan := by
  induction course with
  | ends r => rfl
  | starts μ rest ih =>
    have first : plan' μ = plan μ := agree μ List.mem_cons_self
    rw [outcome, outcome, first]
    exact ih (plan μ) fun ν later => agree ν (List.mem_cons_of_mem _ later)

/-- What is started when everything is carried out is also started if it alone is to fail. -/
theorem mem_trace_only {course : Course α} {μ : Moment} (failure : Failure) (n : Machine)
    (started : μ ∈ course.trace .idle) : μ ∈ course.trace (.only μ failure n) := by
  induction course with
  | ends r => cases started
  | starts ν rest ih =>
    by_cases now : ν = μ
    · rw [now]
      exact List.mem_cons_self
    · have carriedOut : Plan.only μ failure n ν = none := if_neg now
      rw [trace, carriedOut]
      rcases List.mem_cons.mp started with eq | later
      · exact absurd eq.symm now
      · exact List.mem_cons_of_mem _ (ih none later)

/-- An activity whose failing makes a difference is started. -/
theorem mem_trace_of_outcome_ne {course : Course α} {μ : Moment} {failure : Failure} {n : Machine}
    (ne : course.outcome (.only μ failure n) ≠ course.outcome .idle) : μ ∈ course.trace .idle := by
  apply Classical.byContradiction
  intro unstarted
  refine ne (outcome_congr fun ν started => ?_)
  refine if_neg fun eq => unstarted ?_
  rw [← eq]
  exact started

end Course

/-! ## Leaving -/

namespace Machine

/-- **Frames have only been left** between two states: some that were active are not any more,
calls are no longer counted as under way, and nothing may be pending; all else is the same. -/
structure Left (n m : Machine) : Prop where
  rest : m = { n with
    frames := m.frames, depth := m.depth, reentry := m.reentry, pending := m.pending }
  depth : m.depth ≤ n.depth
  reentry : m.reentry ≤ n.reentry
  pending : m.pending = n.pending ∨ m.pending = none
  frames : ∀ j, m.frame j = n.frame j ∨ m.depth ≤ j ∧ m.frame j = retire (n.frame j)

namespace Left
variable {n m m₁ : Machine}

theorem refl (n : Machine) : n.Left n :=
  ⟨rfl, Nat.le_refl _, Nat.le_refl _, .inl rfl, fun _ => .inl rfl⟩

theorem trans (h : n.Left m) (h' : m.Left m₁) : n.Left m₁ where
  rest := by rw [h'.rest, h.rest]
  depth := Nat.le_trans h'.depth h.depth
  reentry := Nat.le_trans h'.reentry h.reentry
  pending := by
    rcases h'.pending with same | gone
    · rw [same]
      exact h.pending
    · exact .inr gone
  frames j := by
    rcases h'.frames j with same' | ⟨inactive', retired'⟩
    · rw [same']
      rcases h.frames j with same | ⟨inactive, retired⟩
      · exact .inl same
      · exact .inr ⟨Nat.le_trans h'.depth inactive, retired⟩
    · rw [retired']
      rcases h.frames j with same | ⟨-, retired⟩
      · exact .inr ⟨inactive', by rw [same]⟩
      · exact .inr ⟨inactive', by rw [retired]; rfl⟩

theorem popFrame (n : Machine) : n.Left n.popFrame where
  rest := rfl
  depth := Nat.sub_le _ _
  reentry := Nat.le_refl _
  pending := .inl rfl
  frames j := by
    have frame := frame_modify n (n.depth - 1) j retire
    by_cases own : n.depth - 1 = j ∧ j < n.frames.size
    · rw [if_pos own] at frame
      exact .inr ⟨Nat.le_of_eq own.1, frame⟩
    · rw [if_neg own] at frame
      exact .inl frame

theorem uncounted (n : Machine) : n.Left { n with reentry := n.reentry - 1 } :=
  ⟨rfl, Nat.le_refl _, Nat.sub_le _ _, .inl rfl, fun _ => .inl rfl⟩

theorem quieted (n : Machine) : n.Left n.quieted :=
  ⟨rfl, Nat.le_refl _, Nat.le_refl _, .inr rfl, fun _ => .inl rfl⟩

end Left
end Machine

/-! ## Final courses -/

namespace Course
variable {α β : Type}

/-- **A course in which a fatal failure is final**: it comes to its end as soon as an activity
fails fatally. -/
inductive Final : Course α → Prop
  | ends (r : Outcome α) : Final (.ends r)
  | starts {μ : Moment} {rest : Option (Failure × Machine) → Course α} :
      (∀ mishap, Final (rest mishap)) →
      (∀ cause n, ∃ m, n.Left m ∧
        rest (some (.fatal cause, n)) = .ends (.error (.fatal cause) m)) →
      Final (.starts μ rest)

/-- A final course goes on as one, if fatal failures are handed on. -/
theorem Final.andThen {course : Course α} (h : course.Final) {k : Outcome α → Course β}
    (next : ∀ r, (k r).Final)
    (handsOn : ∀ cause n, ∃ m, n.Left m ∧
      k (.error (.fatal cause) n) = .ends (.error (.fatal cause) m)) :
    (course.andThen k).Final := by
  induction h with
  | ends r => exact next r
  | starts _ breaks ih =>
    refine .starts ih fun cause n => ?_
    obtain ⟨m, left, stops⟩ := breaks cause n
    obtain ⟨m₁, left', stops'⟩ := handsOn cause m
    refine ⟨m₁, left.trans left', ?_⟩
    rw [stops]
    exact stops'

/-- **The course breaks off at a moment**: nothing is started after it, and the outcome is the
fatal failure, in a state in which frames have only been left. -/
structure BreaksOff (course : Course α) (plan : Plan) (μ : Moment) (cause : FatalCause)
    (n : Machine) : Prop where
  last : ∃ before, course.trace plan = before ++ [μ] ∧ μ ∉ before
  outcome : ∃ m, n.Left m ∧ course.outcome plan = .error (.fatal cause) m

/-- **A final course breaks off where an activity fails fatally.** -/
theorem Final.breaksOff {course : Course α} (h : course.Final) {plan : Plan} {μ : Moment}
    {cause : FatalCause} {n : Machine} (started : μ ∈ course.trace plan)
    (fails : plan μ = some (.fatal cause, n)) : course.BreaksOff plan μ cause n := by
  induction h with
  | ends r => cases started
  | @starts ν rest _ breaks ih =>
    -- a course is final at each of its moments; the first that is this one decides
    by_cases now : ν = μ
    · obtain ⟨m, left, stops⟩ := breaks cause n
      have rest_eq : rest (plan ν) = .ends (.error (.fatal cause) m) := by rw [now, fails, stops]
      refine ⟨⟨[], ?_, List.not_mem_nil⟩, m, left, ?_⟩
      · rw [trace, rest_eq, now]
        rfl
      · rw [Course.outcome, rest_eq]
        rfl
    · have later : μ ∈ (rest (plan ν)).trace plan := by
        rcases List.mem_cons.mp started with eq | later
        · exact absurd eq.symm now
        · exact later
      obtain ⟨⟨before, split, fresh⟩, outcome⟩ := ih (plan ν) later
      refine ⟨⟨ν :: before, ?_, ?_⟩, outcome⟩
      · rw [trace, split]
        rfl
      · intro member
        rcases List.mem_cons.mp member with eq | earlier
        · exact now eq.symm
        · exact fresh earlier

/-- **Until it breaks off, a course is as it was**, if but one activity is made to fail. -/
theorem Final.trace_only_prefix {course : Course α} (h : course.Final) (μ : Moment)
    (cause : FatalCause) (n : Machine) :
    course.trace (.only μ (.fatal cause) n) <+: course.trace .idle := by
  induction h with
  | ends r => exact List.prefix_refl _
  | @starts ν rest _ breaks ih =>
    by_cases now : ν = μ
    · obtain ⟨m, -, stops⟩ := breaks cause n
      rw [trace, now, Plan.only_self, stops]
      exact (List.prefix_cons_inj μ).mpr List.nil_prefix
    · have carriedOut : Plan.only μ (.fatal cause) n ν = none := if_neg now
      rw [trace, carriedOut]
      exact (List.prefix_cons_inj ν).mpr (ih none)

end Course

/-! ## What follows a final course -/

/-- **An outcome, for every plan, that follows a final course.** -/
def Orderly {α : Type} (x : Plan → Outcome α) : Prop :=
  ∃ course : Course α, course.Final ∧ ∀ plan, x plan = course.outcome plan

namespace Orderly
variable {α β : Type}

theorem const (r : Outcome α) : Orderly fun _ => r := ⟨.ends r, .ends r, fun _ => rfl⟩

/-- **Going on with an outcome**, without intercepting fatal failures. -/
theorem andThen {x : Plan → Outcome α} (hx : Orderly x) {k : Plan → Outcome α → Outcome β}
    (next : ∀ r, Orderly fun plan => k plan r)
    (handsOn : ∀ cause n, ∃ m, n.Left m ∧
      ∀ plan, k plan (.error (.fatal cause) n) = .error (.fatal cause) m) :
    Orderly fun plan => k plan (x plan) := by
  -- How to go on depends on the outcome, so a course is chosen for each of them.
  have continued : ∀ r, ∃ course : Course β,
      (course.Final ∧ ∀ plan, k plan r = course.outcome plan) ∧
        ∀ cause n, r = .error (.fatal cause) n →
          ∃ m, n.Left m ∧ course = .ends (.error (.fatal cause) m) := by
    intro r
    by_cases fatal : ∃ cause n, r = .error (.fatal cause) n
    · obtain ⟨cause, n, rfl⟩ := fatal
      obtain ⟨m, left, stops⟩ := handsOn cause n
      refine ⟨.ends (.error (.fatal cause) m), ⟨.ends _, stops⟩, ?_⟩
      rintro _ _ ⟨⟩
      exact ⟨m, left, rfl⟩
    · obtain ⟨course, final, tells⟩ := next r
      exact ⟨course, ⟨final, tells⟩, fun cause n eq => absurd ⟨cause, n, eq⟩ fatal⟩
  obtain ⟨course, final, tells⟩ := hx
  refine ⟨course.andThen fun r => (continued r).choose, ?_, fun plan => ?_⟩
  · exact final.andThen (fun r => (continued r).choose_spec.1.1) fun cause n =>
      (continued _).choose_spec.2 cause n rfl
  · rw [course.outcome_andThen, ← tells]
    exact (continued (x plan)).choose_spec.1.2 plan

/-- **Starting an activity** that is orderly if it is carried out. -/
theorem supervise {x : Plan → Action α} {m : Machine} (activity : Activity)
    (hx : Orderly fun plan => x plan m) :
    Orderly fun plan => plan.supervise activity (x plan) m := by
  obtain ⟨course, final, tells⟩ := hx
  let rest : Option (Failure × Machine) → Course α
    | some (failure, n) => .ends (.error failure n)
    | none => course
  refine ⟨.starts ⟨activity, m⟩ rest, .starts ?_ fun cause n => ⟨n, .refl n, rfl⟩, fun plan => ?_⟩
  · intro mishap
    cases mishap with
    | none => exact final
    | some mishap => exact .ends _
  · show plan.supervise activity (x plan) m = (rest (plan ⟨activity, m⟩)).outcome plan
    cases planned : plan ⟨activity, m⟩ with
    | none => exact (Plan.supervise_carriedOut planned).trans (tells plan)
    | some mishap => exact Plan.supervise_fails planned

end Orderly

end StubMachine
