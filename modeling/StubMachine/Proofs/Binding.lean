import Mathlib.Data.List.Induction
import Mathlib.Data.List.Pairwise
import StubMachine.Proofs.PrivateBinding

/-!
# Binding is exact

The arguments of a call are bound one after the other, and each takes its parameter from
those that are still free.  **The outcome does not depend on that order**
(`binding_exact`).  Which parameter an argument is for is settled by its name and by
whether a base is supplied (`Stub.Resolves`); a call binds exactly if each argument is for
some parameter and no two are for the same one (`Stub.Places`); and each parameter then
holds what was supplied for it (`Stub.Receives`).  All three speak of the arguments only as
a collection, so they are the same for any order of them.

A vararg function takes everything.  Its new object holds the unnamed arguments in order
and each name with the value that was given last.
-/

namespace StubMachine

open StubMachine.Action

/-! ## The parameter of an argument -/

namespace Stub

/-- The first parameter with a name is at `i`. -/
def FirstNamed (s : Stub) (name : String) (i : Nat) : Prop :=
  s.parameters[i]? = some name ∧ ∀ j, j < i → s.parameters[j]? ≠ some name

/-- The parameter at `i` is one that callers may bind. -/
def Open (s : Stub) (i : Nat) : Prop :=
  ∃ name, s.parameters[i]? = some name ∧ name ≠ privateName

/-- **The argument with this name is for the parameter at `i`**, among these arguments. -/
inductive Resolves (s : Stub) (supplied : Arguments) : String → Nat → Prop
  | named {name : String} {i : Nat} : name ≠ "" → name ≠ privateName → s.FirstNamed name i →
      s.Resolves supplied name i
  /-- An unnamed argument is for the only parameter that there is. -/
  | sole {i : Nat} : s.Open i → (∀ j, s.Open j → j = i) → s.Resolves supplied "" i
  /-- Of two parameters an unnamed argument is for the one beside `base`, if there is a base. -/
  | beside {i j : Nat} {base : Value} : ("base", base) ∈ supplied → s.Open i → i ≠ j →
      (∀ k, s.Open k → k = i ∨ k = j) → s.FirstNamed "base" j → s.Resolves supplied "" i

/-- Two arguments are not for the same parameter. -/
def Apart (s : Stub) (supplied : Arguments) (a b : String × Value) : Prop :=
  ∀ i, s.Resolves supplied a.1 i → ¬ s.Resolves supplied b.1 i

/-- **Each argument has a parameter of its own.** -/
structure Places (s : Stub) (supplied : Arguments) : Prop where
  resolved : ∀ a ∈ supplied, ∃ i, s.Resolves supplied a.1 i
  apart : supplied.Pairwise (s.Apart supplied)

/-- **What the parameter at `i` holds** after these arguments and the private binding have
been bound. -/
inductive Receives (s : Stub) (supplied : Arguments) (binding : Option Value) (i : Nat) :
    Value → Prop
  | binding {v : Value} : binding = some v → s.FirstNamed privateName i →
      s.Receives supplied binding i v
  | argument {name : String} {v : Value} : (name, v) ∈ supplied →
      s.Resolves supplied name i → s.Receives supplied binding i v
  | nothing : (binding.isSome → ¬ s.FirstNamed privateName i) →
      (∀ a ∈ supplied, ¬ s.Resolves supplied a.1 i) → s.Receives supplied binding i .empty

/-! ### The look-up finds it -/

theorem parameterIndex?_eq_some_iff {s : Stub} {name : String} {i : Nat} :
    s.parameterIndex? name = some i ↔ s.FirstNamed name i := by
  rw [parameterIndex?, Array.idxOf?_eq_map_finIdxOf?_val, Option.map_eq_some_iff]
  constructor
  · rintro ⟨j, found, rfl⟩
    obtain ⟨here, before⟩ := Array.finIdxOf?_eq_some_iff.mp found
    refine ⟨by rw [Array.getElem?_eq_getElem j.isLt]; exact congrArg some here, fun k earlier => ?_⟩
    rw [Array.getElem?_eq_getElem (Nat.lt_trans earlier j.isLt)]
    exact fun same => before ⟨k, Nat.lt_trans earlier j.isLt⟩ earlier (Option.some.inj same)
  · rintro ⟨here, before⟩
    obtain ⟨inside, eq⟩ := Array.getElem?_eq_some_iff.mp here
    refine ⟨⟨i, inside⟩, Array.finIdxOf?_eq_some_iff.mpr ⟨eq, fun j earlier same => ?_⟩, rfl⟩
    exact before j earlier (by rw [Array.getElem?_eq_getElem j.isLt]; exact congrArg some same)

theorem FirstNamed.unique {s : Stub} {name : String} {i j : Nat} (first : s.FirstNamed name i)
    (again : s.FirstNamed name j) : i = j := by
  rw [← parameterIndex?_eq_some_iff] at first again
  exact Option.some.inj (first.symm.trans again)

theorem mem_bindable {s : Stub} {i : Nat} : i ∈ s.bindable ↔ s.Open i := by
  rw [bindable, List.mem_filter, List.mem_range, Open, arity]
  constructor
  · rintro ⟨inside, other⟩
    rw [Array.getElem?_eq_getElem inside] at other ⊢
    exact ⟨_, rfl, by simpa using other⟩
  · rintro ⟨name, here, other⟩
    refine ⟨(Array.getElem?_eq_some_iff.mp here).1, ?_⟩
    rw [here]
    simpa using other

theorem bindable_ascending (s : Stub) : s.bindable.Pairwise (· < ·) :=
  List.pairwise_lt_range.filter _

theorem bindable_lt {s : Stub} {a b : Nat} (two : s.bindable = [a, b]) : a < b := by
  have sorted := s.bindable_ascending
  rw [two] at sorted
  exact List.rel_of_pairwise_cons sorted (List.mem_singleton_self b)

/-- Whether a base is supplied is told by the arguments. -/
theorem any_base_iff (supplied : Arguments) :
    (supplied.any fun a => a.1 == "base") = true ↔ ∃ base, ("base", base) ∈ supplied := by
  simp [List.any_eq_true]

/-- The parameter `base` that counts is the first of that name. -/
theorem base_first_iff {s : Stub} {a b : Nat} (two : s.bindable = [a, b]) :
    (s.FirstNamed "base" a ↔ s.parameters[a]? = some "base") ∧
      (s.FirstNamed "base" b ↔ s.parameters[a]? ≠ some "base" ∧ s.parameters[b]? = some "base") := by
  have ascending := bindable_lt two
  have named {k : Nat} (base : s.parameters[k]? = some "base") : k = a ∨ k = b := by
    have listed : k ∈ s.bindable := mem_bindable.mpr ⟨"base", base, by decide⟩
    simpa [two] using listed
  constructor
  · refine ⟨fun first => first.1, fun here => ⟨here, fun k before base => ?_⟩⟩
    rcases named base with rfl | rfl
    · omega
    · omega
  · refine ⟨fun first => ⟨first.2 a ascending, first.1⟩, fun ⟨other, here⟩ => ⟨here, ?_⟩⟩
    intro k before base
    rcases named base with rfl | rfl
    · exact other base
    · omega

/-- What an unnamed argument is for, in terms of the list of open parameters. -/
theorem resolves_unnamed_iff {s : Stub} {supplied : Arguments} {i : Nat} :
    s.Resolves supplied "" i ↔ (i ∈ s.bindable ∧ ∀ j ∈ s.bindable, j = i) ∨
      ∃ j, (∃ base, ("base", base) ∈ supplied) ∧ i ∈ s.bindable ∧ i ≠ j ∧
        (∀ k ∈ s.bindable, k = i ∨ k = j) ∧ s.FirstNamed "base" j := by
  have listed : ∀ k, s.Open k ↔ k ∈ s.bindable := fun k => mem_bindable.symm
  simp only [← listed]
  constructor
  · intro resolves
    cases resolves with
    | named nonempty => exact absurd rfl nonempty
    | sole here only => exact .inl ⟨here, only⟩
    | beside given here apart two base => exact .inr ⟨_, ⟨_, given⟩, here, apart, two, base⟩
  · rintro (⟨here, only⟩ | ⟨j, ⟨base, given⟩, here, apart, two, first⟩)
    · exact .sole here only
    · exact .beside given here apart two first

/-- The only open parameter is that of an unnamed argument. -/
theorem resolves_sole_iff {s : Stub} {supplied : Arguments} {only i : Nat}
    (alone : s.bindable = [only]) : s.Resolves supplied "" i ↔ only = i := by
  rw [resolves_unnamed_iff]
  simp only [alone, List.mem_singleton]
  constructor
  · rintro (⟨rfl, -⟩ | ⟨j, -, rfl, -⟩)
    · rfl
    · rfl
  · rintro rfl
    exact .inl ⟨rfl, fun _ eq => eq⟩

/-- Of two open parameters an unnamed argument is for the one beside the base, if a base is
supplied. -/
theorem resolves_beside_iff {s : Stub} {supplied : Arguments} {a b i : Nat}
    (two : s.bindable = [a, b]) :
    s.Resolves supplied "" i ↔ (∃ base, ("base", base) ∈ supplied) ∧
      ((i = b ∧ s.FirstNamed "base" a) ∨ (i = a ∧ s.FirstNamed "base" b)) := by
  have ascending := bindable_lt two
  rw [resolves_unnamed_iff]
  simp only [two, List.mem_cons, List.not_mem_nil, or_false, forall_eq_or_imp, forall_eq]
  constructor
  · rintro (⟨-, rfl, same⟩ | ⟨j, given, rfl | rfl, apart, ⟨first, second⟩, base⟩)
    · omega
    · obtain rfl : b = j := by omega
      exact ⟨given, .inr ⟨rfl, base⟩⟩
    · obtain rfl : a = j := by omega
      exact ⟨given, .inl ⟨rfl, base⟩⟩
  · rintro ⟨given, ⟨rfl, base⟩ | ⟨rfl, base⟩⟩
    · exact .inr ⟨a, given, .inr rfl, by omega, by omega, base⟩
    · exact .inr ⟨b, given, .inl rfl, by omega, by omega, base⟩

/-- Unless one or two parameters are open, an unnamed argument is for none. -/
theorem not_resolves_unnamed {s : Stub} {supplied : Arguments} {i : Nat}
    (none : ∀ only, s.bindable ≠ [only]) (more : ∀ a b, s.bindable ≠ [a, b]) :
    ¬ s.Resolves supplied "" i := by
  rw [resolves_unnamed_iff]
  rcases open_ : s.bindable with _ | ⟨a, _ | ⟨b, _ | ⟨c, rest⟩⟩⟩
  · simp
  · exact absurd open_ (none a)
  · exact absurd open_ (more a b)
  · -- three open parameters are three different ones
    have sorted := s.bindable_ascending
    rw [open_] at sorted
    simp only [List.pairwise_cons, List.mem_cons, forall_eq_or_imp] at sorted
    simp only [List.mem_cons, forall_eq_or_imp]
    rintro (⟨-, here⟩ | ⟨j, -, -, -, here, -⟩)
    · omega
    · omega

/-- **An unnamed argument finds its parameter.** -/
theorem unnamedIndex?_eq_some_iff {s : Stub} {supplied : Arguments} {i : Nat} :
    s.unnamedIndex? (supplied.any fun a => a.1 == "base") = some i ↔
      s.Resolves supplied "" i := by
  rw [unnamedIndex?]
  split
  · next only alone => rw [resolves_sole_iff alone, Option.some.injEq]
  · next a b two =>
    obtain ⟨first_iff, second_iff⟩ := base_first_iff two
    rw [resolves_beside_iff two, ← any_base_iff, first_iff, second_iff]
    by_cases given : (supplied.any fun a => a.1 == "base") = true
    · rw [if_pos given]
      by_cases first : s.parameters[a]? = some "base"
      · simp [given, first, eq_comm]
      · by_cases second : s.parameters[b]? = some "base"
        · simp [given, first, second, eq_comm]
        · simp [first, second]
    · simp [given]
  · next none more => exact iff_of_false (by simp) (not_resolves_unnamed none more)

/-- **An argument finds its parameter.** -/
theorem targetIndex?_eq_some_iff {s : Stub} {supplied : Arguments} {name : String} {i : Nat} :
    s.targetIndex? (supplied.any fun a => a.1 == "base") name = some i ↔
      s.Resolves supplied name i := by
  rw [targetIndex?]
  by_cases unnamed : name = ""
  · subst unnamed
    exact unnamedIndex?_eq_some_iff
  · rw [if_neg (by simpa using unnamed)]
    by_cases isPrivate : name = privateName
    · rw [if_pos isPrivate]
      refine iff_of_false (by simp) fun resolves => ?_
      cases resolves with
      | named _ other => exact other isPrivate
      | sole => exact unnamed rfl
      | beside => exact unnamed rfl
    · rw [if_neg isPrivate, parameterIndex?_eq_some_iff]
      refine ⟨.named unnamed isPrivate, fun resolves => ?_⟩
      cases resolves with
      | named _ _ first => exact first
      | sole => exact absurd rfl unnamed
      | beside => exact absurd rfl unnamed

/-- An argument is for one parameter at most. -/
theorem Resolves.unique {s : Stub} {supplied : Arguments} {name : String} {i j : Nat}
    (resolves : s.Resolves supplied name i) (again : s.Resolves supplied name j) : i = j := by
  rw [← targetIndex?_eq_some_iff] at resolves again
  exact Option.some.inj (resolves.symm.trans again)

theorem Resolves.inside {s : Stub} {supplied : Arguments} {name : String} {i : Nat}
    (resolves : s.Resolves supplied name i) : i < s.arity := by
  have within {name : String} (here : s.parameters[i]? = some name) : i < s.arity :=
    (Array.getElem?_eq_some_iff.mp here).1
  cases resolves with
  | named _ _ first => exact within first.1
  | sole here => exact within here.choose_spec.1
  | beside _ here => exact within here.choose_spec.1

/-- No argument is for a parameter `$`. -/
theorem Resolves.not_private {s : Stub} {supplied : Arguments} {name : String} {i : Nat}
    (resolves : s.Resolves supplied name i) : ¬ s.FirstNamed privateName i :=
  fun first => targetIndex?_ne_private (targetIndex?_eq_some_iff.mpr resolves) first.1

/-! ### The order of the arguments does not matter -/

theorem Resolves.perm {s : Stub} {supplied supplied' : Arguments} {name : String} {i : Nat}
    (same : supplied.Perm supplied') (resolves : s.Resolves supplied name i) :
    s.Resolves supplied' name i := by
  cases resolves with
  | named nonempty other first => exact .named nonempty other first
  | sole here only => exact .sole here only
  | beside given here apart two base => exact .beside (same.mem_iff.mp given) here apart two base

instance Apart.symmetric (s : Stub) (supplied : Arguments) : Std.Symm (s.Apart supplied) where
  symm _ _ apart i first second := apart i second first

theorem Places.perm {s : Stub} {supplied supplied' : Arguments} (same : supplied.Perm supplied')
    (places : s.Places supplied) : s.Places supplied' where
  resolved a listed := by
    obtain ⟨i, resolves⟩ := places.resolved a (same.mem_iff.mpr listed)
    exact ⟨i, resolves.perm same⟩
  apart := by
    have apart := (same.pairwise_iff fun apart => symm_of _ apart).mp places.apart
    exact apart.imp fun apart i first second =>
      apart i (first.perm same.symm) (second.perm same.symm)

theorem Receives.perm {s : Stub} {supplied supplied' : Arguments} {binding : Option Value} {i : Nat}
    {v : Value} (same : supplied.Perm supplied') (receives : s.Receives supplied binding i v) :
    s.Receives supplied' binding i v := by
  cases receives with
  | binding given first => exact .binding given first
  | argument listed resolves => exact .argument (same.mem_iff.mp listed) (resolves.perm same)
  | nothing unbound unsupplied =>
    exact .nothing unbound fun a listed resolves =>
      unsupplied a (same.mem_iff.mpr listed) (resolves.perm same.symm)

/-- Of two arguments for one parameter, both are the same one. -/
theorem Places.argument_unique {s : Stub} {supplied : Arguments} (places : s.Places supplied)
    {a b : String × Value} {i : Nat} (first : a ∈ supplied) (second : b ∈ supplied)
    (resolves : s.Resolves supplied a.1 i) (again : s.Resolves supplied b.1 i) : a = b := by
  by_contra other
  exact places.apart.forall first second other i resolves again

/-- **A parameter holds one value.** -/
theorem Places.receives_unique {s : Stub} {supplied : Arguments} (places : s.Places supplied)
    {binding : Option Value} {i : Nat} {v w : Value} (receives : s.Receives supplied binding i v)
    (again : s.Receives supplied binding i w) : v = w := by
  cases receives with
  | binding given first =>
    cases again with
    | binding given' => exact Option.some.inj (given.symm.trans given')
    | argument _ resolves => exact absurd first resolves.not_private
    | nothing unbound => exact absurd first (unbound (by rw [given]; rfl))
  | argument listed resolves =>
    cases again with
    | binding _ first => exact absurd first resolves.not_private
    | argument listed' resolves' =>
      exact congrArg Prod.snd (places.argument_unique listed listed' resolves resolves')
    | nothing _ unsupplied => exact absurd resolves (unsupplied _ listed)
  | nothing unbound unsupplied =>
    cases again with
    | binding given first => exact absurd first (unbound (by rw [given]; rfl))
    | argument listed resolves => exact absurd resolves (unsupplied _ listed)
    | nothing => rfl

end Stub

/-! ## Binding one argument after the other -/

section Run

variable {s : Stub} {given : Bool}

/-- The parameters once these arguments have been bound: each has the value of the argument
that is for it. -/
def boundBy (s : Stub) (given : Bool) (done : Arguments) : Binding :=
  Array.ofFn fun i : Fin s.arity =>
    (done.find? fun a => s.targetIndex? given a.1 == some i.val).map Prod.snd

theorem boundBy_getElem? (s : Stub) (given : Bool) (done : Arguments) (i : Nat) :
    (boundBy s given done)[i]? =
      if i < s.arity then
        some ((done.find? fun a => s.targetIndex? given a.1 == some i).map Prod.snd)
      else none := by
  rw [boundBy, Array.getElem?_ofFn]
  split
  · rfl
  · rfl

theorem boundBy_nil (s : Stub) (given : Bool) :
    boundBy s given [] = Array.replicate s.arity none := by
  refine Array.ext_getElem? fun i => ?_
  rw [boundBy_getElem?, Array.getElem?_replicate]
  rfl

/-- One more argument fills the parameter that it is for. -/
theorem boundBy_append {done : Arguments} {argument : String × Value} {i : Nat}
    (target : s.targetIndex? given argument.1 = some i)
    (free : ∀ a ∈ done, s.targetIndex? given a.1 ≠ some i) :
    boundBy s given (done ++ [argument]) =
      (boundBy s given done).setIfInBounds i (some argument.2) := by
  refine Array.ext_getElem? fun j => ?_
  rw [Array.getElem?_setIfInBounds, boundBy_getElem?, boundBy_getElem?, List.find?_append,
    List.find?_singleton, target, boundBy, Array.size_ofFn]
  by_cases here : i = j
  · subst here
    have unfilled : (done.find? fun a => s.targetIndex? given a.1 == some i) = none :=
      List.find?_eq_none.mpr fun a listed => by simpa using free a listed
    rw [unfilled]
    by_cases inside : i < s.arity
    · simp [inside]
    · simp [inside]
  · simp [here]

/-- **One argument is bound exactly if it is for a parameter that is free.** -/
theorem bindOne_boundBy {done : Arguments} {argument : String × Value} {b : Binding}
    (within : ∀ {i}, s.targetIndex? given argument.1 = some i → i < s.arity) :
    bindOne s given (boundBy s given done) argument = .ok b ↔
      (∃ i, s.targetIndex? given argument.1 = some i ∧
        ∀ a ∈ done, s.targetIndex? given a.1 ≠ some i) ∧
      b = boundBy s given (done ++ [argument]) := by
  rw [bindOne]
  split
  · next target =>
    refine iff_of_false (by simp) ?_
    rintro ⟨⟨i, found, -⟩, -⟩
    cases target.symm.trans found
  · next i target =>
    simp only [target, Option.some.injEq, exists_eq_left', boundBy_getElem?, if_pos (within target)]
    split
    · next free =>
      have unfilled : ∀ a ∈ done, s.targetIndex? given a.1 ≠ some i := by
        have none := Option.map_eq_none_iff.mp (Option.some.inj free)
        intro a listed
        simpa using List.find?_eq_none.mp none a listed
      rw [boundBy_append target unfilled]
      refine ⟨fun ok => ⟨unfilled, (Except.ok.inj ok).symm⟩, ?_⟩
      rintro ⟨-, rfl⟩
      rfl
    · next filled =>
      refine iff_of_false (by simp) ?_
      rintro ⟨unfilled, -⟩
      refine filled (congrArg some (Option.map_eq_none_iff.mpr (List.find?_eq_none.mpr ?_)))
      intro a listed
      simpa using unfilled a listed

/-- The last argument is bound after all others are. -/
theorem foldlM_concat_eq_ok {bind : Binding → String × Value → Except String Binding}
    {b₀ b : Binding} {done : Arguments} {argument : String × Value} :
    (done ++ [argument]).foldlM bind b₀ = .ok b ↔
      ∃ b', done.foldlM bind b₀ = .ok b' ∧ bind b' argument = .ok b := by
  rw [List.foldlM_append]
  cases done.foldlM bind b₀ with
  | error name => exact iff_of_false nofun nofun
  | ok b' =>
    have one : ([argument] : Arguments).foldlM bind b' = bind b' argument := by simp
    show ([argument] : Arguments).foldlM bind b' = .ok b ↔ _
    simp [one]

/-- **All arguments are bound exactly if each is for a parameter and no two for the same.** -/
theorem foldlM_bindOne {supplied : Arguments} {b : Binding}
    (within : ∀ {name i}, s.targetIndex? given name = some i → i < s.arity) :
    supplied.foldlM (bindOne s given) (Array.replicate s.arity none) = .ok b ↔
      ((∀ a ∈ supplied, ∃ i, s.targetIndex? given a.1 = some i) ∧
        supplied.Pairwise fun a c =>
          ∀ i, s.targetIndex? given a.1 = some i → s.targetIndex? given c.1 ≠ some i) ∧
      b = boundBy s given supplied := by
  induction supplied using List.reverseRecOn generalizing b with
  | nil =>
    rw [boundBy_nil]
    exact ⟨fun ok => ⟨⟨nofun, .nil⟩, (Except.ok.inj ok).symm⟩, fun ⟨_, eq⟩ => congrArg _ eq.symm⟩
  | append_singleton done argument ih =>
    rw [foldlM_concat_eq_ok]
    constructor
    · rintro ⟨b', ran, one⟩
      obtain ⟨⟨resolved, apart⟩, rfl⟩ := ih.mp ran
      obtain ⟨⟨i, target, free⟩, rfl⟩ := (bindOne_boundBy within).mp one
      refine ⟨⟨fun a listed => ?_, List.pairwise_append.mpr ⟨apart, List.pairwise_singleton _ _, ?_⟩⟩,
        rfl⟩
      · rcases List.mem_append.mp listed with before | last
        · exact resolved a before
        · exact ⟨i, (List.mem_singleton.mp last) ▸ target⟩
      · intro a before c last j found found'
        obtain rfl := List.mem_singleton.mp last
        obtain rfl := Option.some.inj (target.symm.trans found')
        exact free a before found
    · rintro ⟨⟨resolved, apart⟩, rfl⟩
      obtain ⟨apart, -, across⟩ := List.pairwise_append.mp apart
      refine ⟨_, ih.mpr ⟨⟨fun a listed => resolved a (List.mem_append_left _ listed), apart⟩, rfl⟩,
        (bindOne_boundBy within).mpr ⟨?_, rfl⟩⟩
      obtain ⟨i, target⟩ := resolved argument (List.mem_append_right _ (List.mem_singleton_self _))
      exact ⟨i, target, fun a listed found =>
        across a listed argument (List.mem_singleton_self _) i found target⟩

end Run

/-- **Arguments bind exactly if each has a parameter of its own.** -/
theorem bindNamed_iff {s : Stub} {supplied : Arguments} {parameters : Array Value} :
    bindNamed s supplied = .ok parameters ↔
      s.Places supplied ∧
        parameters = (boundBy s (supplied.any fun a => a.1 == "base") supplied).map
          Value.ofOption := by
  have within {name : String} {i : Nat}
      (target : s.targetIndex? (supplied.any fun a => a.1 == "base") name = some i) :
      i < s.arity := (Stub.targetIndex?_eq_some_iff.mp target).inside
  have places_iff : s.Places supplied ↔
      (∀ a ∈ supplied, ∃ i,
        s.targetIndex? (supplied.any fun a => a.1 == "base") a.1 = some i) ∧
      supplied.Pairwise fun a c => ∀ i,
        s.targetIndex? (supplied.any fun a => a.1 == "base") a.1 = some i →
          s.targetIndex? (supplied.any fun a => a.1 == "base") c.1 ≠ some i := by
    simp only [ne_eq, Stub.targetIndex?_eq_some_iff]
    exact ⟨fun places => ⟨places.resolved, places.apart⟩, fun fits => ⟨fits.1, fits.2⟩⟩
  rw [places_iff, bindNamed]
  cases ran : supplied.foldlM (bindOne s (supplied.any fun a => a.1 == "base"))
      (Array.replicate s.arity none) with
  | error name =>
    refine iff_of_false (fun ok => by cases ok) fun held => ?_
    cases ran.symm.trans ((foldlM_bindOne within).mpr ⟨held.1, rfl⟩)
  | ok b =>
    obtain ⟨fits, rfl⟩ := (foldlM_bindOne within).mp ran
    exact ⟨fun ok => ⟨fits, (Except.ok.inj ok).symm⟩, fun held => congrArg _ held.2.symm⟩

/-- **Each parameter holds what it receives.** -/
theorem bindPrivate_receives {s : Stub} {supplied : Arguments} (binding : Option Value)
    {parameters : Array Value} (named : bindNamed s supplied = .ok parameters) {i : Nat}
    (inside : i < s.arity) :
    ∃ v, (bindPrivate s binding parameters)[i]? = some v ∧ s.Receives supplied binding i v := by
  obtain ⟨-, rfl⟩ := bindNamed_iff.mp named
  have held : ((boundBy s (supplied.any fun a => a.1 == "base") supplied).map Value.ofOption)[i]? =
      some (Value.ofOption ((supplied.find? fun a =>
        s.targetIndex? (supplied.any fun a => a.1 == "base") a.1 == some i).map Prod.snd)) := by
    rw [Array.getElem?_map, boundBy_getElem?, if_pos inside]
    rfl
  rw [bindPrivate_getElem? _ _ (by simpa [boundBy] using inside), held]
  split
  · next found =>
    have first := Stub.parameterIndex?_eq_some_iff.mp found
    cases binding with
    | some v => exact ⟨v, rfl, .binding rfl first⟩
    | none =>
      -- No argument is for `$`, so it holds nothing.
      have unsupplied : ∀ a ∈ supplied, ¬ s.Resolves supplied a.1 i :=
        fun a _ resolves => resolves.not_private first
      refine ⟨.empty, ?_, .nothing nofun unsupplied⟩
      have none : (supplied.find? fun a =>
          s.targetIndex? (supplied.any fun a => a.1 == "base") a.1 == some i) = none :=
        List.find?_eq_none.mpr fun a listed => by
          simpa [Stub.targetIndex?_eq_some_iff] using unsupplied a listed
      rw [none]
      rfl
  · next other =>
    rw [Stub.parameterIndex?_eq_some_iff] at other
    cases found : supplied.find? fun a =>
        s.targetIndex? (supplied.any fun a => a.1 == "base") a.1 == some i with
    | none =>
      refine ⟨.empty, rfl, .nothing (fun _ => other) fun a listed resolves => ?_⟩
      have missed := List.find?_eq_none.mp found a listed
      simp [Stub.targetIndex?_eq_some_iff.mpr resolves] at missed
    | some a =>
      have target := List.find?_some found
      exact ⟨a.2, rfl, .argument (List.mem_of_find?_eq_some found)
        (Stub.targetIndex?_eq_some_iff.mp (by simpa using target))⟩

/-! ## The object of a vararg function -/

/-- **The object holds what these arguments are**: the unnamed ones in order, under indices,
and of each name the value that was given last, in the order in which the names came first.
It has no other entries and is a plain object. -/
structure Collects (supplied : Arguments) (bag : Object) : Prop where
  unnamed : bag.indices.toList = (supplied.filter fun a => a.1 = "").map Prod.snd
  names : bag.strings.keys = ((supplied.filter fun a => a.1 ≠ "").map Prod.fst).eraseDups
  last : ∀ name v, bag.strings.get? name = some v ↔ name ≠ "" ∧ ∃ earlier later,
    supplied = earlier ++ (name, v) :: later ∧ ∀ a ∈ later, a.1 ≠ name
  plain : bag = { Object.blank with indices := bag.indices, strings := bag.strings }

/-- One more argument is the last of its name. -/
theorem last_append_iff {supplied : Arguments} {argument : String × Value} {name : String}
    {v : Value} :
    (∃ earlier later, supplied ++ [argument] = earlier ++ (name, v) :: later ∧
        ∀ a ∈ later, a.1 ≠ name) ↔
      if argument.1 = name then argument.2 = v
      else ∃ earlier later, supplied = earlier ++ (name, v) :: later ∧ ∀ a ∈ later, a.1 ≠ name := by
  constructor
  · rintro ⟨earlier, later, eq, unnamed⟩
    cases later using List.reverseRecOn with
    | nil =>
      cases (List.append_inj' eq rfl).2
      rw [if_pos rfl]
    | append_singleton later last =>
      rw [← List.cons_append, ← List.append_assoc] at eq
      obtain ⟨rfl, one⟩ := List.append_inj' eq rfl
      cases one
      rw [if_neg (unnamed _ (List.mem_append_right _ (List.mem_singleton_self _)))]
      exact ⟨earlier, later, rfl, fun a listed => unnamed a (List.mem_append_left _ listed)⟩
  · split
    · next same =>
      rintro rfl
      exact ⟨supplied, [], by rw [← same], nofun⟩
    · next other =>
      rintro ⟨earlier, later, rfl, unnamed⟩
      refine ⟨earlier, later ++ [argument], by simp, fun a listed => ?_⟩
      rcases List.mem_append.mp listed with before | last
      · exact unnamed a before
      · exact (List.mem_singleton.mp last) ▸ other

/-- A name that came before keeps its place. -/
theorem eraseDups_append_singleton (names : List String) (name : String) :
    (names ++ [name]).eraseDups =
      if name ∈ names.eraseDups then names.eraseDups else names.eraseDups ++ [name] := by
  rw [List.eraseDups_append, List.removeAll]
  by_cases known : name ∈ names
  · rw [if_pos (List.mem_eraseDups.mpr known), List.filter_cons_of_neg (by simpa using known)]
    exact List.append_nil _
  · rw [if_neg (mt List.mem_eraseDups.mp known), List.filter_cons_of_pos (by simpa using known)]
    rfl

namespace Collects
variable {supplied : Arguments} {bag : Object} (h : Collects supplied bag)
include h

/-- A further argument without a name is the last index. -/
theorem push (v : Value) : Collects (supplied ++ [("", v)]) (bag.push v) := by
  refine ⟨?_, ?_, fun name w => ?_, ?_⟩
  · simp [Object.push, h.unnamed, List.filter_append]
  · simp [Object.push, h.names, List.filter_append]
  · rw [last_append_iff]
    show bag.strings.get? name = some w ↔ _
    rw [h.last]
    refine and_congr_right fun nonempty => ?_
    rw [if_neg (Ne.symm nonempty)]
  · rw [h.plain]
    rfl

/-- A further argument with a name takes the place of one of that name, or is the last entry. -/
theorem setText {name : String} (nonempty : name ≠ "") (v : Value) :
    Collects (supplied ++ [(name, v)]) (bag.setText name v) := by
  refine ⟨?_, ?_, fun other w => ?_, ?_⟩
  · simp [Object.setText, h.unnamed, List.filter_append, nonempty]
  · show (bag.strings.insert name v).keys = _
    have added : ((supplied ++ [(name, v)]).filter fun a => a.1 ≠ "").map Prod.fst =
        (supplied.filter fun a => a.1 ≠ "").map Prod.fst ++ [name] := by
      simp [List.filter_append, nonempty]
    rw [OrderedMap.keys_insert, h.names, added, eraseDups_append_singleton]
  · rw [last_append_iff]
    show (bag.strings.insert name v).get? other = some w ↔ _
    rw [OrderedMap.get?_insert, apply_ite (· = some w)]
    split
    · next same =>
      subst same
      simp [nonempty]
    · exact h.last other w
  · rw [h.plain]
    rfl

end Collects

/-- **All arguments are collected.** -/
theorem argumentBag_collects (supplied : Arguments) :
    Collects supplied (argumentBag supplied) := by
  -- on the last argument, since the bag is filled from the first one on
  induction supplied using List.reverseRecOn with
  | nil =>
    refine ⟨rfl, rfl, fun name v => iff_of_false ?_ ?_, rfl⟩
    · rw [show (argumentBag []).strings = OrderedMap.empty from rfl, OrderedMap.get?_empty]
      nofun
    · rintro ⟨-, earlier, later, eq, -⟩
      simp at eq
  | append_singleton supplied argument ih =>
    obtain ⟨name, v⟩ := argument
    have grown : argumentBag (supplied ++ [(name, v)]) =
        if name.isEmpty then (argumentBag supplied).push v
        else (argumentBag supplied).setText name v := by
      rw [argumentBag, List.foldl_append]
      rfl
    by_cases unnamed : name = ""
    · subst unnamed
      exact grown ▸ ih.push v
    · rw [grown, if_neg (by simpa using unnamed)]
      exact ih.setText unnamed v

/-! ## Binding -/

section Fixed

variable {f : FunctionFacet} (fixed : f.stub.isVararg = false) {arguments : Arguments}
  (binding : Option Value) {m : Machine}
include fixed

/-- Arguments that have a parameter each are bound. -/
theorem bindArguments_placed (places : f.stub.Places (suppliedArguments f arguments)) :
    ∃ parameters, bindArguments f arguments binding m = .ok parameters m :=
  ⟨_, bindArguments_named fixed (bindNamed_iff.mpr ⟨places, rfl⟩) binding m⟩

/-- Other arguments are not. -/
theorem bindArguments_unplaced (unplaced : ¬ f.stub.Places (suppliedArguments f arguments)) :
    ∃ name, bindArguments f arguments binding m =
      raise (.cannotBind name f.stub.bindableNames) m := by
  rcases bindArguments_cases f arguments binding m with
    ⟨vararg, -⟩ | ⟨-, parameters, named, -⟩ | raised
  · cases fixed.symm.trans vararg
  · exact absurd (bindNamed_iff.mp named).1 unplaced
  · exact raised

/-- **What is bound is what the parameters receive.** -/
theorem bindArguments_receives {binding : Option Value} {parameters : Array Value} {m' : Machine}
    (ok : bindArguments f arguments binding m = .ok parameters m') :
    f.stub.Places (suppliedArguments f arguments) ∧ m' = m ∧ ∀ i v, parameters[i]? = some v ↔
      i < f.stub.arity ∧ f.stub.Receives (suppliedArguments f arguments) binding i v := by
  rcases bindArguments_cases f arguments binding m with
    ⟨vararg, -⟩ | ⟨-, before, named, eq⟩ | ⟨name, eq⟩
  · cases fixed.symm.trans vararg
  · have size := bindArguments_size ok
    cases eq.symm.trans ok
    have places := (bindNamed_iff.mp named).1
    refine ⟨places, rfl, fun i v => ⟨fun here => ?_, fun ⟨inside, receives⟩ => ?_⟩⟩
    · have inside : i < f.stub.arity := size ▸ (Array.getElem?_eq_some_iff.mp here).1
      obtain ⟨w, held, receives⟩ := bindPrivate_receives binding named inside
      cases held.symm.trans here
      exact ⟨inside, receives⟩
    · obtain ⟨w, held, receives'⟩ := bindPrivate_receives binding named inside
      rw [held, places.receives_unique receives receives']
  · exact absurd (eq.symm.trans ok) (raise_ne_ok _ _ _ _)

/-- **The order of the arguments makes no difference.** -/
theorem bindArguments_perm {binding : Option Value} {arguments' : Arguments}
    (same : arguments.Perm arguments') {parameters : Array Value} {m' : Machine}
    (ok : bindArguments f arguments binding m = .ok parameters m') :
    bindArguments f arguments' binding m = .ok parameters m' := by
  have supplied : (suppliedArguments f arguments).Perm (suppliedArguments f arguments') :=
    same.append_right _
  obtain ⟨places, rfl, held⟩ := bindArguments_receives fixed ok
  obtain ⟨parameters', ok'⟩ := bindArguments_placed fixed binding (m := m') (places.perm supplied)
  obtain ⟨-, -, held'⟩ := bindArguments_receives fixed ok'
  obtain rfl : parameters' = parameters := by
    refine Array.ext_getElem? fun i => Option.ext fun v => ?_
    rw [held, held']
    exact and_congr_right fun _ => ⟨.perm supplied.symm, .perm supplied⟩
  exact ok'

end Fixed

/-- The parameters of a vararg function: the object with the arguments, the private binding,
and nothing else. -/
theorem bindPrivate_collected (s : Stub) (binding : Option Value) (bag : ObjectId) (i : Nat)
    (v : Value) :
    (bindPrivate s binding (collected s bag))[i]? = some v ↔ i < s.arity ∧
      (binding = some v ∧ s.FirstNamed Stub.privateName i ∨
        (binding.isSome → ¬ s.FirstNamed Stub.privateName i) ∧
          v = if i = 0 then .object bag else .empty) := by
  have size : (bindPrivate s binding (collected s bag)).size = s.arity := by
    rw [bindPrivate_size, size_collected]
  by_cases inside : i < s.arity
  · rw [bindPrivate_getElem? _ _ (size_collected s bag ▸ inside), getElem?_collected inside,
      ← Stub.parameterIndex?_eq_some_iff]
    cases binding with
    | none => simp [inside, eq_comm]
    | some w =>
      by_cases first : s.parameterIndex? Stub.privateName = some i
      · simp [inside, first]
      · simp [inside, first, eq_comm]
  · rw [Array.getElem?_eq_none (by omega)]
    exact iff_of_false (by simp) fun held => inside held.1

/-- **Binding is exact.**  For a function with parameters of its own, the arguments bind
exactly if each has a parameter of its own; each parameter then holds what it receives, the
machine is as before, and the order of the arguments makes no difference.  For a vararg
function they always bind: its first parameter holds a new object with all of them, unless
it is `$` and there is a private binding. -/
theorem binding_exact (f : FunctionFacet) (arguments : Arguments) (binding : Option Value)
    (m : Machine) :
    (f.stub.isVararg = false →
      ((∃ parameters m', bindArguments f arguments binding m = .ok parameters m') ↔
        f.stub.Places (suppliedArguments f arguments)) ∧
      (∀ parameters m', bindArguments f arguments binding m = .ok parameters m' →
        m' = m ∧ ∀ i v, parameters[i]? = some v ↔
          i < f.stub.arity ∧ f.stub.Receives (suppliedArguments f arguments) binding i v) ∧
      (¬ f.stub.Places (suppliedArguments f arguments) → ∃ name,
        bindArguments f arguments binding m =
          raise (.cannotBind name f.stub.bindableNames) m) ∧
      ∀ arguments', arguments.Perm arguments' → ∀ parameters m',
        bindArguments f arguments' binding m = .ok parameters m' ↔
          bindArguments f arguments binding m = .ok parameters m') ∧
    (f.stub.isVararg = true → ∃ bag parameters,
      Collects (suppliedArguments f arguments) bag ∧
      bindArguments f arguments binding m =
        .ok parameters { m with objects := m.objects.push bag } ∧
      ∀ i v, parameters[i]? = some v ↔ i < f.stub.arity ∧
        (binding = some v ∧ f.stub.FirstNamed Stub.privateName i ∨
          (binding.isSome → ¬ f.stub.FirstNamed Stub.privateName i) ∧
            v = if i = 0 then .object ⟨m.objects.size + 1⟩ else .empty)) := by
  constructor
  · intro fixed
    refine ⟨⟨fun ⟨_, _, ok⟩ => (bindArguments_receives fixed ok).1, fun places => ?_⟩,
      fun parameters m' ok => (bindArguments_receives fixed ok).2,
      bindArguments_unplaced fixed binding, fun arguments' same parameters m' =>
        ⟨bindArguments_perm fixed same.symm, bindArguments_perm fixed same⟩⟩
    obtain ⟨parameters, ok⟩ := bindArguments_placed fixed binding (m := m) places
    exact ⟨parameters, m, ok⟩
  · intro vararg
    exact ⟨_, _, argumentBag_collects _, bindArguments_vararg vararg arguments binding m,
      bindPrivate_collected f.stub binding _⟩

/-- A function of `x` and `base` that has a base. -/
def based (isVararg : Bool) : FunctionFacet :=
  { FunctionFacet.ofStub { Stub.blank 1 0 with isVararg, parameters := #["x", "base"] } with
    boundBase := some (.boolean true) }

/-- Beside the base, its other argument need not be named; as a vararg function it gets both in one
object. -/
theorem based_binds_unnamed :
    (based false).stub.isVararg = false ∧ (based true).stub.isVararg = true ∧
      (∃ parameters m', bindArguments (based false) [("", .boolean false)] none
        (Machine.initial .standard) = .ok parameters m') ∧
      ∃ bag, Collects [("", .boolean false), ("base", .boolean true)] bag := by
  have base : (based false).stub.FirstNamed "base" 1 := ⟨rfl, by decide⟩
  have beside : (based false).stub.Resolves
      (suppliedArguments (based false) [("", .boolean false)]) "" 0 := by
    refine .beside (List.mem_cons_of_mem _ List.mem_cons_self) ⟨"x", rfl, by decide⟩
      Nat.zero_ne_one (fun k here => ?_) base
    rw [← Stub.mem_bindable] at here
    simpa [show (based false).stub.bindable = [0, 1] by decide] using here
  have places : (based false).stub.Places
      (suppliedArguments (based false) [("", .boolean false)]) := by
    refine ⟨fun a listed => ?_, .cons (fun a listed i first second => ?_) (List.pairwise_singleton _ _)⟩
    · rcases List.mem_cons.mp listed with rfl | listed
      · exact ⟨0, beside⟩
      · rw [List.mem_singleton.mp listed]
        exact ⟨1, .named (by decide) (by decide) base⟩
    · rw [List.mem_singleton.mp listed] at second
      have named : (based false).stub.Resolves
          (suppliedArguments (based false) [("", .boolean false)]) "base" 1 :=
        .named (by decide) (by decide) base
      exact absurd ((first.unique beside).symm.trans (second.unique named)) Nat.zero_ne_one
  obtain ⟨succeeds, -⟩ := (binding_exact (based false) [("", .boolean false)] none
    (Machine.initial .standard)).1 rfl
  obtain ⟨bag, _, collects, -⟩ := (binding_exact (based true) [("", .boolean false)] none
    (Machine.initial .standard)).2 rfl
  exact ⟨rfl, rfl, succeeds.mpr places, bag, collects⟩

end StubMachine
