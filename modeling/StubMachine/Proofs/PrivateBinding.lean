import StubMachine.Proofs.Demand

/-!
# Private bindings cannot be forged

A parameter called `$` is for the private binding of an interface.  **When a function is
called, `$` holds the private binding of the interface that calls it as an accessor, and
Empty if it is called in any other way** (`private_binding_unforgeable`): no argument is
bound to it, neither by name nor by rule, and a private binding is handed on only to the
accessors of its interface.

Two ways lead past this, both of which fill parameters by their position
(`loops_bind_private`, `varargs_bind_private`).  Loops put what they go through into the
first one or two parameters of their bodies, and a vararg function gets the object with its
arguments in its first parameter, whatever the parameters are called.
-/

namespace StubMachine

open StubMachine.Action

/-! ## Parameters of a call -/

/-- **The first parameter `$` holds the private binding, and others hold Empty.**  The first
parameter of a vararg function is excepted unless there is a private binding. -/
def Stub.Shields (s : Stub) (binding : Option Value) (parameters : Array Value) : Prop :=
  ∀ i : Nat, s.parameters[i]? = some privateName → (s.isVararg = true → i = 0 → binding.isSome) →
    parameters[i]? =
      some (if s.parameterIndex? privateName = some i then binding.getD .empty else .empty)

namespace Stub

theorem parameterIndex?_some {s : Stub} {name : String} {i : Nat}
    (h : s.parameterIndex? name = some i) :
    s.parameters[i]? = some name := by
  rw [parameterIndex?, Array.idxOf?_eq_map_finIdxOf?_val, Option.map_eq_some_iff] at h
  obtain ⟨j, found, rfl⟩ := h
  rw [Array.getElem?_eq_getElem j.isLt]
  exact congrArg some (Array.finIdxOf?_eq_some_iff.mp found).1

/-- A name of the first parameter is found there. -/
theorem parameterIndex?_first {s : Stub} {name : String} (h : s.parameters[0]? = some name) :
    s.parameterIndex? name = some 0 := by
  obtain ⟨inside, eq⟩ := Array.getElem?_eq_some_iff.mp h
  rw [parameterIndex?, Array.idxOf?_eq_map_finIdxOf?_val, Option.map_eq_some_iff]
  refine ⟨⟨0, inside⟩, Array.finIdxOf?_eq_some_iff.mpr ⟨eq, fun j before => ?_⟩, rfl⟩
  exact absurd before (Nat.not_lt_zero _)

/-- **No argument is bound to `$`**, by name or by rule. -/
theorem targetIndex?_ne_private {s : Stub} {supplied : Bool} {name : String} {i : Nat}
    (h : s.targetIndex? supplied name = some i) : s.parameters[i]? ≠ some privateName := by
  have bindable {j : Nat} (member : j ∈ s.bindable) : s.parameters[j]? ≠ some privateName := by
    have kept := (List.mem_filter.mp member).2
    simpa using kept
  rw [targetIndex?] at h
  split at h
  · rw [unnamedIndex?] at h
    split at h
    · next only alone =>
      cases h
      exact bindable (alone ▸ List.mem_singleton_self _)
    · next a b two =>
      have first := bindable (two ▸ List.mem_cons_self : a ∈ s.bindable)
      have second := bindable (two ▸ List.mem_cons_of_mem _ (List.mem_singleton_self b) : b ∈ s.bindable)
      split at h
      · split at h
        · cases h
          exact second
        · split at h
          · cases h
            exact first
          · cases h
      · cases h
    · cases h
  · split at h
    · cases h
    · next other =>
      rw [parameterIndex?_some h]
      exact fun eq => other (Option.some.inj eq)

end Stub

theorem bindOne_private {s : Stub} {given : Bool} {b b' : Binding} {argument : String × Value}
    {i : Nat} (isPrivate : s.parameters[i]? = some Stub.privateName)
    (one : bindOne s given b argument = .ok b') : b'[i]? = b[i]? := by
  rw [bindOne] at one
  split at one
  · cases one
  · next j target =>
    have other : j ≠ i := by
      rintro rfl
      exact Stub.targetIndex?_ne_private target isPrivate
    split at one
    · cases one
      rw [Array.getElem?_setIfInBounds, if_neg other]
    · cases one

/-- Arguments leave `$` without a value. -/
theorem bindNamed_private {s : Stub} {supplied : Arguments} {parameters : Array Value}
    (named : bindNamed s supplied = .ok parameters) {i : Nat}
    (isPrivate : s.parameters[i]? = some Stub.privateName) : parameters[i]? = some .empty := by
  have inside : i < s.arity := (Array.getElem?_eq_some_iff.mp isPrivate).1
  obtain ⟨bound, unbound, rfl⟩ := bindNamed_ok named (P := fun b => b[i]? = some none)
    (by rw [Array.getElem?_replicate, if_pos inside])
    fun _ _ _ _ _ unbound one => (bindOne_private isPrivate one).trans unbound
  rw [Array.getElem?_map, unbound]
  rfl

/-- The private binding goes to the first parameter `$`, and nowhere else. -/
theorem bindPrivate_getElem? (s : Stub) (binding : Option Value) {parameters : Array Value} {i : Nat}
    (inside : i < parameters.size) :
    (bindPrivate s binding parameters)[i]? =
      if s.parameterIndex? Stub.privateName = some i then binding.or parameters[i]?
      else parameters[i]? := by
  delta bindPrivate
  cases s.parameterIndex? Stub.privateName with
  | none => rfl
  | some j =>
    cases binding with
    | none => simp
    | some v =>
      simp only [Array.getElem?_setIfInBounds, Option.some.injEq, Option.some_or]
      by_cases here : j = i
      · rw [if_pos here, if_pos here, if_pos (here ▸ inside)]
      · rw [if_neg here, if_neg here]

/-- A parameter `$` has the private binding if it is the first, or Empty, unless it had a value
before: and that only the first parameter of a vararg function may have. -/
theorem bindPrivate_shielded {s : Stub} {binding : Option Value} {parameters : Array Value} {i : Nat}
    (inside : i < parameters.size)
    (blank : parameters[i]? = some .empty ∨
      s.parameterIndex? Stub.privateName = some i ∧ binding.isSome) :
    (bindPrivate s binding parameters)[i]? =
      some (if s.parameterIndex? Stub.privateName = some i then binding.getD .empty else .empty) := by
  rw [bindPrivate_getElem? _ _ inside]
  split
  · next first =>
    cases binding with
    | some v => rfl
    | none =>
      rcases blank with blank | ⟨-, absent⟩
      · rw [blank]
        rfl
      · cases absent
  · next other =>
    rcases blank with blank | ⟨first, -⟩
    · exact blank
    · exact absurd first other

/-- **What is bound in a call shields the private binding.** -/
theorem bindArguments_shields {f : FunctionFacet} {arguments : Arguments} {binding : Option Value}
    {m m' : Machine} {parameters : Array Value}
    (h : bindArguments f arguments binding m = .ok parameters m') :
    f.stub.Shields binding parameters := by
  intro i isPrivate given
  have inside : i < f.stub.arity := (Array.getElem?_eq_some_iff.mp isPrivate).1
  rcases bindArguments_cases f arguments binding m with
    ⟨vararg, eq⟩ | ⟨-, before, named, eq⟩ | ⟨name, eq⟩
  · cases eq.symm.trans h
    refine bindPrivate_shielded (size_collected _ _ ▸ inside) ?_
    by_cases first : i = 0
    · subst first
      exact .inr ⟨Stub.parameterIndex?_first isPrivate, given vararg rfl⟩
    · refine .inl ?_
      rw [getElem?_collected inside, if_neg first]
  · cases eq.symm.trans h
    have size : before.size = f.stub.arity := by
      rw [← bindPrivate_size f.stub binding before]
      exact bindArguments_size h
    exact bindPrivate_shielded (size ▸ inside) (.inl (bindNamed_private named isPrivate))
  · exact absurd (eq.symm.trans h) (raise_ne_ok _ _ _ _)

/-! ## Requests -/

/-- **The private binding is that of an interface for whose accessor the function is**, if there is
one. -/
def Machine.Entitles (m : Machine) (f : FunctionFacet) (binding : Option Value) : Prop :=
  ∀ v, binding = some v → ∃ o members p arguments,
    (m.object o).facet = .interface members (some v) ∧
      AccessorCall members (.object p) arguments ∧ (m.object p).function? = some f

/-- **A request that forges no private binding.** -/
inductive Unforged (m : Machine) : Request → Prop
  | call (function : Value) (arguments : Arguments) : Unforged m (.call function arguments none)
  /-- An accessor is called with the private binding of its interface. -/
  | access {o : ObjectId} {members : OrderedMap String Member} {binding : Option Value}
      {function : Value} {arguments : Arguments} :
      (m.object o).facet = .interface members binding →
      AccessorCall members function arguments → Unforged m (.call function arguments binding)
  /-- A function that has been called gets the private binding that it is entitled to, or none. -/
  | enter {f : FunctionFacet} {parameters : Array Value} {binding : Option Value} :
      m.Entitles f binding → f.stub.Shields binding parameters →
      Unforged m (.enter f parameters none)
  | loop {f : FunctionFacet} {parameters : Array Value} {restart : Restart} :
      LoopStart f parameters restart → Unforged m (.enter f parameters (some restart))

/-- What is in the store stays there when arguments are bound. -/
theorem bindArguments_object {f : FunctionFacet} {arguments : Arguments} {binding : Option Value}
    {m m' : Machine} {parameters : Array Value}
    (h : bindArguments f arguments binding m = .ok parameters m') {o : ObjectId}
    (stored : (m.object o).facet ≠ .plain) : m'.object o = m.object o := by
  rcases bindArguments_ok h with rfl | ⟨bag, rfl⟩
  · rfl
  · rw [Machine.object_push, if_neg]
    intro outside
    refine stored ?_
    rw [Machine.object, Array.getD_eq_getD_getElem?, outside, Array.getElem?_size]
    rfl

/-- The machine makes only requests that forge no private binding. -/
def unforgedRequests : Demand where
  Met := Unforged
  call _ function arguments := .call function arguments
  accessor facet access := .access facet access
  loop _ start := .loop start
  counted met := by
    cases met with
    | call function arguments => exact .call function arguments
    | access facet access => exact .access facet access
    | enter entitled shields => exact .enter entitled shields
    | loop start => exact .loop start
  entering {m m' p f arguments binding parameters} met function bound _ := by
    refine .enter (fun v eq => ?_) (bindArguments_shields bound)
    cases met with
    | call => cases eq
    | @access o members _ _ _ facet access =>
      subst eq
      have callable : (m.object p).facet ≠ .plain := by
        intro plain
        rw [Object.function?, plain] at function
        cases function
      have interface : (m.object o).facet ≠ .plain := by
        rw [facet]
        nofun
      refine ⟨o, members, p, arguments, ?_, access, ?_⟩
      · rw [bindArguments_object bound interface, facet]
      · rw [bindArguments_object bound callable, function]

/-! ## Members -/

section Members
variable {m : Machine} {o : ObjectId} {members : OrderedMap String Member} {binding : Option Value}
  {name : String} {getter setter : Option Value}
  (facet : (m.object o).facet = .interface members binding)
  (member : members.get? name = some (.accessor getter setter))
include facet member

theorem routeTo_accessor (write : Bool) :
    routeTo (.object o) (.string name) write m =
      .ok (o, .member name (some (.accessor getter setter)) binding) m := by
  have looked : objectAt o m = .ok (m.object o) m := rfl
  rw [routeTo, Action.bind_ok looked, facet, ← member]
  rfl

/-- **Reading a member calls the getter with the private binding.** -/
theorem getMember_accessor {function : Value} (reads : getter = some function) (e : Engine)
    (a : Accessor) :
    getMember e (.object o) (.string name) a m = e.perform (.call function [] binding) m := by
  subst reads
  rw [getMember, Action.bind_ok (routeTo_accessor facet member false)]
  rfl

/-- **Writing a member calls the setter with the private binding.** -/
theorem setMember_accessor {function : Value} (writes : setter = some function) (e : Engine)
    (a : Accessor) (v : Value) :
    setMember e (.object o) (.string name) v a m =
      (e.perform (.call function [("value", v)] binding) >>= fun _ => pure v) m := by
  subst writes
  rw [setMember, Action.bind_ok (routeTo_accessor facet member true)]
  rfl

end Members

/-! ## Positions -/

/-- The number of parameters that a loop fills by their position. -/
def Restart.given : Restart → Nat
  | count _ _ _ _ => 1
  | forever => 0
  | entries _ _ _ => 2

theorem firstParameters_rest (f : FunctionFacet) {given : List Value} {i : Nat}
    (beyond : given.length ≤ i) (inside : i < f.stub.arity) :
    (firstParameters f given)[i]? = some .empty := by
  have size : (given.take f.stub.arity).toArray.size ≤ i := by
    rw [List.size_toArray, List.length_take]
    omega
  rw [firstParameters, Array.getElem?_append_right size, Array.getElem?_replicate, if_pos]
  omega

/-- Beyond the parameters that a loop fills its body starts with Empty. -/
theorem LoopStart.rest {f : FunctionFacet} {parameters : Array Value} {restart : Restart}
    (start : LoopStart f parameters restart) {i : Nat} (beyond : restart.given ≤ i)
    (inside : i < f.stub.arity) : parameters[i]? = some .empty := by
  cases start with
  | count first stop step => exact firstParameters_rest f beyond inside
  | forever => exact firstParameters_rest f beyond inside
  | entries key keys values =>
    refine firstParameters_rest f (Nat.le_trans ?_ beyond) inside
    rw [List.length_cons, List.length_take]
    exact Nat.succ_le_succ (Nat.min_le_left _ _)

/-- **A vararg function gets its arguments in its first parameter**, even if that is called `$`. -/
theorem varargs_bind_private {f : FunctionFacet} {arguments : Arguments} {m m' : Machine}
    {parameters : Array Value} (vararg : f.stub.isVararg = true)
    (isPrivate : f.stub.parameters[0]? = some Stub.privateName)
    (h : bindArguments f arguments none m = .ok parameters m') :
    parameters[0]? = some (.object ⟨m.objects.size + 1⟩) := by
  have inside : 0 < f.stub.arity := (Array.getElem?_eq_some_iff.mp isPrivate).1
  rcases bindArguments_cases f arguments none m with ⟨-, eq⟩ | ⟨fixed, -⟩ | ⟨name, eq⟩
  · cases eq.symm.trans h
    rw [bindPrivate_none, collected, Array.getElem?_setIfInBounds, if_pos rfl,
      Array.size_replicate, if_pos inside]
  · cases vararg.symm.trans fixed
  · exact absurd (eq.symm.trans h) (raise_ne_ok _ _ _ _)

/-! ## The contract -/

/-- **Private bindings cannot be forged.**  In every session of an honest embedder, a call hands on
a private binding only to an accessor of the interface that it is of, and a function is entered
with what has been bound in a call for which it is entitled to the private binding, or by a loop.
In every call the parameter `$` is given the private binding, or Empty if there is none, unless it
is the first parameter of a vararg function.  Reading and writing a member hand on the private
binding.  Loops give Empty to `$` unless it is among the parameters that they fill. -/
theorem private_binding_unforgeable {host : Host} (honest : host.Honest) :
    host.AlwaysAsks Unforged ∧
    (∀ f arguments binding m m' parameters,
      bindArguments f arguments binding m = .ok parameters m' →
      f.stub.Shields binding parameters) ∧
    (∀ (m : Machine) o members binding name getter setter,
      (m.object o).facet = .interface members binding →
      members.get? name = some (.accessor getter setter) → ∀ e a function,
        (getter = some function → getMember e (.object o) (.string name) a m =
          e.perform (.call function [] binding) m) ∧
        ∀ v, setter = some function → setMember e (.object o) (.string name) v a m =
          (e.perform (.call function [("value", v)] binding) >>= fun _ => pure v) m) ∧
    ∀ f parameters restart, LoopStart f parameters restart →
      ∀ i, restart.given ≤ i → i < f.stub.arity → parameters[i]? = some .empty := by
  refine ⟨unforgedRequests.always_asked (honest unforgedRequests), ?_, ?_, ?_⟩
  · exact fun f arguments binding m m' parameters bound => bindArguments_shields bound
  · intro m o members binding name getter setter facet member e a function
    exact ⟨fun reads => getMember_accessor facet member reads e a,
      fun v writes => setMember_accessor facet member writes e a v⟩
  · exact fun f parameters restart start i beyond inside => start.rest beyond inside

/-- A function with the parameter `$`. -/
def entrusted : FunctionFacet :=
  FunctionFacet.ofStub { Stub.blank 1 1 with parameters := #[Stub.privateName] }

/-- Called without a private binding the function gets Empty. -/
theorem entrusted_gets_empty :
    entrusted.stub.Shields none #[.empty] ∧ Host.complaining.AlwaysAsks Unforged := by
  have named : bindNamed entrusted.stub (suppliedArguments entrusted []) = .ok #[.empty] := by
    simp [bindNamed, suppliedArguments, entrusted, FunctionFacet.ofStub, Stub.blank, Stub.arity]
    rfl
  have bound := bindArguments_named rfl named none (.offering entrusted)
  rw [bindPrivate_none] at bound
  obtain ⟨asks, shields, -⟩ := private_binding_unforgeable Host.complaining_honest
  exact ⟨shields _ _ _ _ _ _ bound, asks⟩

/-- **Loops fill `$` with what they go through.**  A loop over the list enters the function with the
index in its parameter `$`. -/
theorem loops_bind_private :
    let m := Machine.offering entrusted
    let parameters := firstParameters entrusted [.ofNat 0, .empty]
    entryLoop (.ofHost .complaining 1) (.object ⟨2⟩) (.object ⟨1⟩) m =
        (Engine.ofHost .complaining 1).enter entrusted parameters
          (some (.entries #[.ofNat 0] #[.empty] 0)) m ∧
      entrusted.stub.parameters[0]? = some Stub.privateName ∧
      parameters[0]? = some (.ofNat 0) ∧ Value.ofNat 0 ≠ .empty := by
  refine ⟨rfl, rfl, ?_, nofun⟩
  simp [firstParameters, entrusted, FunctionFacet.ofStub, Stub.blank, Stub.arity]

end StubMachine
