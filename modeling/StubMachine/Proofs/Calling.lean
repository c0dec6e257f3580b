import StubMachine.Proofs.Raising

/-!
# What a call does

Calling a function binds its arguments, checks them, runs the function and checks what it
returns (`callFacet_eq`).  This module says what each of these comes to.  **Binding ends in
one of three ways** (`bindArguments_cases`): all arguments are collected in a new object,
each has got a parameter of its own, or an error is raised.  **A check raises an error or
changes nothing** (`checkParameters_cases`, `checkResult_cases`), and it raises one exactly
if the values do not suit the function.
-/

namespace StubMachine

open StubMachine.Action

theorem raise_ne_ok {α : Type} (f : Fault) (m m' : Machine) (a : α) :
    (raise f : Action α) m ≠ .ok a m' := by
  intro ok
  obtain ⟨o, m₁, -, raised⟩ := @raiseError_eq α (.string f.message) m
  cases raised.symm.trans ok

/-- Nothing follows a raising. -/
theorem bind_raised {α β : Type} {x : Action α} {f : Fault} {m : Machine} (raised : x m = raise f m)
    (k : α → Action β) : (x >>= k) m = raise f m := by
  have stops : (raise f >>= k) m = raise f m := congrFun (raiseError_bind _ k) m
  rw [Action.bind_eq, raised, ← Action.bind_eq]
  exact stops

namespace Machine

theorem object_modify (m : Machine) (k : Nat) (f : Object → Object) (o : ObjectId) :
    { m with objects := m.objects.modify k f }.object o =
      if k = o.serial - 1 ∧ k < m.objects.size then f (m.object o) else m.object o := by
  simp only [object, Array.getD_eq_getD_getElem?, Array.getElem?_modify]
  by_cases same : k = o.serial - 1
  · subst same
    by_cases stored : o.serial - 1 < m.objects.size
    · simp [stored]
    · simp [stored]
  · simp [same]

theorem object_push (m : Machine) (object : Object) (o : ObjectId) :
    { m with objects := m.objects.push object }.object o =
      if o.serial - 1 = m.objects.size then object else m.object o := by
  simp only [Machine.object, Array.getD_eq_getD_getElem?, Array.getElem?_push]
  split
  · rfl
  · rfl

end Machine

/-! ## Binding -/

@[simp] theorem bindPrivate_none (s : Stub) (parameters : Array Value) :
    bindPrivate s none parameters = parameters := by
  delta bindPrivate
  cases s.parameterIndex? Stub.privateName with
  | none => rfl
  | some i => rfl

/-- The private binding is the last thing that is bound. -/
theorem bindArguments_bound (f : FunctionFacet) (arguments : Arguments) (binding : Option Value) :
    bindArguments f arguments binding =
      bindArguments f arguments none >>= fun parameters =>
        pure (bindPrivate f.stub binding parameters) := by
  delta bindArguments
  simp only [bindPrivate_none]
  split
  · rfl
  · cases bindNamed f.stub (suppliedArguments f arguments) with
    | ok parameters => rfl
    | error name => simp only [raise, raiseError_bind]

/-- The parameters of a vararg function before the private binding is given: the first one is the
object with all arguments. -/
def collected (s : Stub) (bag : ObjectId) : Array Value :=
  (Array.replicate s.arity Value.empty).setIfInBounds 0 (.object bag)

@[simp] theorem size_collected (s : Stub) (bag : ObjectId) : (collected s bag).size = s.arity := by
  rw [collected, Array.size_setIfInBounds, Array.size_replicate]

theorem getElem?_collected {s : Stub} {i : Nat} (inside : i < s.arity) (bag : ObjectId) :
    (collected s bag)[i]? = some (if i = 0 then .object bag else .empty) := by
  rw [collected, Array.getElem?_setIfInBounds, Array.size_replicate, Array.getElem?_replicate,
    if_pos inside]
  by_cases first : i = 0
  · simp [← first, inside]
  · simp [first, Ne.symm first]

/-- Arguments that all get a parameter of their own. -/
theorem bindArguments_named {f : FunctionFacet} {arguments : Arguments} {parameters : Array Value}
    (fixed : f.stub.isVararg = false)
    (named : bindNamed f.stub (suppliedArguments f arguments) = .ok parameters)
    (binding : Option Value) (m : Machine) :
    bindArguments f arguments binding m = .ok (bindPrivate f.stub binding parameters) m := by
  delta bindArguments
  simp only [fixed, named]
  rfl

/-- A vararg function takes all arguments. -/
theorem bindArguments_vararg {f : FunctionFacet} (vararg : f.stub.isVararg = true)
    (arguments : Arguments) (binding : Option Value) (m : Machine) :
    bindArguments f arguments binding m =
      .ok (bindPrivate f.stub binding (collected f.stub ⟨m.objects.size + 1⟩))
        { m with objects := m.objects.push (argumentBag (suppliedArguments f arguments)) } := by
  delta bindArguments
  simp only [vararg]
  rfl

/-- **How the binding of arguments ends.** -/
theorem bindArguments_cases (f : FunctionFacet) (arguments : Arguments) (binding : Option Value)
    (m : Machine) :
    (f.stub.isVararg = true ∧ bindArguments f arguments binding m =
        .ok (bindPrivate f.stub binding (collected f.stub ⟨m.objects.size + 1⟩))
          { m with objects := m.objects.push (argumentBag (suppliedArguments f arguments)) }) ∨
      (f.stub.isVararg = false ∧ ∃ parameters,
        bindNamed f.stub (suppliedArguments f arguments) = .ok parameters ∧
        bindArguments f arguments binding m = .ok (bindPrivate f.stub binding parameters) m) ∨
      ∃ name, bindArguments f arguments binding m =
        raise (.cannotBind name f.stub.bindableNames) m := by
  cases shape : f.stub.isVararg with
  | true => exact .inl ⟨rfl, bindArguments_vararg shape arguments binding m⟩
  | false =>
    cases named : bindNamed f.stub (suppliedArguments f arguments) with
    | ok parameters =>
      exact .inr (.inl ⟨rfl, parameters, rfl, bindArguments_named shape named binding m⟩)
    | error name =>
      refine .inr (.inr ⟨name, ?_⟩)
      delta bindArguments
      simp only [shape, named, Bool.false_eq_true, if_false, raise, raiseError_bind]

/-- Binding arguments changes nothing but that it may make a new object. -/
theorem bindArguments_ok {f : FunctionFacet} {arguments : Arguments} {binding : Option Value}
    {m m' : Machine} {parameters : Array Value}
    (h : bindArguments f arguments binding m = .ok parameters m') :
    m' = m ∨ ∃ bag, m' = { m with objects := m.objects.push bag } := by
  rcases bindArguments_cases f arguments binding m with ⟨-, eq⟩ | ⟨-, bound, -, eq⟩ | ⟨name, eq⟩
  · cases eq.symm.trans h
    exact .inr ⟨_, rfl⟩
  · cases eq.symm.trans h
    exact .inl rfl
  · exact absurd (eq.symm.trans h) (raise_ne_ok _ _ _ _)

/-- What an argument can be bound to keeps the number of parameters. -/
theorem bindOne_size {s : Stub} {supplied : Bool} {b b' : Binding} {argument : String × Value}
    (h : bindOne s supplied b argument = .ok b') : b'.size = b.size := by
  rw [bindOne] at h
  split at h
  · cases h
  · split at h
    · cases h
      exact Array.size_setIfInBounds
    · cases h

/-- **What holds before any argument is bound and is kept by each holds of what is bound.** -/
theorem bindNamed_ok {s : Stub} {supplied : Arguments} {parameters : Array Value}
    (h : bindNamed s supplied = .ok parameters) {P : Binding → Prop}
    (start : P (Array.replicate s.arity none))
    (step : ∀ given b b' argument, argument ∈ supplied → P b →
      bindOne s given b argument = .ok b' → P b') :
    ∃ bound, P bound ∧ parameters = bound.map Value.ofOption := by
  -- an invariant of what is bound so far, kept by each argument
  have run (given : Bool) (rest : Arguments) (among : rest ⊆ supplied) : ∀ b bound, P b →
      rest.foldlM (bindOne s given) b = .ok bound → P bound := by
    induction rest with
    | nil =>
      intro b bound holds ended
      cases ended
      exact holds
    | cons argument rest ih =>
      intro b bound holds ended
      rw [List.foldlM_cons] at ended
      cases one : bindOne s given b argument with
      | error name =>
        rw [one] at ended
        cases ended
      | ok b' =>
        rw [one] at ended
        obtain ⟨listed, among⟩ := List.cons_subset.mp among
        exact ih among b' bound (step given b b' argument listed holds one) ended
  rw [bindNamed] at h
  cases ended : supplied.foldlM (bindOne s (supplied.any fun a => a.1 == "base"))
      (Array.replicate s.arity none) with
  | error name =>
    rw [ended] at h
    cases h
  | ok bound =>
    rw [ended] at h
    cases h
    exact ⟨bound, run _ supplied (List.Subset.refl _) _ bound start ended, rfl⟩

theorem bindPrivate_size (s : Stub) (binding : Option Value) (parameters : Array Value) :
    (bindPrivate s binding parameters).size = parameters.size := by
  delta bindPrivate
  split
  · exact Array.size_setIfInBounds
  · rfl

/-- Each parameter gets a value. -/
theorem bindArguments_size {f : FunctionFacet} {arguments : Arguments} {binding : Option Value}
    {m m' : Machine} {parameters : Array Value}
    (h : bindArguments f arguments binding m = .ok parameters m') :
    parameters.size = f.stub.arity := by
  rcases bindArguments_cases f arguments binding m with
    ⟨-, eq⟩ | ⟨-, bound, named, eq⟩ | ⟨name, eq⟩
  · cases eq.symm.trans h
    rw [bindPrivate_size, size_collected]
  · cases eq.symm.trans h
    obtain ⟨b, size, rfl⟩ := bindNamed_ok named (P := fun b => b.size = f.stub.arity)
      Array.size_replicate fun _ _ _ _ _ size one => (bindOne_size one).trans size
    rw [bindPrivate_size, Array.size_map, size]
  · exact absurd (eq.symm.trans h) (raise_ne_ok _ _ _ _)

/-! ## Checking -/

namespace Machine

/-- **The parameters are of the types of the function**, but for those called `$`. -/
def Suits (m : Machine) (f : FunctionFacet) (parameters : Array Value) : Prop :=
  ∀ types, f.types = some types → ∀ (i : Nat) (name : String) (v : Value) (t : TypeId),
    f.stub.parameters[i]? = some name → name ≠ Stub.privateName → types[i]? = some t →
    parameters[i]? = some v → m.isA v t = true

/-- **The value is of the type that the function returns.** -/
def Answers (m : Machine) (f : FunctionFacet) (v : Value) : Prop :=
  ∀ types t, f.types = some types → types[f.stub.arity]? = some t → m.isA v t = true

theorem suits_iff (m : Machine) (f : FunctionFacet) (parameters : Array Value) :
    m.Suits f parameters ↔
      ∀ types, f.types = some types → mistyped? m f.stub types parameters = none := by
  refine forall_congr' fun types => imp_congr_right fun _ => ?_
  rw [mistyped?, List.findSome?_eq_none_iff]
  constructor
  · intro suits i _
    split
    · next name t v atName atType atValue =>
      by_cases exempt : name = Stub.privateName
      · simp [exempt]
      · simp [suits i name v t atName exempt atType atValue]
    · rfl
  · intro none i name v t atName exempt atType atValue
    have inside : i < f.stub.parameters.size := by
      rw [Array.getElem?_eq_some_iff] at atName
      exact atName.1
    have found := none i (List.mem_range.mpr inside)
    simp only [atName, atType, atValue] at found
    simpa [exempt] using found

end Machine

/-- **A check of parameters** changes nothing if they suit the function, and else raises an
error. -/
theorem checkParameters_cases (f : FunctionFacet) (parameters : Array Value) (m : Machine) :
    (m.Suits f parameters ∧ checkParameters f parameters m = .ok () m) ∨
      ¬ m.Suits f parameters ∧ ∃ name got wanted,
        checkParameters f parameters m = raise (.argumentType name got wanted) m := by
  rw [checkParameters, m.suits_iff]
  cases f.types with
  | none => exact .inl ⟨fun _ => nofun, rfl⟩
  | some types =>
    have looked : Action.read (fun m => mistyped? m f.stub types parameters) m =
      .ok (mistyped? m f.stub types parameters) m := rfl
    dsimp only
    rw [Action.bind_ok looked]
    cases found : mistyped? m f.stub types parameters with
    | none =>
      refine .inl ⟨fun types' h => ?_, rfl⟩
      cases h
      exact found
    | some mistyped =>
      refine .inr ⟨fun none => ?_, mistyped.1, _, _, rfl⟩
      cases found.symm.trans (none types rfl)

/-- What passes the check suits the function, and is not changed by the check. -/
theorem checkParameters_ok {f : FunctionFacet} {parameters : Array Value} {m m' : Machine}
    (h : checkParameters f parameters m = .ok () m') : m' = m ∧ m.Suits f parameters := by
  rcases checkParameters_cases f parameters m with ⟨suits, ok⟩ | ⟨-, name, got, wanted, raised⟩
  · cases ok.symm.trans h
    exact ⟨rfl, suits⟩
  · exact absurd (raised.symm.trans h) (raise_ne_ok _ _ _ _)

/-- **A check of a result** hands it on if it is of the type that the function returns, and else
raises an error. -/
theorem checkResult_cases (f : FunctionFacet) (v : Value) (m : Machine) :
    (m.Answers f v ∧ checkResult f v m = .ok v m) ∨
      ¬ m.Answers f v ∧ ∃ got wanted, checkResult f v m = raise (.resultType got wanted) m := by
  rw [checkResult]
  cases declared : f.types.bind fun types => types[f.stub.arity]? with
  | none =>
    refine .inl ⟨fun types t has at_ => ?_, rfl⟩
    rw [has, Option.bind_some, at_] at declared
    cases declared
  | some t =>
    obtain ⟨types, has, at_⟩ := Option.bind_eq_some_iff.mp declared
    have looked : Action.read (fun m => m.isA v t) m = .ok (m.isA v t) m := rfl
    dsimp only
    rw [Action.bind_ok looked]
    cases fits : m.isA v t with
    | true =>
      refine .inl ⟨fun types' t' has' at' => ?_, rfl⟩
      cases has.symm.trans has'
      cases at_.symm.trans at'
      exact fits
    | false =>
      refine .inr ⟨fun answers => ?_, _, _, rfl⟩
      cases fits.symm.trans (answers types t has at_)

/-! ## Calling -/

/-- The running of a function that has been called. -/
def runCalled (host : Host) (e : Engine) (f : FunctionFacet) (parameters : Array Value) :
    Action Value :=
  if f.stub.isNative then callNative host e f.stub parameters else e.enter f parameters none

/-- **Calling a function** is binding its arguments, checking them, running it and checking its
result. -/
theorem callFacet_eq (host : Host) (e : Engine) (f : FunctionFacet) (arguments : Arguments)
    (binding : Option Value) :
    callFacet host e f arguments binding =
      bindArguments f arguments binding >>= fun parameters =>
        checkParameters f parameters >>= fun _ =>
          runCalled host e f parameters >>= checkResult f := by
  rw [callFacet]
  congr 1
  funext parameters
  congr 1
  funext _
  rw [runCalled]
  split
  · rfl
  · rfl

/-- A call that binds parameters that do not suit the function raises an error. -/
theorem callFacet_unsuited {host : Host} {e : Engine} {f : FunctionFacet} {arguments : Arguments}
    {binding : Option Value} {m m' : Machine} {parameters : Array Value}
    (bound : bindArguments f arguments binding m = .ok parameters m')
    (unsuited : ¬ m'.Suits f parameters) :
    ∃ name got wanted, callFacet host e f arguments binding m =
      raise (.argumentType name got wanted) m' := by
  rcases checkParameters_cases f parameters m' with ⟨suits, -⟩ | ⟨-, name, got, wanted, raised⟩
  · exact absurd suits unsuited
  · refine ⟨name, got, wanted, ?_⟩
    rw [callFacet_eq, Action.bind_ok bound]
    exact bind_raised raised _

/-- A call that binds parameters that suit the function runs it and checks the result. -/
theorem callFacet_suited {host : Host} {e : Engine} {f : FunctionFacet} {arguments : Arguments}
    {binding : Option Value} {m m' : Machine} {parameters : Array Value}
    (bound : bindArguments f arguments binding m = .ok parameters m')
    (suits : m'.Suits f parameters) :
    callFacet host e f arguments binding m =
      (runCalled host e f parameters >>= checkResult f) m' := by
  rcases checkParameters_cases f parameters m' with ⟨-, ok⟩ | ⟨unsuited, -⟩
  · rw [callFacet_eq, Action.bind_ok bound, Action.bind_ok ok]
  · exact absurd suits unsuited

/-- A call that gets a value of the type that the function returns hands it on. -/
theorem callFacet_answered {host : Host} {e : Engine} {f : FunctionFacet} {arguments : Arguments}
    {binding : Option Value} {m m' m'' : Machine} {parameters : Array Value} {v : Value}
    (bound : bindArguments f arguments binding m = .ok parameters m')
    (suits : m'.Suits f parameters) (ran : runCalled host e f parameters m' = .ok v m'')
    (answers : m''.Answers f v) : callFacet host e f arguments binding m = .ok v m'' := by
  rw [callFacet_suited bound suits, Action.bind_ok ran]
  rcases checkResult_cases f v m'' with ⟨-, handed⟩ | ⟨unanswered, -⟩
  · exact handed
  · exact absurd answers unanswered

/-- A call that gets a value of another type than the function returns raises an error. -/
theorem callFacet_unanswered {host : Host} {e : Engine} {f : FunctionFacet} {arguments : Arguments}
    {binding : Option Value} {m m' m'' : Machine} {parameters : Array Value} {v : Value}
    (bound : bindArguments f arguments binding m = .ok parameters m')
    (suits : m'.Suits f parameters) (ran : runCalled host e f parameters m' = .ok v m'')
    (unanswered : ¬ m''.Answers f v) :
    ∃ got wanted, callFacet host e f arguments binding m = raise (.resultType got wanted) m'' := by
  rw [callFacet_suited bound suits, Action.bind_ok ran]
  rcases checkResult_cases f v m'' with ⟨answers, -⟩ | ⟨-, raised⟩
  · exact absurd answers unanswered
  · exact raised

/-- **What a call returns is of the type that the function returns.** -/
theorem callFacet_answers {host : Host} {e : Engine} {f : FunctionFacet} {arguments : Arguments}
    {binding : Option Value} {m m' : Machine} {v : Value}
    (ok : callFacet host e f arguments binding m = .ok v m') : m'.Answers f v := by
  have checked {x : Action Value} {m : Machine} (ok : (x >>= checkResult f) m = .ok v m') :
      m'.Answers f v := by
    obtain ⟨w, m₁, -, checks⟩ := Action.bind_eq_ok.mp ok
    rcases checkResult_cases f w m₁ with ⟨answers, handed⟩ | ⟨-, got, wanted, raised⟩
    · cases handed.symm.trans checks
      exact answers
    · exact absurd (raised.symm.trans checks) (raise_ne_ok _ _ _ _)
  have bound := ok
  rw [callFacet_eq] at bound
  obtain ⟨parameters, m₁, binds, -⟩ := Action.bind_eq_ok.mp bound
  by_cases suits : m₁.Suits f parameters
  · exact checked ((callFacet_suited binds suits).symm.trans ok)
  · obtain ⟨name, got, wanted, raised⟩ := @callFacet_unsuited host e _ _ _ _ _ _ binds suits
    exact absurd (raised.symm.trans ok) (raise_ne_ok _ _ _ _)

theorem callValue_function {host : Host} {e : Engine} {m : Machine} {o : ObjectId}
    {f : FunctionFacet} (function : (m.object o).function? = some f) (arguments : Arguments)
    (binding : Option Value) :
    callValue host e (.object o) arguments binding m = callFacet host e f arguments binding m := by
  have looked : objectAt o m = .ok (m.object o) m := rfl
  show (objectAt o >>= _) m = _
  rw [Action.bind_ok looked, function]

theorem callValue_plain {host : Host} {e : Engine} {m : Machine} {o : ObjectId}
    (plain : (m.object o).function? = none) (arguments : Arguments) (binding : Option Value) :
    callValue host e (.object o) arguments binding m = raise .objectNotCallable m := by
  have looked : objectAt o m = .ok (m.object o) m := rfl
  show (objectAt o >>= _) m = _
  rw [Action.bind_ok looked, plain]

end StubMachine
