import StubMachine.Proofs.Demand
import StubMachine.Proofs.Sharing.Law

/-!
# Typed functions are checked when they are called

A function may carry the types of its parameters and of its result.  **Whenever it is entered
through a call, its parameters suit it, and what the call returns is of the type that the
function returns** (`typed_calls_checked`); where the one or the other is not so, the call
raises an error instead.  All ways to call come down to one, so this holds of operators,
converters, accessors, listeners and callbacks, too.

Loops do not call their bodies.  They enter them, with what they go through as parameters
and without a look at the types, neither before a pass nor after the last one
(`loop_bodies_unchecked`).  No other way leads past the checks.
-/

namespace StubMachine

open StubMachine.Action

/-- **A request that leads into no function unchecked**, but for the bodies of loops. -/
inductive Checked (m : Machine) : Request → Prop
  | call (function : Value) (arguments : Arguments) (binding : Option Value) :
      Checked m (.call function arguments binding)
  | enter {f : FunctionFacet} {parameters : Array Value} :
      parameters.size = f.stub.arity → m.Suits f parameters →
      Checked m (.enter f parameters none)
  | loop {f : FunctionFacet} {parameters : Array Value} {restart : Restart} :
      LoopStart f parameters restart → Checked m (.enter f parameters (some restart))

/-- The machine makes only requests that lead into no function unchecked. -/
def checkedRequests : Demand where
  Met := Checked
  call _ function arguments := .call function arguments none
  accessor _ _ := .call _ _ _
  loop _ start := .loop start
  counted met := by
    cases met with
    | call function arguments binding => exact .call function arguments binding
    | enter size suits => exact .enter size suits
    | loop start => exact .loop start
  entering _ _ bound checked := .enter (bindArguments_size bound) (checkParameters_ok checked).2

/-- What a call returns that is carried out is of the type that the function returns. -/
theorem perform_answers {host : Host} {fuel : Nat} {o : ObjectId} {f : FunctionFacet}
    {arguments : Arguments} {binding : Option Value} {m m' : Machine} {v : Value}
    (function : (m.object o).function? = some f)
    (ok : perform host fuel (.call (.object o) arguments binding) m = .ok v m') :
    m'.Answers f v := by
  cases fuel with
  | zero => cases ok
  | succ fuel =>
    have counted : (m.counted.object o).function? = some f := function
    change finally_ (callValue host (.ofHost host fuel) (.object o) arguments binding)
      (fun m => { m with reentry := m.reentry - 1 }) m.counted = .ok v m' at ok
    rw [finally_, callValue_function counted] at ok
    cases ran : callFacet host (.ofHost host fuel) f arguments binding m.counted with
    | error failure m₁ =>
      rw [ran] at ok
      cases ok
    | ok w m₁ =>
      rw [ran] at ok
      cases ok
      have answers : m₁.Answers f v := callFacet_answers ran
      exact answers

/-! ## Signatures -/

/-- The state after values have been taken from the stack of a frame. -/
def Machine.unstacked (m : Machine) (i count : Nat) : Machine :=
  { m with frames := m.frames.modify i fun f => { f with stack := f.stack.drop count } }

theorem Machine.unstacked_stub (m : Machine) (i count : Nat) :
    ((m.unstacked i count).frame i).stub = (m.frame i).stub := by
  have frame := frame_modify m i i fun f => { f with stack := f.stack.drop count }
  rw [unstacked, frame]
  split
  · rfl
  · rfl

theorem popMany_ok {i count : Nat} {m m' : Machine} {values : List Value}
    (ok : popMany i count m = .ok values m') :
    values.length = count ∧ m' = m.unstacked i count := by
  have looked : readFrame i Frame.stack m = .ok (m.frame i).stack m := rfl
  rw [popMany, Action.bind_ok looked] at ok
  by_cases short : (m.frame i).stack.length < count
  · rw [if_pos short] at ok
    exact absurd ((bind_raised rfl _).symm.trans ok) (raise_ne_ok _ _ _ _)
  · rw [if_neg short] at ok
    cases ok
    rw [List.length_reverse, List.length_take]
    exact ⟨by omega, rfl⟩

theorem signatureTypes_ok {values : List Value} {types : List TypeId} {m m' : Machine}
    (ok : signatureTypes values m = .ok types m') : types.length = values.length ∧ m' = m := by
  induction values generalizing types m m' with
  | nil =>
    cases ok
    exact ⟨rfl, rfl⟩
  | cons v values ih =>
    cases v with
    | type t =>
      obtain ⟨more, m₁, rest, ok⟩ := Action.bind_eq_ok.mp ok
      cases ok
      exact ⟨congrArg (· + 1) (ih rest).1, (ih rest).2⟩
    | _ => exact absurd ok (raise_ne_ok _ _ _ _)

/-- **A function that is made with a signature has a type for each parameter and for the result.** -/
theorem makeTypedClosure_signed {i : Nat} {operand : Float} {m m' : Machine} {v : Value}
    (ok : makeTypedClosure i operand m = .ok v m') :
    ∃ o f types, v = .object o ∧ (m'.object o).function? = some f ∧ f.types = some types ∧
      types.size = f.stub.arity + 1 := by
  rw [makeTypedClosure] at ok
  generalize UInt32.ofNat (Binary64.toUnsigned 32 operand) = id at ok
  have looked : stubBeside? i id m = .ok m.stubs[((m.frame i).stub.file, id)]? m := rfl
  rw [Action.bind_ok looked] at ok
  cases here : m.stubs[((m.frame i).stub.file, id)]? with
  | none =>
    rw [here] at ok
    exact absurd ok (raise_ne_ok _ _ _ _)
  | some stub =>
    rw [here] at ok
    obtain ⟨signature, m₁, popped, ok⟩ := Action.bind_eq_ok.mp ok
    obtain ⟨count, rfl⟩ := popMany_ok popped
    obtain ⟨types, m₂, read, ok⟩ := Action.bind_eq_ok.mp ok
    obtain ⟨length, rfl⟩ := signatureTypes_ok read
    rcases makeClosure_cases i id (some types.toArray) (m.unstacked i (stub.arity + 1)) with
      ⟨fault, raised⟩ | ⟨cause, failed⟩ | ⟨stub', captures, known, -, made⟩
    · exact absurd (raised.symm.trans ok) (raise_ne_ok _ _ _ _)
    · cases failed.symm.trans ok
    · rw [Machine.HasStub, Machine.unstacked_stub] at known
      -- taking the signature off the stack leaves the stubs as they are
      have same : stub' = stub := Option.some.inj (known.symm.trans here)
      cases made.symm.trans ok
      refine ⟨_, (Machine.unstacked m i (stub.arity + 1)).closure i stub' captures
        (some types.toArray), types.toArray, rfl, Machine.newest_withFunction _ _, rfl, ?_⟩
      rw [List.size_toArray, length, count, same]
      rfl

/-! ## The contract -/

/-- **Typed functions are checked when they are called.**  In every session of an honest embedder, a
function is entered only when it has been called and its parameters suit it, or by a loop.  What a
call returns is of the type that the function returns.  A call that binds parameters that suit the
function, and then gets a value of that type, returns it; where the one or the other is not so, it
raises an error.  A function that is made with a signature has a type for each of these. -/
theorem typed_calls_checked {host : Host} (honest : host.Honest) :
    host.AlwaysAsks Checked ∧
    (∀ fuel o f arguments binding (m m' : Machine) v, (m.object o).function? = some f →
      perform host fuel (.call (.object o) arguments binding) m = .ok v m' → m'.Answers f v) ∧
    (∀ e f arguments binding m m' parameters,
      bindArguments f arguments binding m = .ok parameters m' →
      (¬ m'.Suits f parameters → ∃ name got wanted,
        callFacet host e f arguments binding m = raise (.argumentType name got wanted) m') ∧
      ∀ v m'', m'.Suits f parameters → runCalled host e f parameters m' = .ok v m'' →
        (m''.Answers f v → callFacet host e f arguments binding m = .ok v m'') ∧
        (¬ m''.Answers f v → ∃ got wanted,
          callFacet host e f arguments binding m = raise (.resultType got wanted) m'')) ∧
    ∀ i operand m m' v, makeTypedClosure i operand m = .ok v m' →
      ∃ o f types, v = .object o ∧ (m'.object o).function? = some f ∧ f.types = some types ∧
        types.size = f.stub.arity + 1 := by
  refine ⟨checkedRequests.always_asked (honest checkedRequests), ?_, ?_, ?_⟩
  · exact fun fuel o f arguments binding m m' v function ok => perform_answers function ok
  · intro e f arguments binding m m' parameters bound
    refine ⟨callFacet_unsuited bound, fun v m'' suits ran => ⟨?_, ?_⟩⟩
    · exact callFacet_answered bound suits ran
    · exact callFacet_unanswered bound suits ran
  · exact fun i operand m m' v ok => makeTypedClosure_signed ok

/-- A function that takes and returns a string. -/
def echo : FunctionFacet :=
  { FunctionFacet.ofStub { Stub.blank 1 1 with parameters := #["x"] } with
    types := some #[BuiltinType.string.id, BuiltinType.string.id] }

/-- Called with nothing for the string the function raises an error. -/
theorem echo_needs_string :
    let m := Machine.offering echo
    ∃ name got wanted, callFacet .complaining (.ofHost .complaining 1) echo [] none m =
      raise (.argumentType name got wanted) m := by
  intro m
  have named : bindNamed echo.stub (suppliedArguments echo []) = .ok #[.empty] := by
    simp [bindNamed, suppliedArguments, echo, FunctionFacet.ofStub, Stub.blank, Stub.arity]
    rfl
  have bound := bindArguments_named rfl named none m
  rw [bindPrivate_none] at bound
  have unsuited : ¬ m.Suits echo #[.empty] := by
    intro suits
    cases suits _ rfl 0 "x" .empty BuiltinType.string.id rfl (by decide) rfl rfl
  exact ((typed_calls_checked Host.complaining_honest).2.2.1 _ _ _ _ _ _ _ bound).1 unsuited

/-- **Loops do not check their bodies.**  A loop over the list enters the function with the index, a
number, for the string. -/
theorem loop_bodies_unchecked :
    let m := Machine.offering echo
    let parameters := firstParameters echo [.ofNat 0, .empty]
    entryLoop (.ofHost .complaining 1) (.object ⟨2⟩) (.object ⟨1⟩) m =
        (Engine.ofHost .complaining 1).enter echo parameters
          (some (.entries #[.ofNat 0] #[.empty] 0)) m ∧
      ¬ m.Suits echo parameters := by
  refine ⟨rfl, fun suits => ?_⟩
  have first : (firstParameters echo [.ofNat 0, .empty])[0]? = some (.ofNat 0) := by
    simp [firstParameters, echo, FunctionFacet.ofStub, Stub.blank, Stub.arity]
  cases suits _ rfl 0 "x" (.ofNat 0) BuiltinType.string.id rfl (by decide) rfl first

end StubMachine
