import StubMachine.Proofs.Coherence

/-!
# What listening promises

A function is called under a response.  **What listening does is settled by how that call
ends.**  If it has a result, or fails for good, then that is the outcome and no handler
is called.  If it raises, what was raised goes to the handler that the response has for
it, which is called once, with nothing pending and with the payload as its only
argument; its outcome is the outcome of the whole.  Without a handler a signal ends as
the payload that it carries, and an error is on its way again, the same as before, with
the file and the line of its first raising.

The handler is the entry `onSend` of the response, for errors and signals alike, and
without one the entry `onError`, for errors only; an entry that is Empty does not count
(`Machine.Handles`).

That a handler is not called, or called only once, is said by naming all requests that
are made and the states in which they are made (`OnlyAsks`): what an engine would do
with any other request makes no difference.
-/

namespace StubMachine

open StubMachine.Action

/-! ## Handlers -/

namespace Machine

/-- A response has an entry under a name that is not Empty. -/
def Offers (m : Machine) (response : Value) (name : String) (v : Value) : Prop :=
  ∃ o, response = .object o ∧ (m.object o).text? name = some v ∧ v ≠ .empty

/-- **The handler of a response** for what was raised. -/
inductive Handles (m : Machine) (response : Value) (kind : CatchableKind) (h : Value) : Prop
  | onSend (offered : m.Offers response "onSend" h)
  | onError (isError : kind = .error) (unanswered : ∀ v, ¬ m.Offers response "onSend" v)
      (offered : m.Offers response "onError" h)

/-- The entry under a name unless it is Empty. -/
theorem offers_object {m : Machine} {o : ObjectId} {name : String} {v : Value} :
    ((m.object o).text? name).bind Value.nonEmpty? = some v ↔ m.Offers (.object o) name v := by
  rw [Option.bind_eq_some_iff]
  constructor
  · rintro ⟨w, held, shown⟩
    cases w with
    | empty => exact nomatch shown
    | _ => cases shown; exact ⟨o, rfl, held, Value.noConfusion⟩
  · rintro ⟨_, ⟨⟩, held, ne⟩
    refine ⟨v, held, ?_⟩
    cases v with
    | empty => exact absurd rfl ne
    | _ => rfl

/-- **The machine finds the handler that the response has.** -/
theorem handler_eq_some_iff {m : Machine} {response h : Value} {kind : CatchableKind} :
    handler? m response kind = some h ↔ m.Handles response kind h := by
  cases response with
  | object o =>
    simp only [handler?]
    cases onSend : ((m.object o).text? "onSend").bind Value.nonEmpty? with
    | some v =>
      have offered := offers_object.mp onSend
      constructor
      · rintro ⟨⟩
        exact .onSend offered
      · intro handles
        cases handles with
        | onSend offered' => exact (offers_object.mpr offered' ▸ onSend.symm :)
        | onError _ unanswered _ => exact absurd offered (unanswered v)
    | none =>
      have unanswered (v : Value) : ¬ m.Offers (.object o) "onSend" v :=
        fun offered => nomatch onSend.symm.trans (offers_object.mpr offered)
      rw [Option.none_or]
      constructor
      · intro found
        split at found
        · exact .onError ‹_› unanswered (offers_object.mp found)
        · exact nomatch found
      · intro handles
        cases handles with
        | onSend offered => exact absurd offered (unanswered h)
        | onError isError _ offered => rw [if_pos isError, offers_object.mpr offered]
  | _ =>
    -- Only objects have entries.
    constructor
    · intro found
      cases found
    · rintro (⟨_, ⟨⟩, _⟩ | ⟨_, _, _, ⟨⟩, _⟩)

end Machine

/-! ## Listening -/

/-- **The requests that are asked.**  The outcome of the procedure from a state depends on these
requests, in these states, and on no others. -/
def OnlyAsks {α : Type} (x : Procedure α) (e : Engine) (m : Machine)
    (asked : List (Request × Machine)) : Prop :=
  ∀ e' : Engine, (∀ q ∈ asked, e'.perform q.1 q.2 = e.perform q.1 q.2) → x e' m = x e m

section Listen
variable {e : Engine} {function response : Value} {m m' : Machine}

/-- If the function does not raise, it alone is asked. -/
theorem listen_asks_function (quiet : ∀ m', e.call function [] m ≠ .error .unwinding m') :
    OnlyAsks (fun e => listen e function response) e m [(.call function [] none, m)] := by
  intro e' alike
  have same : e'.call function [] m = e.call function [] m := alike _ List.mem_cons_self
  show listen e' function response m = listen e function response m
  cases run : e.call function [] m with
  | ok v m' => rw [listen_ok run, listen_ok (same.trans run)]
  | error failure m' =>
    have ne : failure ≠ .unwinding := fun eq => quiet m' (eq ▸ run)
    rw [listen_failure run ne, listen_failure (same.trans run) ne]

/-- If it raises, the handler is asked as well, with nothing pending. -/
theorem listen_asks_handler {c : Catchable} {h : Value}
    (run : e.call function [] m = .error .unwinding m') (onWay : m'.pending = some c)
    (found : handler? m'.quieted response c.kind = some h) :
    listen e function response m = e.call h [("message", c.payload)] m'.quieted ∧
      OnlyAsks (fun e => listen e function response) e m
        [(.call function [] none, m), (.call h [("message", c.payload)] none, m'.quieted)] := by
  have outcome {e : Engine} (run : e.call function [] m = .error .unwinding m') :
      listen e function response m = e.call h [("message", c.payload)] m'.quieted := by
    rw [listen_unwinding run onWay, respond_eq, found]
  refine ⟨outcome run, fun e' alike => ?_⟩
  have same : e'.call function [] m = e.call function [] m := alike _ List.mem_cons_self
  show listen e' function response m = listen e function response m
  rw [outcome run, outcome (same.trans run)]
  exact alike _ (List.mem_cons_of_mem _ List.mem_cons_self)

/-- Without a handler nothing else is asked, and what was raised decides the outcome. -/
theorem listen_without_handler {c : Catchable}
    (run : e.call function [] m = .error .unwinding m') (onWay : m'.pending = some c)
    (unhandled : handler? m'.quieted response c.kind = none) :
    listen e function response m =
        (match c.kind with
        | .send => .ok c.payload m'.quieted
        | .error => .error .unwinding m') ∧
      OnlyAsks (fun e => listen e function response) e m [(.call function [] none, m)] := by
  have outcome {e : Engine} (run : e.call function [] m = .error .unwinding m') :
      listen e function response m =
        match c.kind with
        | .send => .ok c.payload m'.quieted
        | .error => .error .unwinding m' := by
    rw [listen_unwinding run onWay, respond_eq, unhandled]
    cases c.kind with
    | send => rfl
    | error => exact congrArg _ (Machine.quieted_rearmed onWay)
  refine ⟨outcome run, fun e' alike => ?_⟩
  have same : e'.call function [] m = e.call function [] m := alike _ List.mem_cons_self
  show listen e' function response m = listen e function response m
  rw [outcome run, outcome (same.trans run)]

end Listen

/-- **The contract of listening.** -/
theorem listen_contract {host : Host} (wellBehaved : host.WellBehaved) (fuel : Nat)
    (function response : Value) {m : Machine} (quiet : m.pending = none) :
    let e := Engine.ofHost host fuel
    let listening : Procedure Value := fun e => listen e function response
    -- The function has a result.
    (∀ v m', e.call function [] m = .ok v m' →
      listening e m = .ok v m' ∧ m'.pending = none ∧
        OnlyAsks listening e m [(.call function [] none, m)]) ∧
    -- It fails for good.
    (∀ cause m', e.call function [] m = .error (.fatal cause) m' →
      listening e m = .error (.fatal cause) m' ∧ m'.pending = none ∧
        OnlyAsks listening e m [(.call function [] none, m)]) ∧
    -- It raises.
    (∀ m', e.call function [] m = .error .unwinding m' → ∃ c, m'.pending = some c ∧
      (∀ h, m'.Handles response c.kind h →
        listening e m = e.call h [("message", c.payload)] m'.quieted ∧
          OnlyAsks listening e m [(.call function [] none, m),
            (.call h [("message", c.payload)] none, m'.quieted)]) ∧
      ((∀ h, ¬ m'.Handles response c.kind h) →
        (c.kind = .send → listening e m = .ok c.payload m'.quieted) ∧
          (c.kind = .error → listening e m = .error .unwinding m') ∧
            OnlyAsks listening e m [(.call function [] none, m)])) ∧
    -- There is no other way for it to end.
    ∀ failure m', e.call function [] m = .error failure m' →
      failure = .unwinding ∨ (∃ cause, failure = .fatal cause) ∨ failure = .exhausted := by
  intro e listening
  have coherent : Coherent False (e.call function [] m) :=
    (perform_keeps wellBehaved fuel (.call function [] none) m quiet).1
  have sameHandler (m' : Machine) (c : Catchable) :
      handler? m'.quieted response c.kind = handler? m' response c.kind := rfl
  refine ⟨fun v m' run => ?_, fun cause m' run => ?_, fun m' run => ?_, fun failure m' run => ?_⟩
  · rw [run] at coherent
    exact ⟨listen_ok run, coherent,
      listen_asks_function fun _ raised => nomatch run.symm.trans raised⟩
  · rw [run] at coherent
    exact ⟨listen_failure run nofun, coherent,
      listen_asks_function fun _ raised => nomatch run.symm.trans raised⟩
  · rw [run] at coherent
    obtain ⟨c, onWay⟩ := coherent
    refine ⟨c, onWay, fun h handles => ?_, fun unoffered => ?_⟩
    · refine listen_asks_handler run onWay ?_
      rw [sameHandler, Machine.handler_eq_some_iff]
      exact handles
    · have unhandled : handler? m'.quieted response c.kind = .none := by
        refine Option.eq_none_iff_forall_ne_some.mpr fun h found => ?_
        rw [sameHandler, Machine.handler_eq_some_iff] at found
        exact unoffered h found
      obtain ⟨outcome, asked⟩ := listen_without_handler run onWay unhandled
      refine ⟨fun send => ?_, fun error => ?_, asked⟩
      · exact outcome.trans (by rw [send])
      · exact outcome.trans (by rw [error])
  · rw [run] at coherent
    cases failure with
    | unwinding => exact .inl rfl
    | fatal cause => exact .inr (.inl ⟨cause, rfl⟩)
    | exhausted => exact .inr (.inr rfl)
    | _ => exact coherent.1.elim

/-- Calling a number raises an error, and a response that is Empty leaves it on its way. -/
theorem listening_to_number :
    let e := Engine.ofHost .complaining 3
    ∃ m' c, listen e (.number 1.0) .empty (.initial .standard) = .error .unwinding m' ∧
      m'.pending = some c ∧ c.kind = .error := by
  intro e
  let m : Machine := .initial .standard
  have wellBehaved := Host.complaining_modest.wellBehaved
  have contract := listen_contract wellBehaved 3 (.number 1.0) .empty (m := m) rfl
  obtain ⟨m', c, called, onWay, isError⟩ := call_number_raises .complaining 2 1.0 m
  obtain ⟨c', onWay', -, without⟩ := contract.2.2.1 m' called
  have same : c' = c := Option.some.inj (onWay'.symm.trans onWay)
  refine ⟨m', c, (without fun h handles => ?_).2.1 (same ▸ isError), onWay, isError⟩
  -- Empty has no entries.
  rcases handles with ⟨_, ⟨⟩, _⟩ | ⟨_, _, _, ⟨⟩, _⟩

end StubMachine
