import StubMachine.Proofs.Embedder

/-!
# The outcome and what is pending agree

An error or a signal travels in two parts: the action that raised it ends as *unwinding*,
and what was raised is *pending* in the machine.  This module shows that the two never
disagree.  **From a state with nothing pending, every operation that returns ends with a
result and nothing pending, or unwinding with something pending, or with a fatal failure
and nothing pending**.

It also shows that nothing is raised over something that is pending already, so that no
error and no signal is ever overwritten.  The state keeps the list of all raisings, each
with what was pending just then (`Machine.raised`); what has to be shown is that an
operation adds to this list only raisings over nothing (`NothingLost`).

The functions of the embedder are assumed to keep to the same rules.  `Host.WellBehaved`
is about how they end, and that is enough for the first part.  For the second it is not:
a function may raise, ignore that, raise again and end as it should
(`exists_wellBehaved_not_careful`).  So there `Host.Careful` asks that such a function
loses nothing if the calls it makes lose nothing.  It is so for every function that uses
the machine only as the machine's own native functions do (`Host.Modest.careful`).
-/

namespace StubMachine

open StubMachine.Action

/-! ## What is to be shown -/

/-- **The outcome and what is pending agree.**  `faulty` says whether failures may occur that
are neither raised nor fatal; a run that used up its bound did not return, and nothing is
said about it. -/
def Coherent (faulty : Prop) {α : Type} : EStateM.Result Failure Machine α → Prop
  | .ok _ m => m.pending = none
  | .error failure m =>
    match failure with
    | .unwinding => ∃ c, m.pending = some c
    | .fatal _ => m.pending = none
    | .unhandled _ | .plain _ => faulty ∧ m.pending = none
    | .exhausted => True

/-- **Nothing was raised over something pending** between two states. -/
def NothingLost (m m' : Machine) : Prop :=
  ∃ raised, m'.raised = raised ++ m.raised ∧ ∀ r ∈ raised, r.previous = none

namespace NothingLost
variable {m m₁ m₂ : Machine}

theorem of_raised_eq (h : m₁.raised = m.raised) : NothingLost m m₁ :=
  ⟨[], h, fun _ hr => absurd hr List.not_mem_nil⟩

theorem trans (h : NothingLost m m₁) (h' : NothingLost m₁ m₂) : NothingLost m m₂ := by
  obtain ⟨raised, eq, alone⟩ := h
  obtain ⟨raised', eq', alone'⟩ := h'
  refine ⟨raised' ++ raised, by rw [eq', eq, List.append_assoc], fun r hr => ?_⟩
  cases List.mem_append.mp hr with
  | inl hr => exact alone' r hr
  | inr hr => exact alone r hr

theorem signalled (kind : CatchableKind) (payload : Value) (quiet : m.pending = none) :
    NothingLost m (m.signalled kind payload) := by
  refine ⟨[⟨m.catchable kind payload, m.pending⟩], rfl, fun r hr => ?_⟩
  cases List.mem_singleton.mp hr
  exact quiet

end NothingLost

/-- The requests of an engine lose nothing. -/
def Engine.LosesNothing (e : Engine) : Prop :=
  ∀ q m, m.pending = none → NothingLost m ((e.perform q).after m)

namespace Host
variable (host : Host)

/-- **Well-behaved functions of the embedder**: called with nothing pending, such a function
ends with a result and nothing pending, or unwinding with something pending, or with
another failure and nothing pending. -/
def WellBehaved : Prop :=
  ∀ fuel handle args m, m.pending = none →
    Coherent True (host.native handle (Engine.ofHost host fuel) args m)

/-- **Careful functions of the embedder**: such a function raises nothing over something
pending, if the calls that it makes do not. -/
def Careful : Prop :=
  ∀ fuel, (Engine.ofHost host fuel).LosesNothing → ∀ handle args m, m.pending = none →
    NothingLost m ((host.native handle (Engine.ofHost host fuel) args).after m)

end Host

/-! ## The elementary actions -/

/-- What is shown of an action, started with nothing pending. -/
def Keeps (careful faulty : Prop) {α : Type} (x : Action α) : Prop :=
  ∀ m, m.pending = none → Coherent faulty (x m) ∧ (careful → NothingLost m (x.after m))

/-- Whether routines of a rank may end with a failure that is neither raised nor fatal. -/
def Rank.faulty : Rank → Prop
  | native => True
  | _ => False

namespace Keeps
variable {careful faulty : Prop} {α β : Type}

/-- Actions with a result that leave what is pending and what was raised alone. -/
theorem of_quiet {x : Action α}
    (h : ∀ m, ∃ a m', x m = .ok a m' ∧ m'.pending = m.pending ∧ m'.raised = m.raised) :
    Keeps careful faulty x := by
  intro m quiet
  obtain ⟨a, m', run, pending, raised⟩ := h m
  rw [Action.after, run]
  exact ⟨pending.trans quiet, fun _ => .of_raised_eq raised⟩

theorem bind {x : Action α} {k : α → Action β} (hx : Keeps careful faulty x)
    (hk : ∀ a, Keeps careful faulty (k a)) : Keeps careful faulty (x >>= k) := by
  intro m quiet
  have hx := hx m quiet
  rw [Action.after, Action.bind_eq]
  rw [Action.after] at hx
  cases run : x m with
  | ok a m₁ =>
    rw [run] at hx
    have hk := hk a m₁ hx.1
    exact ⟨hk.1, fun c => (hx.2 c).trans (hk.2 c)⟩
  | error failure m₁ =>
    rw [run] at hx
    refine ⟨?_, hx.2⟩
    cases failure <;> exact hx.1

/-- A failure that does not touch the state. -/
theorem throw {failure : Failure} (h : ∀ m : Machine, m.pending = none →
      Coherent faulty (.error failure m : EStateM.Result Failure Machine α)) :
    Keeps careful faulty (throw failure : Action α) :=
  fun m quiet => ⟨h m quiet, fun _ => .of_raised_eq rfl⟩

theorem raiseError (detail : Value) :
    Keeps careful faulty (Action.raiseError detail : Action α) := by
  intro m quiet
  obtain ⟨o, m', same, run⟩ := raiseError_eq (α := α) detail m
  rw [Action.after, run]
  refine ⟨⟨_, rfl⟩, fun _ => ?_⟩
  exact (NothingLost.of_raised_eq same.raised).trans (.signalled _ _ (same.pending.trans quiet))

theorem raiseSend (payload : Value) :
    Keeps careful faulty (Action.raiseSend payload : Action α) :=
  fun _ quiet => ⟨⟨_, rfl⟩, fun _ => .signalled _ _ quiet⟩

theorem listen {e : Engine} (hcall : ∀ f args, Keeps careful faulty (e.call f args))
    (function response : Value) :
    Keeps careful faulty (StubMachine.listen e function response) := by
  intro m quiet
  have called := hcall function [] m quiet
  rw [Action.after] at called ⊢
  rcases listen_cases e function response m with eq | ⟨m', c, run, onWay, outcome⟩
  · rw [eq]
    exact called
  -- What was pending has been taken, and the handler starts with nothing pending.
  rw [run] at called
  have taken (c : careful) : NothingLost m m'.quieted := called.2 c
  rcases outcome with ⟨handler, eq⟩ | eq
  · rw [eq]
    have handled := hcall handler [("message", c.payload)] m'.quieted rfl
    exact ⟨handled.1, fun c => (taken c).trans (handled.2 c)⟩
  · rw [eq]
    exact ⟨rfl, taken⟩

theorem attempt {x : Action Value} (hx : Keeps careful True x) :
    Keeps careful faulty (tryCatch x raiseFailure) := by
  intro m quiet
  have hx := hx m quiet
  rw [Action.after] at hx ⊢
  rw [Action.tryCatch_eq]
  cases run : x m with
  | ok v m' =>
    rw [run] at hx
    exact hx
  | error failure m' =>
    rw [run] at hx
    -- A failure that is raised now came with nothing pending.
    have raised (detail : Value) (quiet' : m'.pending = none) :
        Coherent faulty ((Action.raiseError detail : Action Value) m') ∧
          (careful → NothingLost m ((Action.raiseError detail : Action Value).after m')) := by
      have h : Keeps careful faulty (Action.raiseError detail : Action Value) := .raiseError detail
      exact ⟨(h m' quiet').1, fun c => (hx.2 c).trans ((h m' quiet').2 c)⟩
    cases failure with
    | unwinding => exact hx
    | fatal cause => exact hx
    | exhausted => exact hx
    | unhandled error => exact raised _ hx.1.2
    | plain fault => exact raised _ hx.1.2

theorem settle {x : Action Value} (hx : Keeps careful True x) :
    Keeps careful True (StubMachine.settle x) := by
  intro m quiet
  have hx := hx m quiet
  rw [Action.after] at hx ⊢
  rcases settle_cases x m with eq | ⟨failure, m', run, idle, outcome⟩
  · rw [eq]
    exact hx
  rw [run] at hx
  rcases outcome with ⟨c, -, -, -, eq⟩ | ⟨c, -, -, -, eq⟩ | ⟨ne, eq⟩
  · rw [eq]
    exact ⟨rfl, hx.2⟩
  · rw [eq]
    exact ⟨⟨trivial, rfl⟩, hx.2⟩
  · rw [eq]
    refine ⟨?_, hx.2⟩
    cases failure with
    | unwinding => exact absurd rfl ne
    | exhausted => trivial
    | fatal cause => rfl
    | _ => exact ⟨trivial, rfl⟩

/-- Changing the state afterwards, in either case. -/
theorem finally_ {x : Action α} {f : Machine → Machine} (hx : Keeps careful faulty x)
    (pending : ∀ m, (f m).pending = m.pending) (raised : ∀ m, (f m).raised = m.raised) :
    Keeps careful faulty (Action.finally_ x f) := by
  intro m quiet
  have hx := hx m quiet
  rw [Action.after] at hx ⊢
  rw [Action.finally_]
  cases run : x m with
  | ok a m' =>
    rw [run] at hx
    exact ⟨(pending m').trans hx.1, fun c => (hx.2 c).trans (.of_raised_eq (raised m'))⟩
  | error failure m' =>
    rw [run] at hx
    refine ⟨?_, fun c => (hx.2 c).trans (.of_raised_eq (raised m'))⟩
    have coherent := hx.1
    cases failure <;> simp only [Coherent, pending] at coherent ⊢ <;> exact coherent

theorem read (f : Machine → α) : Keeps careful faulty (Action.read f) :=
  of_quiet fun m => ⟨_, m, rfl, rfl, rfl⟩

theorem pure (a : α) : Keeps careful faulty (Pure.pure a : Action α) :=
  of_quiet fun m => ⟨a, m, rfl, rfl, rfl⟩

theorem update {f : Machine → Machine} (pending : ∀ m, (f m).pending = m.pending)
    (raised : ∀ m, (f m).raised = m.raised) : Keeps careful faulty (Action.update f) :=
  of_quiet fun m => ⟨(), f m, rfl, pending m, raised m⟩

theorem updateFrame (i : Nat) (f : Frame → Frame) :
    Keeps careful faulty (Action.updateFrame i f) :=
  update (fun _ => rfl) fun _ => rfl

theorem writeReferrable (i slot : Nat) (v : Value) :
    Keeps careful faulty (StubMachine.writeReferrable i slot v) := by
  refine .bind (.read _) fun site? => ?_
  cases site? with
  | some site => exact .update (fun _ => rfl) fun _ => rfl
  | none => exact .raiseError _

theorem makeClosure (i : Nat) (id : UInt32) (types : Option (Array TypeId)) :
    Keeps careful faulty (StubMachine.makeClosure i id types) := by
  refine .bind (.read _) fun stub? => ?_
  cases stub? with
  | none => exact .raiseError _
  | some stub =>
    refine .bind (.read _) fun frame => .bind (.read _) fun captures? => ?_
    cases captures? with
    | error cause => exact .throw fun m quiet => quiet
    | ok captures => exact .of_quiet fun m => ⟨_, _, rfl, rfl, rfl⟩

end Keeps

/-! ## Every routine -/

section Run
variable {careful : Prop} {e : Engine}

/-- **A routine keeps to the rules if the requests it makes do**, and what it leaves to the
embedder does. -/
theorem Routine.keeps {P : License} {r : Rank} {α : Type} {x : Procedure α}
    (requests : ∀ q, Keeps careful False (e.perform q))
    (foreign : ∀ y, P.foreign y → Keeps careful True (y e)) (h : Routine P r x) :
    Keeps careful r.faulty (x e) := by
  have weaken {faulty : Prop} {β : Type} {y : Action β} (hy : Keeps careful False y) :
      Keeps careful faulty y := by
    intro m quiet
    refine ⟨?_, (hy m quiet).2⟩
    have coherent := (hy m quiet).1
    cases run : y m with
    | ok b m' => rw [run] at coherent; exact coherent
    | error failure m' =>
      rw [run] at coherent
      cases failure <;> first | exact coherent | exact coherent.1.elim
  induction h with
  | pure a => exact .pure a
  | bind _ _ ihx ihk => exact .bind ihx ihk
  | read f => exact .read f
  | fuel _ ih => exact ih e.fuel
  | store f stored => exact .update (fun m => (stored m).pending) fun m => (stored m).raised
  | meddle f same => exact .update (fun m => (same m).pending) fun m => (same m).raised
  | raiseError detail => exact .raiseError detail
  | raiseSend payload => exact .raiseSend payload
  | fatal cause => exact .throw fun m quiet => quiet
  | exhausted => exact .throw fun m quiet => trivial
  | callBound function arguments binding => exact weaken (requests _)
  | enter f parameters restart => exact weaken (requests _)
  | listen function response => exact .listen (fun f args => weaken (requests _)) function response
  | attempt _ ih => exact .attempt ih
  | fault f => exact .throw fun m quiet => ⟨trivial, quiet⟩
  | settle _ ih => exact .settle ih
  | foreign hx => exact foreign _ hx
  | frame i f _ => exact .updateFrame i f
  | assign i slot v => exact .writeReferrable i slot v
  | closure i id types => exact .makeClosure i id types
  | within _ ih => exact ih
  | reframe i f _ => exact .updateFrame i f

theorem withFrame_keeps {body : Nat → Action Value} (h : ∀ i, Keeps careful False (body i))
    (f : FunctionFacet) (parameters : Array Value) (restart : Option Restart) :
    Keeps careful False (withFrame f parameters restart body) := by
  intro m quiet
  rw [Action.after, withFrame_eq]
  split
  · exact Keeps.raiseError _ m quiet
  · have inside := Keeps.finally_ (f := Machine.popFrame) (h m.depth) (fun _ => rfl) fun _ => rfl
    exact inside (m.pushFrame f parameters restart) quiet

theorem underway_keeps {x : Action Value} (h : Keeps careful False x) :
    Keeps careful False (underway x) :=
  .bind (.update (fun _ => rfl) fun _ => rfl) fun _ => .finally_ h (fun _ => rfl) fun _ => rfl

/-- **Carrying out a request keeps to the rules**, however deep the requests nest, if the
functions of the embedder do as long as their own requests do.  The induction is on the
bound: a request is carried out by an engine with less of it. -/
theorem perform_keeps_of_natives {host : Host}
    (natives : ∀ fuel, (∀ q, Keeps careful False ((Engine.ofHost host fuel).perform q)) →
      ∀ handle args, Keeps careful True (host.native handle (Engine.ofHost host fuel) args))
    (fuel : Nat) (q : Request) : Keeps careful False (perform host fuel q) := by
  induction fuel generalizing q with
  | zero => exact .throw fun _ _ => trivial
  | succ fuel ih =>
    -- What native functions leave to the embedder is what its functions do.
    let P : License := .full fun y => ∃ handle args, y = fun e => host.native handle e args
    have kept {r : Rank} {x : Procedure Value} (h : Routine P r x) :
        Keeps careful r.faulty (x (Engine.ofHost host fuel)) := by
      refine h.keeps ih ?_
      rintro y ⟨handle, args, rfl⟩
      exact natives fuel ih handle args
    cases q with
    | call function arguments binding =>
      have routine : Routine P .operation fun e =>
          callValue host e function arguments binding :=
        callValue_routine (P := P) (fun handle args => ⟨handle, args, rfl⟩) (fun _ => trivial)
          function arguments binding
      exact underway_keeps (kept routine)
    | enter facet parameters restart =>
      refine withFrame_keeps (fun i => ?_) facet parameters restart
      exact kept (runFrame_routine (P := .full _) i fuel)

/-- Requests keep to the rules if the functions of the embedder are well-behaved, and those
about what is lost if they are careful. -/
theorem perform_keeps {host : Host} (wellBehaved : host.WellBehaved) (fuel : Nat) (q : Request) :
    Keeps host.Careful False (perform host fuel q) := by
  refine perform_keeps_of_natives (fun fuel requests handle args m quiet => ?_) fuel q
  refine ⟨wellBehaved fuel handle args m quiet, fun careful => ?_⟩
  exact careful fuel (fun q m quiet => (requests q m quiet).2 careful) handle args m quiet

end Run

/-! ## The operations -/

/-- What can be asked of a machine. -/
inductive Operation
  | call (function : Value) (arguments : Arguments) (binding : Option Value)
  | getMember (target key : Value) (a : Accessor)
  | setMember (target key v : Value) (a : Accessor)
  | binary (op : Operator) (l r : Value)
  | unary (op : Operator) (v : Value)
  | assign (a : Assignment) (current operand : Value)
  | asNumber (v : Value)
  | asString (v : Value)
  | asBoolean (v : Value)
  | convert (v : Value) (t : TypeId)
  | query (base : Value) (id : Nat)
  | keys (o : ObjectId)
  | values (o : ObjectId)

namespace Operation

/-- What an operation gives. -/
abbrev Result : Operation → Type
  | assign .. => Option Value
  | asNumber _ => Float
  | asString _ => String
  | asBoolean _ => Bool
  | keys _ | values _ => List Value
  | _ => Value

/-- Carry out an operation. -/
def run (e : Engine) : (op : Operation) → Action op.Result
  | call function arguments binding => e.perform (.call function arguments binding)
  | getMember target key a => StubMachine.getMember e target key a
  | setMember target key v a => StubMachine.setMember e target key v a
  | binary op l r => binaryOperation e op l r
  | unary op v => unaryOperation e op v
  | assign a current operand => compoundAssignment e a current operand
  | asNumber v => StubMachine.asNumber e v
  | asString v => StubMachine.asString e v
  | asBoolean v => StubMachine.asBoolean e v
  | convert v t => convertTo e v t
  | query base id => ask e base id
  | keys o => objectKeys e o
  | values o => objectValues e o

theorem run_routine {P : License} {r : Rank} (op : Operation) :
    Routine P r fun e => op.run e := by
  cases op with
  | call function arguments binding => exact .callBound _ _ _
  | getMember target key a => exact getMember_routine target key a
  | setMember target key v a => exact setMember_routine target key v a
  | binary op l r => exact binaryOperation_routine op l r
  | unary op v => exact unaryOperation_routine op v
  | assign a current operand => exact compoundAssignment_routine a current operand
  | asNumber v => exact asNumber_routine v
  | asString v => exact asString_routine v
  | asBoolean v => exact asBoolean_routine v
  | convert v t => exact convertTo_routine v t
  | query base id => exact ask_routine base id
  | keys o => exact objectKeys_routine o
  | values o => exact objectValues_routine o

end Operation

namespace Host

/-- Modest functions of the embedder keep to the rules. -/
theorem Modest.native_keeps {host : Host} (modest : host.Modest) (fuel handle : Nat)
    (args : Array Value) :
    Keeps True True (host.native handle (Engine.ofHost host fuel) args) := by
  have native (fuel : Nat)
      (requests : ∀ q, Keeps True False ((Engine.ofHost host fuel).perform q))
      (handle : Nat) (args : Array Value) :
      Keeps True True (host.native handle (Engine.ofHost host fuel) args) :=
    (modest handle args).keeps requests fun _ => False.elim
  exact native fuel (perform_keeps_of_natives native fuel) handle args

theorem Modest.wellBehaved {host : Host} (modest : host.Modest) : host.WellBehaved :=
  fun fuel handle args m quiet => (modest.native_keeps fuel handle args m quiet).1

/-- **Modest functions of the embedder are careful.** -/
theorem Modest.careful {host : Host} (modest : host.Modest) : host.Careful :=
  fun fuel _ handle args m quiet => (modest.native_keeps fuel handle args m quiet).2 trivial

/-- An embedder whose functions raise twice. -/
def rash : Host where
  fetch := complaining.fetch
  random := complaining.random
  native _ _ _ := do
    signal .error .empty
    raiseSend .empty

end Host

/-- **Ending well is not enough to lose nothing**: a function that raises twice ends
unwinding with something pending, but what it raised first is gone. -/
theorem exists_wellBehaved_not_careful : ∃ host : Host, host.WellBehaved ∧ ¬ host.Careful := by
  refine ⟨.rash, fun fuel handle args m quiet => ⟨_, rfl⟩, fun careful => ?_⟩
  have idle : (Engine.ofHost .rash 0).LosesNothing := fun q m quiet => .of_raised_eq rfl
  let m : Machine := .initial .standard
  obtain ⟨raised, eq, alone⟩ := careful 0 idle 0 #[] m rfl
  let m₁ := m.signalled .error .empty
  -- The second raising is over the first.
  have two : [⟨m₁.catchable .send .empty, some (m.catchable .error .empty)⟩,
      ⟨m.catchable .error .empty, none⟩] = raised ++ [] := eq
  rw [List.append_nil] at two
  have lost := alone _ (two ▸ List.mem_cons_self)
  exact Option.some_ne_none _ lost

end StubMachine
