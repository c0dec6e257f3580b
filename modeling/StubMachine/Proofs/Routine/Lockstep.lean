import StubMachine.Proofs.Raising

/-!
# Laws

A `Law` relates the state after an action to the state before, for states of a certain
kind.  It is one that the elementary actions obey and that survives sequencing.
**Whatever law the requests of a routine obey, the routine obeys**
(`Routine.admitted`).

The same induction compares two engines.  If they carry out requests alike in states of
the kind in question, and the law keeps the run in such states, a routine cannot tell
them apart: it ends with the same outcome with either.

A law need not put up with everything that a routine may be licensed to do.  One that
does not mind how the store changes is **lenient** (`Law.Lenient`), and then nothing is
asked of a routine's license; of any other law it has to be shown that it admits what the
license allows (`Law.Admits`).
-/

namespace StubMachine

open StubMachine.Action

/-- A law for actions of each rank. -/
structure Law where
  /-- The states that the law is about. -/
  Holds : Machine → Prop
  /-- What is between the states before and after. -/
  Rel : Rank → Machine → Machine → Prop
  holds {r : Rank} {m m' : Machine} : Holds m → Rel r m m' → Holds m'
  refl (r : Rank) (m : Machine) : Rel r m m
  trans {r : Rank} {m m₁ m₂ : Machine} : Rel r m m₁ → Rel r m₁ m₂ → Rel r m m₂
  /-- What native functions may do, all may do. -/
  ofNative {r : Rank} {m m' : Machine} : Rel .native m m' → Rel r m m'
  ofInstruction {i : Nat} {m m' : Machine} : Rel (.instruction i) m m' → Rel (.activation i) m m'
  stored {m m' : Machine} : m.Stored m' → Rel .native m m'
  signalled (m : Machine) (kind : CatchableKind) (payload : Value) :
    Rel .native m (m.signalled kind payload)
  quieted (m : Machine) : Rel .native m m.quieted
  reported (m : Machine) (c : Catchable) : m.reentry = 0 → Rel .native m (m.reported c)
  frame (m : Machine) (i : Nat) (f : Frame → Frame) : (∀ fr : Frame, fr.Advanced (f fr)) →
    Rel (.instruction i) m { m with frames := m.frames.modify i f }
  reframe (m : Machine) (i : Nat) (f : Frame → Frame) : (∀ fr : Frame, fr.Progressed (f fr)) →
    Rel (.activation i) m { m with frames := m.frames.modify i f }

/-- A law that does not mind how the store changes. -/
class Law.Lenient (L : Law) : Prop where
  course {m m' : Machine} : m.SameCourse m' → L.Rel .native m m'

namespace Law
variable {L : Law} {r : Rank} {α β : Type}

/-- **Two actions in step**: from every state that the law is about they do the same, and the
first obeys the law. -/
def Lockstep (L : Law) (r : Rank) (x x' : Action α) : Prop :=
  ∀ m, L.Holds m → x' m = x m ∧ L.Rel r m (x.after m)

namespace Lockstep

/-- Actions that are one and the same. -/
theorem of_rel {x : Action α} (h : ∀ m, L.Rel r m (x.after m)) : L.Lockstep r x x :=
  fun m _ => ⟨rfl, h m⟩

theorem bind {x x' : Action α} {k k' : α → Action β} (hx : L.Lockstep r x x')
    (hk : ∀ a, L.Lockstep r (k a) (k' a)) : L.Lockstep r (x >>= k) (x' >>= k') := by
  intro m hm
  obtain ⟨same, rel⟩ := hx m hm
  rw [Action.after] at rel ⊢
  rw [Action.bind_eq, Action.bind_eq, same]
  cases run : x m with
  | ok a m₁ =>
    rw [run] at rel
    obtain ⟨same', rel'⟩ := hk a m₁ (L.holds hm rel)
    exact ⟨same', L.trans rel rel'⟩
  | error failure m₁ =>
    rw [run] at rel
    exact ⟨rfl, rel⟩

theorem ofNative {x x' : Action α} (h : L.Lockstep .native x x') : L.Lockstep r x x' :=
  fun m hm => ⟨(h m hm).1, L.ofNative (h m hm).2⟩

theorem raiseError (detail : Value) :
    L.Lockstep r (Action.raiseError detail : Action α) (Action.raiseError detail) := by
  refine of_rel fun m => L.ofNative ?_
  obtain ⟨o, m', same, run⟩ := raiseError_eq (α := α) detail m
  rw [Action.after, run]
  exact L.trans (L.stored same.stored) (L.signalled m' _ _)

theorem listen {e e' : Engine}
    (called : ∀ f args, L.Lockstep .native (e.call f args) (e'.call f args))
    (function response : Value) :
    L.Lockstep r (StubMachine.listen e function response)
      (StubMachine.listen e' function response) := by
  intro m hm
  obtain ⟨same, rel⟩ := called function [] m hm
  constructor
  · -- The engines are asked for the handler in the same state, if at all.
    rw [StubMachine.listen, StubMachine.listen, same]
    split
    · rename_i m' run
      rw [Action.after, run] at rel
      split
      · rename_i c onWay
        show respond e' response c m'.quieted = respond e response c m'.quieted
        have taken : L.Holds m'.quieted := L.holds (L.holds hm rel) (L.quieted m')
        rw [respond_eq, respond_eq]
        cases handler? m'.quieted response c.kind with
        | some handler => exact (called handler _ _ taken).1
        | none => rfl
      · rfl
    · rfl
  · refine L.ofNative ?_
    rw [Action.after] at rel ⊢
    rcases listen_cases e function response m with eq | ⟨m', c, run, -, outcome⟩
    · rw [eq]
      exact rel
    rw [run] at rel
    have taken : L.Rel .native m m'.quieted := L.trans rel (L.quieted m')
    rcases outcome with ⟨handler, eq⟩ | eq
    · rw [eq]
      exact L.trans taken (called handler [("message", c.payload)] _ (L.holds hm taken)).2
    · rw [eq]
      exact taken

theorem attempt {x x' : Action Value} (hx : L.Lockstep .native x x') :
    L.Lockstep r (tryCatch x raiseFailure) (tryCatch x' raiseFailure) := by
  intro m hm
  obtain ⟨same, rel⟩ := hx m hm
  rw [Action.after] at rel ⊢
  rw [Action.tryCatch_eq, Action.tryCatch_eq, same]
  refine ⟨rfl, L.ofNative ?_⟩
  cases run : x m with
  | ok v m' =>
    rw [run] at rel
    exact rel
  | error failure m' =>
    rw [run] at rel
    dsimp only
    -- what is caught is raised once more, in the machine that the failure has left
    rcases raiseFailure_eq failure m' with eq | ⟨detail, eq⟩
    · rw [eq]
      exact rel
    · rw [eq]
      have raised := raiseError (L := L) (r := .native) (α := Value) detail m' (L.holds hm rel)
      exact L.trans rel raised.2

theorem settle {x x' : Action Value} (hx : L.Lockstep .native x x') :
    L.Lockstep .native (StubMachine.settle x) (StubMachine.settle x') := by
  intro m hm
  obtain ⟨same, rel⟩ := hx m hm
  refine ⟨by rw [StubMachine.settle, StubMachine.settle, same], ?_⟩
  rw [Action.after] at rel ⊢
  rcases settle_cases x m with eq | ⟨failure, m', run, idle, outcome⟩
  · rw [eq]
    exact rel
  rw [run] at rel
  rcases outcome with ⟨c, -, -, -, eq⟩ | ⟨c, -, -, -, eq⟩ | ⟨-, eq⟩
  · rw [eq]
    exact L.trans rel (L.quieted m')
  · rw [eq]
    exact L.trans rel (L.reported m' c idle)
  · rw [eq]
    exact L.trans rel (L.quieted m')

/-- Actions that have nothing but the course of the run to keep. -/
theorem of_course [L.Lenient] {x : Action α} (h : ∀ m : Machine, m.SameCourse (x.after m)) :
    L.Lockstep r x x :=
  of_rel fun m => L.ofNative (Lenient.course (h m))

theorem read {γ : Type} (f : Machine → γ) : L.Lockstep r (Action.read f) (Action.read f) :=
  of_rel fun m => L.refl r m

theorem writeReferrable [L.Lenient] (i slot : Nat) (v : Value) :
    L.Lockstep r (StubMachine.writeReferrable i slot v)
      (StubMachine.writeReferrable i slot v) := by
  refine .bind (.read _) fun site? => ?_
  cases site? with
  | some site => exact .of_course fun m => .stored rfl
  | none => exact .raiseError _

theorem makeClosure [L.Lenient] (i : Nat) (id : UInt32) (types : Option (Array TypeId)) :
    L.Lockstep r (StubMachine.makeClosure i id types) (StubMachine.makeClosure i id types) := by
  refine .bind (.read _) fun stub? => ?_
  cases stub? with
  | none => exact .raiseError _
  | some stub =>
    refine .bind (.read _) fun frame => .bind (.read _) fun captures? => ?_
    cases captures? with
    | error cause => exact .of_rel fun m => L.refl r m
    | ok captures => exact .of_course fun m => .stored rfl

end Lockstep

/-- **What a license allows is admitted by the law**, with two engines. -/
structure Admits (L : Law) (P : License) (e e' : Engine) : Prop where
  fuel : e'.fuel = e.fuel
  called (function : Value) (arguments : Arguments) (binding : Option Value) :
    L.Lockstep .native (e.callBound function arguments binding)
      (e'.callBound function arguments binding)
  foreign (x : Procedure Value) : P.foreign x → L.Lockstep .native (x e) (x e')
  meddling : P.meddling → L.Lenient
  entered (f : FunctionFacet) (parameters : Array Value) (restart : Option Restart) :
    P.entering f → L.Lockstep .native (e.enter f parameters restart) (e'.enter f parameters restart)
  assigned (i slot : Nat) (v : Value) : P.assigning i slot →
    L.Lockstep (.instruction i) (writeReferrable i slot v) (writeReferrable i slot v)
  closed (i : Nat) (id : UInt32) (types : Option (Array TypeId)) :
    L.Lockstep (.instruction i) (makeClosure i id types) (makeClosure i id types)

/-- A lenient law admits everything, if requests and what is left to the embedder obey it. -/
theorem Lenient.admits [lenient : L.Lenient] {P : License} {e e' : Engine}
    (fuel : e'.fuel = e.fuel) (requests : ∀ q, L.Lockstep .native (e.perform q) (e'.perform q))
    (foreign : ∀ x, P.foreign x → L.Lockstep .native (x e) (x e')) : L.Admits P e e' where
  fuel := fuel
  called _ _ _ := requests _
  foreign := foreign
  meddling _ := lenient
  entered _ _ _ _ := requests _
  assigned _ _ _ _ := .writeReferrable _ _ _
  closed _ _ _ := .makeClosure _ _ _

end Law

/-- **A routine obeys the law if the law admits what it is allowed**, and does the same with
two engines that carry out requests alike. -/
theorem Routine.admitted {L : Law} {P : License} {e e' : Engine} (admits : L.Admits P e e')
    {r : Rank} {α : Type} {x : Procedure α} (h : Routine P r x) : L.Lockstep r (x e) (x e') := by
  induction h with
  | pure a => exact .of_rel fun m => L.refl _ m
  | bind _ _ ihx ihk => exact .bind ihx ihk
  | read f => exact .read f
  | fuel _ ih =>
    dsimp only
    rw [admits.fuel]
    exact ih e.fuel
  | store f stored => exact .of_rel fun m => L.ofNative (L.stored (stored m))
  | meddle f same allowed =>
    have lenient := admits.meddling allowed
    exact .of_course same
  | raiseError detail => exact .raiseError detail
  | raiseSend payload => exact .of_rel fun m => L.ofNative (L.signalled m _ _)
  | fatal cause => exact .of_rel fun m => L.refl _ m
  | exhausted => exact .of_rel fun m => L.refl _ m
  | callBound function arguments binding => exact .ofNative (admits.called _ _ _)
  | enter f parameters restart allowed => exact .ofNative (admits.entered _ _ _ allowed)
  | listen function response => exact .listen (fun _ _ => admits.called _ _ _) function response
  | attempt _ ih => exact .attempt ih
  | fault f => exact .of_rel fun m => L.refl _ m
  | settle _ ih => exact .settle ih
  | foreign hx => exact admits.foreign _ hx
  | frame i f h => exact .of_rel fun m => L.frame m i f h
  | assign i slot v allowed => exact admits.assigned i slot v allowed
  | closure i id types => exact admits.closed i id types
  | within _ ih => exact fun m hm => ⟨(ih m hm).1, L.ofInstruction (ih m hm).2⟩
  | reframe i f h => exact .of_rel fun m => L.reframe m i f h

/-- **A routine obeys a lenient law if the requests it makes do.** -/
theorem Routine.lockstep {L : Law} [L.Lenient] {P : License} {e e' : Engine}
    (fuel : e'.fuel = e.fuel) (requests : ∀ q, L.Lockstep .native (e.perform q) (e'.perform q))
    (foreign : ∀ y, P.foreign y → L.Lockstep .native (y e) (y e'))
    {r : Rank} {α : Type} {x : Procedure α} (h : Routine P r x) : L.Lockstep r (x e) (x e') :=
  h.admitted (Law.Lenient.admits fuel requests foreign)

end StubMachine
