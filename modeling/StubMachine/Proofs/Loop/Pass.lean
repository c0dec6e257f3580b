import StubMachine.Proofs.Calling
import StubMachine.Proofs.Sharing

/-!
# Passes of a loop

A loop is not a construct of the machine.  There is only a frame that starts over when it
runs off the end of its code, and so a loop is a succession of **passes**: each of them
executes instructions until the code is at its end, or until one of them returns or fails
(`Pass`).

`Begun` says which passes are over, and in which state the next one begins; the passes that
are over all ran off the end.  A loop ends in one of four ways (`Closes`).  **The run of a
frame is nothing but this**: a run that is not cut off is the succession of its passes
(`concludes_of_genuine`), and every succession of passes for which there is enough fuel is a
run (`Concludes.run`).
-/

namespace StubMachine

open StubMachine.Action

/-! ## One pass -/

/-- How a pass ends. -/
inductive PassEnd
  | fallsOff
  | returns (v : Value)
  | fails (failure : Failure)

/-- The state in which the next instruction of a frame has been fetched. -/
def Machine.fetched (m : Machine) (i : Nat) : Machine :=
  { m with frames := m.frames.modify i fun f => { f with pc := f.pc + 1 } }

/-- **A pass** of the frame at a place, with the number of instructions that are executed before
the step that ends it. -/
inductive Pass (e : Engine) (i : Nat) : Machine → Nat → PassEnd → Machine → Prop
  | fallsOff {m : Machine} :
      (m.frame i).stub.code[(m.frame i).pc]? = none → Pass e i m 0 .fallsOff m
  | returns {m : Machine} {ins : Instruction} :
      (m.frame i).stub.code[(m.frame i).pc]? = some ins →
      Opcode.ofByte? ins.opcode = some .return_ →
      Pass e i m 0 (.returns ((m.frame i).stack.headD .empty)) (m.fetched i)
  | fails {m m' : Machine} {ins : Instruction} {failure : Failure} :
      (m.frame i).stub.code[(m.frame i).pc]? = some ins →
      step e i ins (m.fetched i) = .error failure m' → Pass e i m 0 (.fails failure) m'
  | next {m m₁ m' : Machine} {ins : Instruction} {k : Nat} {ending : PassEnd} :
      (m.frame i).stub.code[(m.frame i).pc]? = some ins →
      step e i ins (m.fetched i) = .ok .next m₁ → Pass e i m₁ k ending m' →
      Pass e i m (k + 1) ending m'

/-! ## Successions of passes -/

/-- The states in which a pass began and ran off the end. -/
structure Turn where
  start : Machine
  finish : Machine

/-- **A pass begins**, after so many steps and after certain others, in a state: the first one as
the frame was entered, and each other when the frame has been started over. -/
inductive Begun (e : Engine) (i : Nat) (m : Machine) : Nat → List Turn → Machine → Prop
  | first : Begun e i m 0 [] m
  | again {n k : Nat} {turns : List Turn} {m₁ m₂ m₃ : Machine} :
      Begun e i m n turns m₁ → Pass e i m₁ k .fallsOff m₂ → startOver e i m₂ = .ok true m₃ →
      Begun e i m (n + k + 1) (turns ++ [⟨m₁, m₂⟩]) m₃

/-- **How the end of a pass ends the whole**, and with which outcome. -/
inductive Closes (e : Engine) (i : Nat) : PassEnd → Machine → Outcome Value → Prop
  | ends {m m' : Machine} : startOver e i m = .ok false m' →
      Closes e i .fallsOff m (.ok .empty m')
  | breaks {m m' : Machine} {failure : Failure} : startOver e i m = .error failure m' →
      Closes e i .fallsOff m (.error failure m')
  | returns (v : Value) (m : Machine) : Closes e i (.returns v) m (.ok v m)
  | fails (failure : Failure) (m : Machine) : Closes e i (.fails failure) m (.error failure m)

/-- **The passes of a frame come to an end**, after so many steps at most, with an outcome. -/
structure Concludes (e : Engine) (i : Nat) (m : Machine) (bound : Nat) (turns : List Turn)
    (m₁ : Machine) (ending : PassEnd) (m₂ : Machine) (r : Outcome Value) : Prop where
  begun : ∃ n k, Begun e i m n turns m₁ ∧ Pass e i m₁ k ending m₂ ∧ n + k < bound
  closes : Closes e i ending m₂ r

/-! ## The steps of a pass -/

section Steps
variable {e : Engine} {i : Nat} {m m' : Machine}

theorem pushResult_ne_done (x : Action Value) (v : Value) :
    pushResult i x m ≠ .ok (.done v) m' := by
  intro done
  rw [pushResult, Action.bind_eq] at done
  cases run : x m with
  | error failure m₁ =>
    rw [run] at done
    cases done
  | ok w m₁ =>
    rw [run] at done
    cases done

/-- What goes on after an action is not done with it. -/
theorem bind_next_ne_done {α : Type} (x : Action α) {k : α → Action Flow}
    (next : ∀ a m₁ v, k a m₁ ≠ .ok (.done v) m') (v : Value) : (x >>= k) m ≠ .ok (.done v) m' := by
  intro done
  rw [Action.bind_eq] at done
  cases run : x m with
  | error failure m₁ =>
    rw [run] at done
    cases done
  | ok a m₁ =>
    rw [run] at done
    exact next a m₁ v done

theorem return_next_ne_done (v : Value) : (return .next : Action Flow) m ≠ .ok (.done v) m' := by
  rintro ⟨⟩

theorem skipWhen_ne_done (truth : Bool) (count : Nat) (v : Value) :
    skipWhen e i truth count m ≠ .ok (.done v) m' := by
  refine bind_next_ne_done _ (fun top m₁ v => ?_) v
  refine bind_next_ne_done _ (fun b m₁ v => ?_) v
  split
  · exact bind_next_ne_done _ (fun _ _ => return_next_ne_done) v
  · exact bind_next_ne_done _ (fun _ _ => return_next_ne_done) v

/-- **Only one instruction returns**, and what it returns is on top of the value stack. -/
theorem step_done {ins : Instruction} {v : Value} (done : step e i ins m = .ok (.done v) m') :
    Opcode.ofByte? ins.opcode = some .return_ ∧ v = (m.frame i).stack.headD .empty ∧ m' = m := by
  rw [step] at done
  cases known : Opcode.ofByte? ins.opcode with
  | none =>
    rw [known] at done
    exact absurd done (raise_ne_ok _ _ _ _)
  | some op =>
    rw [known] at done
    cases op with
    | return_ =>
      cases done
      exact ⟨rfl, rfl, rfl⟩
    | nop => cases done
    | discard => exact absurd done (bind_next_ne_done _ (fun _ _ => return_next_ne_done) v)
    | skip => exact absurd done (bind_next_ne_done _ (fun _ _ => return_next_ne_done) v)
    | skipIfFalse =>
      refine absurd done (bind_next_ne_done _ (fun top m₁ v => ?_) v)
      refine bind_next_ne_done _ (fun b m₁ v => ?_) v
      split
      · exact bind_next_ne_done _ (fun _ _ => return_next_ne_done) v
      · exact return_next_ne_done v
    | skipUnlessTrue => exact absurd done (skipWhen_ne_done _ _ v)
    | skipUnlessFalse => exact absurd done (skipWhen_ne_done _ _ v)
    | _ => exact absurd done (pushResult_ne_done _ v)

end Steps

/-! ## The run of a frame -/

/-- What follows the end of a pass. -/
def PassEnd.resume (e : Engine) (i steps : Nat) : PassEnd → Action Value
  | .fallsOff => do if ← startOver e i then runFrame e i steps else return .empty
  | .returns v => return v
  | .fails failure => throw failure

section Runs
variable {e : Engine} {i : Nat} {m m₁ m₂ m₃ : Machine} {n k steps : Nat} {turns : List Turn}
  {ending : PassEnd} {r : Outcome Value}

/-- A frame at the end of its code is started over or left. -/
theorem runFrame_end (next : (m.frame i).stub.code[(m.frame i).pc]? = none) (steps : Nat) :
    runFrame e i (steps + 1) m = PassEnd.fallsOff.resume e i steps m := by
  rw [runFrame_succ, Action.bind_eq, proceed_end _ next, PassEnd.resume, Action.bind_eq,
    Action.bind_eq]
  cases startOver e i m with
  | error failure m₁ => rfl
  | ok again m₁ =>
    cases again with
    | true => rfl
    | false => rfl

/-- **A run that begins with a pass** goes on with what follows its end. -/
theorem Pass.run (pass : Pass e i m k ending m₁) (steps : Nat) :
    runFrame e i (k + 1 + steps) m = ending.resume e i steps m₁ := by
  induction pass with
  | fallsOff next =>
    rw [Nat.add_comm]
    exact runFrame_end next _
  | @returns m ins next ret =>
    have done : proceed e i m = .ok (.done ((m.frame i).stack.headD .empty)) (m.fetched i) := by
      rw [proceed_instruction e next, step, ret]
      show EStateM.Result.ok (Flow.done (((m.fetched i).frame i).stack.headD .empty)) _ = _
      have stack : ((m.fetched i).frame i).stack = (m.frame i).stack := by
        rw [Machine.fetched, Machine.frame_modify]
        split <;> rfl
      rw [stack]
      rfl
    rw [Nat.add_comm, Nat.add_zero, runFrame_succ, Action.bind_ok done]
    rfl
  | fails next failed =>
    rw [Nat.add_comm, Nat.add_zero, runFrame_succ,
      Action.bind_error ((proceed_instruction e next).trans failed)]
    rfl
  | @next _ _ _ _ k _ next ran _ ih =>
    rw [← ih, show k + 1 + 1 + steps = k + 1 + steps + 1 by omega]
    exact runFrame_next ((proceed_instruction e next).trans ran) _

/-- **A run goes through the passes that are over.** -/
theorem Begun.run (begun : Begun e i m n turns m₁) (steps : Nat) :
    runFrame e i (n + steps) m = runFrame e i steps m₁ := by
  induction begun generalizing steps with
  | first => rw [Nat.zero_add]
  | @again n k _ _ _ _ _ pass again ih =>
    rw [show n + k + 1 + steps = n + (k + 1 + steps) by omega, ih, pass.run, PassEnd.resume,
      Action.bind_ok again]
    rfl

/-- What follows the end of the last pass. -/
theorem Closes.resume (closes : Closes e i ending m r) (steps : Nat) :
    ending.resume e i steps m = r := by
  cases closes with
  | ends ended => rw [PassEnd.resume, Action.bind_ok ended]; rfl
  | breaks failed => rw [PassEnd.resume, Action.bind_error failed]
  | returns v => rfl
  | fails failure => rfl

theorem Closes.of_returns {v : Value} (closes : Closes e i (.returns v) m r) : r = .ok v m := by
  cases closes
  rfl

theorem Closes.of_fails {failure : Failure} (closes : Closes e i (.fails failure) m r) :
    r = .error failure m := by
  cases closes
  rfl

/-- **Passes that come to an end are a run.** -/
theorem Concludes.run (h : Concludes e i m steps turns m₁ ending m₂ r) :
    runFrame e i steps m = r := by
  obtain ⟨⟨n, k, begun, pass, enough⟩, closes⟩ := h
  obtain ⟨rest, rfl⟩ : ∃ rest, steps = n + (k + 1 + rest) := ⟨steps - (n + k + 1), by omega⟩
  rw [begun.run, pass.run, closes.resume]

/-- A succession of passes may be preceded by another pass. -/
theorem Begun.cons (pass : Pass e i m k .fallsOff m₁) (again : startOver e i m₁ = .ok true m₂)
    (begun : Begun e i m₂ n turns m₃) : Begun e i m (k + 1 + n) (⟨m, m₁⟩ :: turns) m₃ := by
  induction begun with
  | first =>
    have once := Begun.first.again pass again
    rwa [Nat.zero_add] at once
  | @again n l _ _ _ _ _ next ended ih =>
    rw [show k + 1 + (n + l + 1) = k + 1 + n + l + 1 by omega]
    exact ih.again next ended

/-- **A run that is not cut off begins with a pass.** -/
theorem pass_of_genuine (genuine : Outcome.Genuine (runFrame e i steps m)) :
    ∃ k ending m₁, k < steps ∧ Pass e i m k ending m₁ := by
  induction steps generalizing m with
  | zero => exact absurd rfl genuine
  | succ steps ih =>
    cases next : (m.frame i).stub.code[(m.frame i).pc]? with
    | none => exact ⟨0, _, m, by omega, .fallsOff next⟩
    | some ins =>
      cases ran : step e i ins (m.fetched i) with
      | error failure m₁ => exact ⟨0, _, m₁, by omega, .fails next ran⟩
      | ok flow m₁ =>
        cases flow with
        | done v =>
          obtain ⟨ret, rfl, rfl⟩ := step_done ran
          exact ⟨0, _, _, by omega, .returns next ret⟩
        | next =>
          rw [runFrame_next ((proceed_instruction e next).trans ran)] at genuine
          obtain ⟨k, ending, m₂, enough, pass⟩ := ih genuine
          exact ⟨k + 1, ending, m₂, by omega, .next next ran pass⟩

/-- **A run that is not cut off is the succession of its passes.** -/
theorem concludes_of_genuine (genuine : Outcome.Genuine (runFrame e i steps m)) :
    ∃ turns m₁ ending m₂, Concludes e i m steps turns m₁ ending m₂ (runFrame e i steps m) := by
  -- What is left of the run after its first pass is shorter.
  induction steps using Nat.strongRecOn generalizing m with
  | _ steps ih =>
    obtain ⟨k, ending, m₁, enough, pass⟩ := pass_of_genuine genuine
    obtain ⟨rest, rfl⟩ : ∃ rest, steps = k + 1 + rest := ⟨steps - (k + 1), by omega⟩
    have run := pass.run rest
    have closing (closes : Closes e i ending m₁ (ending.resume e i rest m₁)) :
        ∃ turns m₂ ending m₃, Concludes e i m (k + 1 + rest) turns m₂ ending m₃
          (runFrame e i (k + 1 + rest) m) :=
      ⟨[], m, ending, m₁, ⟨0, k, .first, pass, by omega⟩, run ▸ closes⟩
    cases ending with
    | returns v => exact closing (.returns v m₁)
    | fails failure => exact closing (.fails failure m₁)
    | fallsOff =>
      rw [PassEnd.resume, Action.bind_eq] at run closing
      cases again : startOver e i m₁ with
      | error failure m₂ =>
        rw [again] at closing
        exact closing (.breaks again)
      | ok more m₂ =>
        rw [again] at run closing
        cases more with
        | false => exact closing (.ends again)
        | true =>
          have run : runFrame e i (k + 1 + rest) m = runFrame e i rest m₂ := run
          rw [run] at genuine ⊢
          obtain ⟨turns, m₃, ending, m₄, ⟨n, l, begun, last, enough'⟩, closes⟩ :=
            ih rest (by omega) genuine
          exact ⟨_, m₃, ending, m₄, ⟨k + 1 + n, l, begun.cons pass again, last, by omega⟩, closes⟩

/-! ## No pass after the last -/

/-- There is one way for a pass to go. -/
theorem Pass.unique {k' : Nat} {ending' : PassEnd} (pass : Pass e i m k ending m₁)
    (pass' : Pass e i m k' ending' m₂) : ending' = ending ∧ m₂ = m₁ := by
  -- the next instruction, if there is one, and its outcome tell how a pass goes
  induction pass generalizing k' with
  | fallsOff next =>
    cases pass' with
    | fallsOff _ => exact ⟨rfl, rfl⟩
    | returns next' _ | fails next' _ | next next' _ _ => cases next.symm.trans next'
  | @returns m ins next ret =>
    have done : step e i ins (m.fetched i) =
        .ok (.done (((m.fetched i).frame i).stack.headD .empty)) (m.fetched i) := by
      rw [step, ret]
      rfl
    cases pass' with
    | fallsOff next' => cases next.symm.trans next'
    | returns _ _ => exact ⟨rfl, rfl⟩
    | fails next' failed =>
      cases next.symm.trans next'
      cases done.symm.trans failed
    | next next' ran _ =>
      cases next.symm.trans next'
      cases done.symm.trans ran
  | @fails m _ ins failure next failed =>
    cases pass' with
    | fallsOff next' => cases next.symm.trans next'
    | returns next' ret =>
      cases next.symm.trans next'
      rw [step, ret] at failed
      cases failed
    | fails next' failed' =>
      cases next.symm.trans next'
      cases failed.symm.trans failed'
      exact ⟨rfl, rfl⟩
    | next next' ran _ =>
      cases next.symm.trans next'
      cases failed.symm.trans ran
  | next next ran _ ih =>
    cases pass' with
    | fallsOff next' => cases next.symm.trans next'
    | returns next' ret =>
      cases next.symm.trans next'
      rw [step, ret] at ran
      cases ran
    | fails next' failed =>
      cases next.symm.trans next'
      cases ran.symm.trans failed
    | next next' ran' rest =>
      cases next.symm.trans next'
      cases ran.symm.trans ran'
      exact ih rest

/-- There is one way for as many passes to go. -/
theorem Begun.unique {n' : Nat} {turns' : List Turn} (begun : Begun e i m n turns m₁)
    (begun' : Begun e i m n' turns' m₂) (length : turns'.length = turns.length) :
    turns' = turns ∧ m₂ = m₁ := by
  induction begun generalizing n' turns' m₂ with
  | first =>
    cases begun' with
    | first => exact ⟨rfl, rfl⟩
    | again _ _ _ => simp at length
  | again _ pass again ih =>
    cases begun' with
    | first => simp at length
    | again begun' pass' again' =>
      rw [List.length_append, List.length_append] at length
      obtain ⟨rfl, rfl⟩ := ih begun' (by simpa using length)
      obtain ⟨-, rfl⟩ := pass.unique pass'
      cases again.symm.trans again'
      exact ⟨rfl, rfl⟩

/-- After each pass that is over, but for the end of the last, the frame was started over. -/
theorem Begun.startedOver (begun : Begun e i m n turns m₁) {j : Nat} (early : j < turns.length) :
    ∃ n' turns' m₂ k m₃ m₄, turns'.length = j ∧ Begun e i m n' turns' m₂ ∧
      Pass e i m₂ k .fallsOff m₃ ∧ startOver e i m₃ = .ok true m₄ := by
  induction begun with
  | first => cases early
  | @again n k turns m₁ m₂ m₃ begun pass again ih =>
    rw [List.length_append, List.length_singleton] at early
    by_cases last : j = turns.length
    · exact ⟨n, turns, m₁, k, m₂, m₃, last.symm, begun, pass, again⟩
    · exact ih (by omega)

/-- **After the pass with which the whole comes to an end no other begins.** -/
theorem Concludes.last {bound : Nat} {turns' : List Turn}
    (h : Concludes e i m bound turns m₁ ending m₂ r) (begun : Begun e i m n turns' m₃) :
    turns'.length ≤ turns.length := by
  refine Nat.le_of_not_lt fun later => ?_
  obtain ⟨⟨_, _, concluding, pass, -⟩, closes⟩ := h
  obtain ⟨_, _, _, _, m₄, m₅, length, earlier, ended, again⟩ := begun.startedOver later
  obtain ⟨-, rfl⟩ := concluding.unique earlier length
  obtain ⟨rfl, rfl⟩ := pass.unique ended
  cases closes with
  | ends ended => cases again.symm.trans ended
  | breaks failed => cases again.symm.trans failed

end Runs

/-! ## Entering a loop -/

/-- The outcome after the frame has been left. -/
def Outcome.left : Outcome Value → Outcome Value
  | .ok v m => .ok v m.popFrame
  | .error failure m => .error failure m.popFrame

/-- **An outcome that is that of passes**: if they come to an end within the bound, it is theirs,
and unless it is cut off they do. -/
structure OfPasses (e : Engine) (i : Nat) (m : Machine) (bound : Nat) (outcome : Outcome Value) :
    Prop where
  sound {turns : List Turn} {m₁ m₂ : Machine} {ending : PassEnd} {r : Outcome Value} :
    Concludes e i m bound turns m₁ ending m₂ r → outcome = r.left
  complete : outcome.Genuine →
    ∃ turns m₁ ending m₂ r, Concludes e i m bound turns m₁ ending m₂ r ∧ outcome = r.left

/-- **Entering a function runs its passes**, if the call depth permits. -/
theorem enter_ofPasses (host : Host) (fuel : Nat) (f : FunctionFacet) (parameters : Array Value)
    (restart : Option Restart) {m : Machine} (room : m.depth < m.config.maxCallDepth) :
    OfPasses (.ofHost host fuel) m.depth (m.pushFrame f parameters restart) fuel
      ((Engine.ofHost host (fuel + 1)).enter f parameters restart m) := by
  have run : (Engine.ofHost host (fuel + 1)).enter f parameters restart m =
      Outcome.left (runFrame (.ofHost host fuel) m.depth fuel (m.pushFrame f parameters restart)) := by
    show perform host (fuel + 1) (.enter f parameters restart) m = _
    rw [perform_enter, withFrame_eq, if_neg (Nat.not_le_of_lt room), finally_]
    cases runFrame (.ofHost host fuel) m.depth fuel (m.pushFrame f parameters restart) with
    | ok v m' => rfl
    | error failure m' => rfl
  constructor
  · intro turns m₁ m₂ ending r concludes
    rw [run, concludes.run]
  · intro genuine
    rw [run] at genuine
    have ended : Outcome.Genuine
        (runFrame (.ofHost host fuel) m.depth fuel (m.pushFrame f parameters restart)) := by
      cases outcome :
          runFrame (.ofHost host fuel) m.depth fuel (m.pushFrame f parameters restart) with
      | ok v m' => exact trivial
      | error failure m' =>
        rw [outcome] at genuine
        exact genuine
    obtain ⟨turns, m₁, ending, m₂, concludes⟩ := concludes_of_genuine ended
    exact ⟨turns, m₁, ending, m₂, _, concludes, run⟩

end StubMachine
