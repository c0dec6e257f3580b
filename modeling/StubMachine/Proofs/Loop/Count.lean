import StubMachine.Proofs.Loop.Frame
import StubMachine.Proofs.Numeral.Integer

/-!
# Counting

A count has its counter in two places: in the condition under which the frame starts over,
and in the first parameter, if there is one.  After each pass the parameter is what counts:
what the body has left there is converted to a number, and this is where the count goes on.
The direction is fixed at the start, and the first pass is entered without a comparison.

**The range is half-open in both directions** (`count_half_open`): the end itself is not
reached, and a count from a number to itself does not enter its body.  If nothing disturbs
the counter, its values depend on the bounds alone (`counterAfter`), and with integers of
magnitude at most `2 ^ 53` for bounds they are the integers in between.
-/

namespace StubMachine

open StubMachine.Action

/-! ## Counters -/

/-- By how much a count goes on. -/
def countStep (first stop : Float) : Float := if first < stop then 1.0 else -1.0

/-- **A counter is strictly before the end**, in the direction of the count. -/
def Before (first stop counter : Float) : Prop :=
  if first < stop then counter < stop else stop < counter

/-- **What a pass leaves to count on from**: what the body has left in its first parameter,
converted to a number; or the counter as it was, if there is no parameter. -/
def leftCounter (e : Engine) (i : Nat) (f : FunctionFacet) (counter : Float) : Action Float := fun m =>
  if 0 < f.stub.arity then asNumber e ((m.ownValue? i 0).getD .empty) (m.rearm i none)
  else .ok counter (m.rearm i none)

/-- The state in which a function has been entered to count. -/
def Machine.enterCount (m : Machine) (f : FunctionFacet) (first stop : Float) : Machine :=
  m.pushFrame f (firstParameters f [.number first])
    (some (.count first stop (countStep first stop) (0 < f.stub.arity)))

/-- **How it goes on** after a pass with a certain counter has run off the end. -/
inductive CountsOn (e : Engine) (i : Nat) (f : FunctionFacet) (first stop counter : Float)
    (m : Machine) : Prop
  /-- What is left is no number. -/
  | fails {failure : Failure} {m' : Machine} : leftCounter e i f counter m = .error failure m' →
      startOver e i m = .error failure m' → CountsOn e i f first stop counter m
  /-- The end has been reached. -/
  | ends {left : Float} {m' : Machine} : leftCounter e i f counter m = .ok left m' →
      ¬ Before first stop (left + countStep first stop) → startOver e i m = .ok false m' →
      CountsOn e i f first stop counter m
  /-- Another pass starts with the next counter. -/
  | again {left : Float} {m' m'' : Machine} : leftCounter e i f counter m = .ok left m' →
      Before first stop (left + countStep first stop) → startOver e i m = .ok true m'' →
      m''.StartsPass i f [.number (left + countStep first stop)] (m'.ownValue? i) →
      CountsOn e i f first stop counter m

/-- **The counter of a pass that begins** after others. -/
inductive CountsTo (e : Engine) (i : Nat) (f : FunctionFacet) (first stop : Float) (m : Machine) :
    List Turn → Float → Machine → Prop
  | first : m.StartsPass i f [.number first] (fun _ => some .empty) →
      CountsTo e i f first stop m [] first m
  | next {turns : List Turn} {counter left : Float} {m₁ m₂ m₃ m₄ : Machine} :
      CountsTo e i f first stop m turns counter m₁ → leftCounter e i f counter m₂ = .ok left m₃ →
      Before first stop (left + countStep first stop) →
      m₄.StartsPass i f [.number (left + countStep first stop)] (m₃.ownValue? i) →
      CountsTo e i f first stop m (turns ++ [⟨m₁, m₂⟩]) (left + countStep first stop) m₄

/-- **No pass has changed the counter**: the first parameter, if there is one, is at the end of each
pass what it was at the start. -/
def Undisturbed (i : Nat) (f : FunctionFacet) (turns : List Turn) : Prop :=
  0 < f.stub.arity → ∀ turn ∈ turns, turn.finish.ownValue? i 0 = turn.start.ownValue? i 0

/-- The counter after so many passes that have not changed it. -/
def counterAfter (first stop : Float) : Nat → Float
  | 0 => first
  | passes + 1 => counterAfter first stop passes + countStep first stop

/-! ## Starting the loop -/

section Start
variable {e : Engine} {body : Value} {m : Machine} {f : FunctionFacet} {first stop : Float}

/-- A count from a number to itself does not enter its body. -/
theorem countLoop_equal (found : loopBody body m = .ok f m) (equal : (first == stop) = true) :
    countLoop e first stop body m = .ok .empty m := by
  rw [countLoop, Action.bind_ok found, if_pos equal]
  rfl

/-- Any other count enters its body with the first counter. -/
theorem countLoop_unequal (found : loopBody body m = .ok f m) (unequal : (first == stop) = false) :
    countLoop e first stop body m =
      e.enter f (firstParameters f [.number first])
        (some (.count first stop (countStep first stop) (0 < f.stub.arity))) m := by
  have different : ¬ (first == stop) = true := by
    rw [unequal]
    exact Bool.false_ne_true
  rw [countLoop, Action.bind_ok found, if_neg different]
  rfl

theorem counterContinues_iff (counter : Float) :
    counterContinues counter stop (countStep first stop) = true ↔ Before first stop counter := by
  have up : (1.0 : Float) > 0.0 := by decide
  have down : ¬ (-1.0 : Float) > 0.0 := by decide
  rw [counterContinues, countStep, Before]
  by_cases ascending : first < stop
  · rw [if_pos ascending, if_pos ascending, if_pos up, decide_eq_true_iff]
  · rw [if_neg ascending, if_neg ascending, if_neg down, decide_eq_true_iff]

end Start

/-! ## Starting over -/

/-- From where to count on. -/
def countFrom (e : Engine) (i : Nat) (bindsCounter : Bool) (counter : Float) : Action Float := do
  if bindsCounter then asNumber e (← readReferrable i 0) else return counter

/-- What follows when it is known from where to count on. -/
def recount (i : Nat) (stop step : Float) (bindsCounter : Bool) (left : Float) :
    Action (Option Restart) := do
  let next := left + step
  if counterContinues next stop step then
    if bindsCounter then writeReferrable i 0 (.number next)
    return some (.count next stop step bindsCounter)
  else return none

theorem advance_count (e : Engine) (i : Nat) (counter stop step : Float) (bindsCounter : Bool) :
    advance e i (.count counter stop step bindsCounter) =
      countFrom e i bindsCounter counter >>= recount i stop step bindsCounter := by
  cases bindsCounter with
  | true =>
    show _ = (readReferrable i 0 >>= fun v => asNumber e v) >>= recount i stop step true
    rw [bind_assoc]
    rfl
  | false => rfl

/-- What follows when it is known how the frame starts over. -/
def restartWith (i : Nat) : Option Restart → Action Bool
  | none => return false
  | some next => do
    updateFrame i fun f => { f with pc := 0, stack := [], restart := some next }
    return true

section Passes
variable {i : Nat} {entered : Frame} {m : Machine} {f : FunctionFacet} {first stop counter : Float}

/-- **Starting over a count** is looking for what the pass has left, counting on from it, and
rewinding the frame. -/
theorem Machine.Loops.startOver_recounts {e : Engine} {step : Float}
    (h : m.Loops i entered (some (.count counter stop step (0 < f.stub.arity))))
    (body : entered.stub = f.stub) :
    startOver e i m =
      (leftCounter e i f counter >>= fun left =>
        recount i stop step (0 < f.stub.arity) left >>= restartWith i) m := by
  have read : readFrame i Frame.restart m = .ok (m.frame i).restart m := rfl
  have cleared : updateFrame i (fun fr => { fr with restart := none }) m =
    .ok () (m.rearm i none) := rfl
  have looked : countFrom e i (0 < f.stub.arity) counter (m.rearm i none) =
      leftCounter e i f counter m := by
    rw [leftCounter]
    by_cases param : 0 < f.stub.arity
    · have own : 0 < entered.stub.referrableCount := by
        rw [body]
        exact Nat.lt_of_lt_of_le param (Nat.le_add_right _ _)
      have idle := h.rearm none
      obtain ⟨v, there⟩ := h.valued own
      have read := idle.readReferrable own ((h.ownValue_reframed idle rfl own).trans there)
      rw [if_pos param, there, Option.getD_some, decide_eq_true param]
      show (StubMachine.readReferrable i 0 >>= fun v => asNumber e v) _ = _
      rw [Action.bind_ok read]
    · rw [if_neg param, decide_eq_false param]
      rfl
  rw [StubMachine.startOver_eq, Action.bind_ok read, h.condition]
  show startOverFrom e i _ m = _
  rw [startOverFrom, Action.bind_ok cleared, advance_count, bind_assoc, Action.bind_eq, looked,
    Action.bind_eq]
  rfl

/-- What a pass leaves to count on from is found in the frame of the loop. -/
theorem Machine.Loops.leftCounter_loops {host : Host} (tame : host.Tame) {fuel : Nat}
    {restart : Option Restart} (h : m.Loops i entered restart) {left : Float} {m' : Machine}
    (ok : leftCounter (.ofHost host fuel) i f counter m = .ok left m') :
    m'.Loops i entered none := by
  have idle := h.rearm none
  rw [leftCounter] at ok
  split at ok
  · obtain ⟨L, linked⟩ := idle.linked
    let place : Place := .frame i ((m.rearm i none).frame i).site?
    -- the conversion may call a converter, which runs code, but no code reaches this frame
    have conversion : Routine (place.license (fun _ => False) none fun _ => False) (.instruction i)
        fun e => asNumber e ((m.ownValue? i 0).getD .empty) := asNumber_routine _
    have obeys := Routine.alone_shared (ofHost_shared tame (m.rearm i none) L fuel) conversion
    obtain ⟨kept, L', -, linked'⟩ := obeys.leaves linked ⟨idle.runs, rfl⟩
    rw [Action.after, ok] at kept linked'
    exact idle.kept kept ⟨L', linked'⟩
  · cases ok
    exact idle

/-- A counter that has not reached the end is written to the first parameter, if there is one. -/
theorem Machine.Loops.recount_continues {restart : Option Restart} {stop step left : Float}
    (h : m.Loops i entered restart) (body : entered.stub = f.stub)
    (continues : counterContinues (left + step) stop step = true) :
    ∃ m', recount i stop step (0 < f.stub.arity) left m =
        .ok (some (.count (left + step) stop step (0 < f.stub.arity))) m' ∧
      m'.Loops i entered restart ∧
      (∀ slot v, [Value.number (left + step)][slot]? = some v → slot < f.stub.arity →
        m'.ownValue? i slot = some v) ∧
      ∀ slot < f.stub.referrableCount, min 1 f.stub.arity ≤ slot →
        m'.ownValue? i slot = m.ownValue? i slot := by
  have arity : f.stub.arity ≤ f.stub.referrableCount := Nat.le_add_right _ _
  by_cases param : 0 < f.stub.arity
  · obtain ⟨m', written, h', got, others⟩ := h.write 0 (by rw [body]; omega)
      (.number (left + step))
    refine ⟨m', ?_, h', fun slot v at_ _ => ?_, fun slot own beyond => ?_⟩
    · rw [recount, decide_eq_true param]
      simp only [continues, if_true]
      rw [Action.bind_ok written]
      rfl
    · cases slot with
      | zero =>
        cases at_
        exact got
      | succ slot => cases at_
    · exact others slot (by rw [body]; exact own) (by omega)
  · refine ⟨m, ?_, h, fun slot v _ inside => absurd inside (by omega), fun slot _ _ => rfl⟩
    rw [recount, decide_eq_false param]
    simp only [continues, if_true]
    rfl

/-- **Between two passes** the next counter is bound, if it is before the end. -/
theorem Machine.Loops.startOver_count {host : Host} (tame : host.Tame) {fuel : Nat}
    (h : m.Loops i entered
      (some (.count counter stop (countStep first stop) (0 < f.stub.arity))))
    (body : entered.stub = f.stub) :
    CountsOn (.ofHost host fuel) i f first stop counter m ∧
      ∀ left m' m'', leftCounter (.ofHost host fuel) i f counter m = .ok left m' →
        startOver (.ofHost host fuel) i m = .ok true m'' →
        m''.Loops i entered (some (.count (left + countStep first stop) stop
          (countStep first stop) (0 < f.stub.arity))) := by
  have started := @Machine.Loops.startOver_recounts _ _ _ _ _ _ (Engine.ofHost host fuel) _ h body
  cases ran : leftCounter (.ofHost host fuel) i f counter m with
  | error failure m' =>
    rw [Action.bind_error ran] at started
    refine ⟨.fails ran started, fun left m' m'' ok => ?_⟩
    cases ok
  | ok left m' =>
    rw [Action.bind_ok ran] at started
    have h' := h.leftCounter_loops tame ran
    by_cases before : Before first stop (left + countStep first stop)
    · obtain ⟨m₁, counted, h₁, bound, others⟩ :=
        h'.recount_continues body ((counterContinues_iff _).mpr before)
      rw [Action.bind_ok counted] at started
      refine ⟨.again ran before started (h₁.startsPass body _ bound others),
        fun _ _ m'' same again => ?_⟩
      cases same
      cases started.symm.trans again
      exact h₁.rewound _
    · have stops : counterContinues (left + countStep first stop) stop (countStep first stop) = false := by
        rw [← Bool.not_eq_true, counterContinues_iff]
        exact before
      have ended : recount i stop (countStep first stop) (0 < f.stub.arity) left m' = .ok none m' := by
        rw [recount]
        simp only [stops]
        rfl
      rw [Action.bind_ok ended] at started
      refine ⟨.ends ran before started, fun _ _ m'' _ again => ?_⟩
      cases started.symm.trans again

/-- A pass that begins with a counter starts with it. -/
theorem CountsTo.starts {e : Engine} {turns : List Turn} {m₁ : Machine}
    (h : CountsTo e i f first stop m turns counter m₁) :
    ∃ before, m₁.StartsPass i f [.number counter] before := by
  cases h with
  | first starts => exact ⟨_, starts⟩
  | next _ _ _ starts => exact ⟨_, starts⟩

/-- **Each pass begins with its counter.** -/
theorem Begun.counts {host : Host} (tame : host.Tame) {fuel n : Nat} {turns : List Turn}
    {m₁ : Machine} (body : entered.stub = f.stub)
    (loops : m.Loops i entered
      (some (.count first stop (countStep first stop) (0 < f.stub.arity))))
    (starts : m.StartsPass i f [.number first] fun _ => some .empty)
    (begun : Begun (.ofHost host fuel) i m n turns m₁) :
    ∃ counter, CountsTo (.ofHost host fuel) i f first stop m turns counter m₁ ∧
      m₁.Loops i entered (some (.count counter stop (countStep first stop) (0 < f.stub.arity))) := by
  -- that the frame still runs the loop is carried along: starting over needs it
  induction begun with
  | first => exact ⟨first, .first starts, loops⟩
  | @again n k turns m₁ m₂ m₃ begun pass again ih =>
    obtain ⟨counter, counted, loops₁⟩ := ih
    obtain ⟨goesOn, loops₃⟩ :=
      @Machine.Loops.startOver_count _ _ _ _ first stop counter host tame fuel (loops₁.pass tame pass) body
    cases goesOn with
    | fails _ failed => cases failed.symm.trans again
    | ends _ _ ended => cases ended.symm.trans again
    | again ran before again' starts =>
      cases again'.symm.trans again
      exact ⟨_, counted.next ran before starts, loops₃ _ _ _ ran again⟩

end Passes

/-! ## Counters that nothing disturbs -/

section Undisturbed
variable {e : Engine} {i : Nat} {f : FunctionFacet} {first stop counter : Float} {m m₁ : Machine}
  {turns : List Turn}

theorem Undisturbed.init {turn : Turn} (h : Undisturbed i f (turns ++ [turn])) :
    Undisturbed i f turns :=
  fun param t member => h param t (List.mem_append_left _ member)

/-- A pass that has not changed the counter leaves it to count on from. -/
theorem leftCounter_undisturbed {before : Nat → Option Value} {m₂ : Machine}
    (starts : m₁.StartsPass i f [.number counter] before)
    (same : 0 < f.stub.arity → m₂.ownValue? i 0 = m₁.ownValue? i 0) :
    leftCounter e i f counter m₂ = .ok counter (m₂.rearm i none) := by
  rw [leftCounter]
  split
  · rename_i param
    rw [same param, starts.bound 0 _ rfl param]
    rfl
  · rfl

/-- **Undisturbed counters depend on the bounds alone**, and all but the first are before the end. -/
theorem CountsTo.undisturbed (h : CountsTo e i f first stop m turns counter m₁)
    (undisturbed : Undisturbed i f turns) :
    counter = counterAfter first stop turns.length ∧
      ∀ j, 0 < j → j ≤ turns.length → Before first stop (counterAfter first stop j) := by
  -- what each pass has left is its counter, since nothing has changed it
  induction h with
  | first _ => exact ⟨rfl, fun j positive le => by simp at le; omega⟩
  | @next turns counter left m₁ m₂ m₃ m₄ counted ran before _ ih =>
    obtain ⟨counter_eq, earlier⟩ := ih undisturbed.init
    obtain ⟨_, starts⟩ := counted.starts
    have kept := @leftCounter_undisturbed e i f counter m₁ _ m₂ starts fun param =>
      undisturbed param ⟨m₁, m₂⟩ (List.mem_append_right _ List.mem_cons_self)
    cases kept.symm.trans ran
    have next : counter + countStep first stop = counterAfter first stop (turns.length + 1) := by
      rw [counterAfter, counter_eq]
    rw [List.length_append, List.length_singleton, next]
    refine ⟨rfl, fun j positive le => ?_⟩
    by_cases last : j = turns.length + 1
    · rw [last, ← next]
      exact before
    · exact earlier j positive (by omega)

/-- **So many passes make up a count** that nothing disturbs: the counters after them are before the
end until the last one. -/
structure PassCount (first stop : Float) (passes : Nat) : Prop where
  positive : 0 < passes
  within_ (j : Nat) : 0 < j → j < passes → Before first stop (counterAfter first stop j)
  ended : ¬ Before first stop (counterAfter first stop passes)

theorem PassCount.unique {passes passes' : Nat} (h : PassCount first stop passes)
    (h' : PassCount first stop passes') : passes' = passes := by
  rcases Nat.lt_trichotomy passes' passes with less | same | more
  · exact absurd (h.within_ passes' h'.positive less) h'.ended
  · exact same
  · exact absurd (h'.within_ passes h.positive more) h.ended

end Undisturbed

/-! ## Integers -/

section Integers
open Binary64
variable {first stop : Float} {a b : Int}

/-- The direction in which one integer lies from another. -/
def direction (a b : Int) : Int := if a < b then 1 else -1

/-- **Counters between integers are the integers in between.** -/
theorem counterAfter_isInteger (starts : IsInteger first a) (stops : IsInteger stop b)
    (small : a.natAbs ≤ 2 ^ 53) (small' : b.natAbs ≤ 2 ^ 53) {j : Nat}
    (le : j ≤ (b - a).natAbs) :
    IsInteger (counterAfter first stop j) (a + direction a b * j) := by
  -- each step stays between the bounds, where adding and subtracting one are exact
  induction j with
  | zero =>
    rw [Int.natCast_zero, Int.mul_zero, Int.add_zero]
    exact starts
  | succ j ih =>
    have before := ih (by omega)
    rw [counterAfter, countStep]
    by_cases ascending : a < b
    · rw [direction, if_pos ascending] at before ⊢
      rw [if_pos (starts.lt_iff stops |>.mpr ascending)]
      have next := before.add_one (by omega)
      rwa [show a + 1 * ((j + 1 : Nat) : Int) = a + 1 * j + 1 by omega]
    · rw [direction, if_neg ascending] at before ⊢
      rw [if_neg fun lt => ascending (starts.lt_iff stops |>.mp lt)]
      have next := before.sub_one (by omega)
      rwa [show a + -1 * ((j + 1 : Nat) : Int) = a + -1 * j - 1 by omega]

/-- A counter between integers is before the end until it has gone all the way. -/
theorem before_iff (starts : IsInteger first a) (stops : IsInteger stop b)
    (small : a.natAbs ≤ 2 ^ 53) (small' : b.natAbs ≤ 2 ^ 53) {j : Nat}
    (le : j ≤ (b - a).natAbs) :
    Before first stop (counterAfter first stop j) ↔ j < (b - a).natAbs := by
  have counter := counterAfter_isInteger starts stops small small' le
  rw [Before]
  by_cases ascending : a < b
  · rw [if_pos (starts.lt_iff stops |>.mpr ascending), counter.lt_iff stops, direction, if_pos ascending]
    omega
  · rw [if_neg fun lt => ascending (starts.lt_iff stops |>.mp lt), stops.lt_iff counter, direction,
      if_neg ascending]
    omega

/-- **A count between integers has as many passes as the integers are apart.** -/
theorem PassCount.of_integers (starts : IsInteger first a) (stops : IsInteger stop b)
    (small : a.natAbs ≤ 2 ^ 53) (small' : b.natAbs ≤ 2 ^ 53) (different : a ≠ b) :
    PassCount first stop (b - a).natAbs where
  positive := by omega
  within_ j _ less := (before_iff starts stops small small' (by omega)).mpr less
  ended before := by
    have := (before_iff starts stops small small' (Nat.le_refl _)).mp before
    omega

end Integers

/-! ## The loop -/

/-- **A count is about to begin** in a linked machine, with a function for its body; the call depth
permits to enter it. -/
structure Counting (host : Host) (m : Machine) (body : Value) (f : FunctionFacet) : Prop where
  tame : host.Tame
  sound : m.Sound
  linked : ∃ L, m.Linked L
  found : loopBody body m = .ok f m
  room : m.depth < m.config.maxCallDepth

/-- **A half-open count** between different numbers, by a body that has been entered in a frame, with
an outcome. -/
structure CountsHalfOpen (e : Engine) (i : Nat) (entered : Machine) (bound : Nat)
    (f : FunctionFacet) (first stop : Float) (outcome : Outcome Value) : Prop where
  /-- The outcome is that of the passes. -/
  passes : OfPasses e i entered bound outcome
  /-- Each pass begins with its counter, and when it has run off the end the count goes on from
  what it has left. -/
  begins (n : Nat) (turns : List Turn) (m₁ : Machine) : Begun e i entered n turns m₁ →
    ∃ counter, CountsTo e i f first stop entered turns counter m₁ ∧
      ∀ k m₂, Pass e i m₁ k .fallsOff m₂ → CountsOn e i f first stop counter m₂
  /-- The count ends with a failing conversion, or with Empty when its end has been reached. -/
  ends (turns : List Turn) (m₁ m₂ : Machine) (r : Outcome Value) :
    Concludes e i entered bound turns m₁ .fallsOff m₂ r →
      ∃ counter, CountsTo e i f first stop entered turns counter m₁ ∧
        ((∃ failure m₃, leftCounter e i f counter m₂ = .error failure m₃ ∧ r = .error failure m₃) ∨
          ∃ left m₃, leftCounter e i f counter m₂ = .ok left m₃ ∧
            ¬ Before first stop (left + countStep first stop) ∧ r = .ok .empty m₃)
  /-- A pass that returns or fails ends it, too, and no pass begins after the last. -/
  stops (turns : List Turn) (m₁ : Machine) (ending : PassEnd) (m₂ : Machine) (r : Outcome Value) :
    Concludes e i entered bound turns m₁ ending m₂ r →
      (∀ v, ending = .returns v → r = .ok v m₂) ∧
      (∀ failure, ending = .fails failure → r = .error failure m₂) ∧
      ∀ n turns' m₃, Begun e i entered n turns' m₃ → turns'.length ≤ turns.length
  /-- If nothing disturbs the counter, its values and the number of passes depend on the bounds
  alone. -/
  undisturbed (turns : List Turn) (m₁ m₂ : Machine) (r : Outcome Value) :
    Concludes e i entered bound turns m₁ .fallsOff m₂ r →
      Undisturbed i f (turns ++ [⟨m₁, m₂⟩]) →
      CountsTo e i f first stop entered turns (counterAfter first stop turns.length) m₁ ∧
        PassCount first stop (turns.length + 1) ∧ ∃ m₃, r = .ok .empty m₃
  /-- Between integers the counters are the integers in between, each once. -/
  integers (a b : Int) : a.natAbs ≤ 2 ^ 53 → b.natAbs ≤ 2 ^ 53 →
    (first == Binary64.ofInteger a) = true → (stop == Binary64.ofInteger b) = true →
      (∀ n turns m₁, Begun e i entered n turns m₁ → Undisturbed i f turns →
        turns.length < (b - a).natAbs ∧
        ∃ counter, CountsTo e i f first stop entered turns counter m₁ ∧
          (counter == Binary64.ofInteger (a + direction a b * turns.length)) = true) ∧
      ∀ turns m₁ m₂ r, Concludes e i entered bound turns m₁ .fallsOff m₂ r →
        Undisturbed i f (turns ++ [⟨m₁, m₂⟩]) → turns.length + 1 = (b - a).natAbs

section Loop
variable {host : Host} {m : Machine} {body : Value} {f : FunctionFacet} {first stop : Float}

/-- The first pass of a count starts in the frame of the loop. -/
theorem Counting.loops (c : Counting host m body f) (first stop : Float) :
    (m.enterCount f first stop).Loops m.depth
        (m.startFrame f (some (.count first stop (countStep first stop) (0 < f.stub.arity))))
        (some (.count first stop (countStep first stop) (0 < f.stub.arity))) ∧
      (m.enterCount f first stop).StartsPass m.depth f [.number first] fun _ => some .empty := by
  obtain ⟨L, linked⟩ := c.linked
  have rooted : f.Rooted L := by
    rcases loopBody_cases body m with ⟨g, found, has⟩ | raised
    · cases found.symm.trans c.found
      exact linked.functions f has
    · exact absurd (raised.symm.trans c.found) (raise_ne_ok _ _ _ _)
  exact ⟨.of_pushFrame linked c.sound rooted _ _ c.room, c.sound.startsPass f [.number first] _⟩

section Ends
variable {e : Engine} {i : Nat} {counter : Float} {m₂ : Machine} {r : Outcome Value}

/-- How a count ends at the end of a pass. -/
theorem CountsOn.closes (h : CountsOn e i f first stop counter m₂)
    (closes : Closes e i .fallsOff m₂ r) :
    (∃ failure m₃, leftCounter e i f counter m₂ = .error failure m₃ ∧ r = .error failure m₃) ∨
      ∃ left m₃, leftCounter e i f counter m₂ = .ok left m₃ ∧
        ¬ Before first stop (left + countStep first stop) ∧ r = .ok .empty m₃ := by
  cases h with
  | fails ran failed =>
    cases closes with
    | ends ended => cases failed.symm.trans ended
    | breaks failed' =>
      cases failed.symm.trans failed'
      exact .inl ⟨_, _, ran, rfl⟩
  | ends ran before ended =>
    cases closes with
    | ends ended' =>
      cases ended.symm.trans ended'
      exact .inr ⟨_, _, ran, before, rfl⟩
    | breaks failed => cases ended.symm.trans failed
  | again _ _ restarted _ =>
    cases closes with
    | ends ended => cases restarted.symm.trans ended
    | breaks failed => cases restarted.symm.trans failed

end Ends

/-- **Each pass of a count begins with its counter**, and goes on as it should. -/
theorem Counting.begins (c : Counting host m body f) {fuel n : Nat} {turns : List Turn}
    {m₁ : Machine}
    (begun : Begun (.ofHost host fuel) m.depth (m.enterCount f first stop) n turns m₁) :
    ∃ counter, CountsTo (.ofHost host fuel) m.depth f first stop (m.enterCount f first stop) turns
        counter m₁ ∧
      ∀ k m₂, Pass (.ofHost host fuel) m.depth m₁ k .fallsOff m₂ →
        CountsOn (.ofHost host fuel) m.depth f first stop counter m₂ := by
  obtain ⟨loops, starts⟩ := c.loops first stop
  have body : (m.startFrame f
    (some (.count first stop (countStep first stop) (0 < f.stub.arity)))).stub = f.stub := rfl
  obtain ⟨counter, counted, loops₁⟩ := begun.counts c.tame body loops starts
  exact ⟨counter, counted, fun k m₂ pass =>
    ((loops₁.pass c.tame pass).startOver_count c.tame body).1⟩

/-- **How a count ends** when the last pass has run off the end. -/
theorem Counting.ends (c : Counting host m body f) {fuel bound : Nat} {turns : List Turn}
    {m₁ m₂ : Machine} {r : Outcome Value}
    (concludes : Concludes (.ofHost host fuel) m.depth (m.enterCount f first stop) bound turns m₁
      .fallsOff m₂ r) :
    ∃ counter, CountsTo (.ofHost host fuel) m.depth f first stop (m.enterCount f first stop) turns
        counter m₁ ∧
      ((∃ failure m₃, leftCounter (.ofHost host fuel) m.depth f counter m₂ = .error failure m₃ ∧
          r = .error failure m₃) ∨
        ∃ left m₃, leftCounter (.ofHost host fuel) m.depth f counter m₂ = .ok left m₃ ∧
          ¬ Before first stop (left + countStep first stop) ∧ r = .ok .empty m₃) := by
  obtain ⟨⟨n, k, begun, pass, -⟩, closes⟩ := concludes
  obtain ⟨counter, counted, goesOn⟩ := c.begins begun
  exact ⟨counter, counted, (goesOn k m₂ pass).closes closes⟩

/-- **How an undisturbed count ends.** -/
theorem Counting.ends_undisturbed (c : Counting host m body f) {fuel bound : Nat}
    {turns : List Turn} {m₁ m₂ : Machine} {r : Outcome Value}
    (concludes : Concludes (.ofHost host fuel) m.depth (m.enterCount f first stop) bound turns m₁
      .fallsOff m₂ r) (undisturbed : Undisturbed m.depth f (turns ++ [⟨m₁, m₂⟩])) :
    CountsTo (.ofHost host fuel) m.depth f first stop (m.enterCount f first stop) turns
        (counterAfter first stop turns.length) m₁ ∧
      PassCount first stop (turns.length + 1) ∧ ∃ m₃, r = .ok .empty m₃ := by
  obtain ⟨counter, counted, ending⟩ := c.ends concludes
  obtain ⟨rfl, earlier⟩ := counted.undisturbed undisturbed.init
  obtain ⟨_, starts⟩ := counted.starts
  have kept := @leftCounter_undisturbed (.ofHost host fuel) m.depth f _ m₁ _ m₂ starts fun param =>
    undisturbed param ⟨m₁, m₂⟩ (List.mem_append_right _ List.mem_cons_self)
  rcases ending with ⟨failure, m₃, failed, -⟩ | ⟨left, m₃, ran, ended, rfl⟩
  · cases kept.symm.trans failed
  · cases kept.symm.trans ran
    exact ⟨counted, ⟨Nat.succ_pos _, fun j positive less => earlier j positive (by omega), ended⟩,
      _, rfl⟩

/-- **Counts are half-open, in both directions.**  A count from a number to itself does not enter its
body.  Any other count enters it with the first counter, and each further pass has the counter
that follows what the pass before has left; the count is over when that is not strictly before the
end any more.  How many passes there are if nothing disturbs the counter is determined by the
bounds. -/
theorem count_half_open (c : Counting host m body f) (first stop : Float) (fuel : Nat) :
    let outcome := countLoop (.ofHost host (fuel + 1)) first stop body m
    ((first == stop) = true → outcome = .ok .empty m) ∧
    ((first == stop) = false →
      CountsHalfOpen (.ofHost host fuel) m.depth (m.enterCount f first stop) fuel f first stop
        outcome) ∧
    ∀ passes passes', PassCount first stop passes → PassCount first stop passes' →
      passes' = passes := by
  intro outcome
  refine ⟨countLoop_equal c.found, fun unequal => ?_, fun _ _ => PassCount.unique⟩
  refine ⟨?_, fun n turns m₁ begun => c.begins begun, fun turns m₁ m₂ r concludes => c.ends concludes,
    fun turns m₁ ending m₂ r concludes => ?_,
    fun turns m₁ m₂ r concludes => c.ends_undisturbed concludes,
    fun a b small small' from_ to_ => ?_⟩
  · show OfPasses _ _ _ _ (countLoop _ _ _ _ _)
    rw [countLoop_unequal c.found unequal]
    exact enter_ofPasses host fuel f _ _ c.room
  · refine ⟨?_, ?_, fun n turns' m₃ begun => concludes.last begun⟩
    · rintro v rfl
      exact concludes.closes.of_returns
    · rintro failure rfl
      exact concludes.closes.of_fails
  · have starts := Binary64.IsInteger.of_beq small from_
    have stops := Binary64.IsInteger.of_beq small' to_
    have different : a ≠ b := by
      rintro rfl
      rw [(starts.beq_iff stops).mpr rfl] at unequal
      cases unequal
    have count := PassCount.of_integers starts stops small small' different
    refine ⟨fun n turns m₁ begun undisturbed => ?_, fun turns m₁ m₂ r concludes undisturbed => ?_⟩
    · obtain ⟨counter, counted, -⟩ := c.begins begun
      obtain ⟨rfl, earlier⟩ := counted.undisturbed undisturbed
      have few : turns.length < (b - a).natAbs := by
        refine Nat.lt_of_not_le fun many => ?_
        exact count.ended (earlier _ count.positive many)
      have integer := counterAfter_isInteger starts stops small small' (Nat.le_of_lt few)
      have small'' : (a + direction a b * turns.length).natAbs ≤ 2 ^ 53 := by
        rw [direction]
        split <;> omega
      exact ⟨few, _, counted, (integer.beq_iff (.ofInteger small'')).mpr rfl⟩
    · exact count.unique (c.ends_undisturbed concludes undisturbed).2.1

/-- A body with one parameter counts to three: its first pass has 0 for its counter, and if none of
its passes changes the counter no pass begins after the third. -/
theorem three_counted :
    let f : FunctionFacet := .ofStub { Stub.blank 1 7 with parameters := #["n"] }
    let m : Machine := (Machine.initial .standard).withFunction f
    let e := Engine.ofHost .complaining
    let entered := m.enterCount f 0.0 3.0
    OfPasses (e 8) 0 entered 8 (countLoop (e 9) 0.0 3.0 (.object ⟨1⟩) m) ∧
      (∃ before, entered.StartsPass 0 f [.number 0.0] before) ∧
      ∀ n turns m₁, Begun (e 8) 0 entered n turns m₁ → Undisturbed 0 f turns →
        turns.length < 3 := by
  intro f m e entered
  have counting : Counting .complaining m (.object ⟨1⟩) f := {
    tame := Host.complaining_tame
    sound := ⟨Nat.zero_le _, Nat.zero_le _⟩
    linked := ⟨_, (Machine.Linked.initial .standard).newFunction (.inl (.ofStub _))⟩
    found := rfl
    room := by decide }
  obtain ⟨-, loop, -⟩ := count_half_open counting 0.0 3.0 8
  have counts := loop (by decide)
  obtain ⟨counter, counted, -⟩ := counts.begins 0 [] entered .first
  refine ⟨counts.passes, ?_, fun n turns m₁ begun undisturbed => ?_⟩
  · obtain ⟨rfl, -⟩ := counted.undisturbed fun _ turn none => absurd none List.not_mem_nil
    exact counted.starts
  · obtain ⟨integers, -⟩ := counts.integers 0 3 (by decide) (by decide) (by decide) (by decide)
    exact (integers n turns m₁ begun undisturbed).1

end Loop

end StubMachine
