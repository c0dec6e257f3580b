import StubMachine.Proofs.Loop.Frame

/-!
# Going through entries

The entries that a loop goes through are taken down before the first pass.  They are kept
in the condition under which the frame starts over, together with the number of the current
one, and nothing that the body does gets at them there.

The number is zero for the first pass, which is bound when the function is entered, and it
is raised before it is compared; so the first entry is not visited again.  **The passes
visit the entries in order, each of them once** (`entries_visited_in_order`): the invariant
is that the number is that of the passes which are over (`Begun.entries`).
-/

namespace StubMachine

open StubMachine.Action

/-- **What a loop goes through**: the keys and the values of an object, or of what it supplies in
its place, taken down before the first pass, and the function that is the body. -/
def TakesDown (e : Engine) (target : ObjectId) (body : Value) (m : Machine) (f : FunctionFacet)
    (keys values : List Value) (m' : Machine) : Prop :=
  ∃ o m₁ m₂, iterated e target m = .ok o m₁ ∧ loopBody body m₁ = .ok f m₁ ∧
    objectKeys e o m₁ = .ok keys m₂ ∧ objectValues e o m₂ = .ok values m'

/-- The state in which a function has been entered to go through entries. -/
def Machine.enterEntries (m : Machine) (f : FunctionFacet) (keys values : List Value) : Machine :=
  m.pushFrame f (firstParameters f (keys.take 1 ++ values.take 1))
    (some (.entries keys.toArray values.toArray 0))

/-! ## Starting the loop -/

section Start
variable {e : Engine} {target : ObjectId} {body : Value} {m m' : Machine} {f : FunctionFacet}
  {keys values : List Value}

/-- A loop over no entries does not enter its body. -/
theorem entryLoop_nil (taken : TakesDown e target body m f [] values m') :
    entryLoop e (.object target) body m = .ok .empty m' := by
  obtain ⟨o, m₁, m₂, supplied, found, ran, ran'⟩ := taken
  rw [entryLoop, Action.bind_ok supplied, Action.bind_ok found, Action.bind_ok ran,
    Action.bind_ok ran']
  rfl

/-- A loop over entries enters its body with the first one. -/
theorem entryLoop_cons (taken : TakesDown e target body m f keys values m') (some_ : keys ≠ []) :
    entryLoop e (.object target) body m =
      e.enter f (firstParameters f (keys.take 1 ++ values.take 1))
        (some (.entries keys.toArray values.toArray 0)) m' := by
  obtain ⟨o, m₁, m₂, supplied, found, ran, ran'⟩ := taken
  rw [entryLoop, Action.bind_ok supplied, Action.bind_ok found, Action.bind_ok ran,
    Action.bind_ok ran']
  cases keys with
  | nil => exact absurd rfl some_
  | cons key keys => rfl

/-- **When the entries have been taken down** the machine is sound and linked as before, and the
body is rooted. -/
theorem TakesDown.leaves {host : Host} (tame : host.Tame) {fuel : Nat} {L : Ledger}
    (taken : TakesDown (.ofHost host fuel) target body m f keys values m') (linked : m.Linked L)
    (s : m.Sound) : m'.Sound ∧ ∃ L', m'.Linked L' ∧ f.Rooted L' := by
  obtain ⟨o, m₁, m₂, supplied, found, ran, ran'⟩ := taken
  obtain ⟨kept, L₁, -, linked₁⟩ := (iterated_routine target).leaves tame fuel linked s
  rw [Action.after, supplied] at kept linked₁
  have s₁ := kept.sound s
  have rooted : f.Rooted L₁ := by
    rcases loopBody_cases body m₁ with ⟨g, found', has⟩ | raised
    · cases found'.symm.trans found
      exact linked₁.functions f has
    · exact absurd (raised.symm.trans found) (raise_ne_ok _ _ _ _)
  obtain ⟨kept, L₂, le₂, linked₂⟩ := (objectKeys_routine o).leaves tame fuel linked₁ s₁
  rw [Action.after, ran] at kept linked₂
  have s₂ := kept.sound s₁
  obtain ⟨kept, L₃, le₃, linked₃⟩ := (objectValues_routine o).leaves tame fuel linked₂ s₂
  rw [Action.after, ran'] at kept linked₃
  exact ⟨kept.sound s₂, L₃, linked₃, rooted.mono (le₂.trans le₃)⟩

end Start

/-! ## Starting over -/

section Passes
variable {i : Nat} {entered : Frame} {m : Machine} {f : FunctionFacet} {keys values : List Value}

/-- **Between two passes** the next entry is bound, if there is one. -/
theorem Machine.Loops.startOver_entries {index : Nat}
    (h : m.Loops i entered (some (.entries keys.toArray values.toArray index)))
    (body : entered.stub = f.stub) (e : Engine) :
    ((keys[index + 1]? = none ∨ values[index + 1]? = none) ∧
      ∃ m', startOver e i m = .ok false m') ∨
    ∃ key value m', keys[index + 1]? = some key ∧ values[index + 1]? = some value ∧
      startOver e i m = .ok true m' ∧
      m'.Loops i entered (some (.entries keys.toArray values.toArray (index + 1))) ∧
      m'.StartsPass i f [key, value] (m.ownValue? i) := by
  have read : readFrame i Frame.restart m = .ok (m.frame i).restart m := rfl
  have cleared : updateFrame i (fun fr => { fr with restart := none }) m =
    .ok () (m.rearm i none) := rfl
  rw [startOver_eq, Action.bind_ok read, h.condition]
  simp only [startOverFrom, Action.bind_ok cleared, advance, List.getElem?_toArray]
  cases nextKey : keys[index + 1]? with
  | none => exact .inl ⟨.inl rfl, _, rfl⟩
  | some key =>
    cases nextValue : values[index + 1]? with
    | none => exact .inl ⟨.inr rfl, _, rfl⟩
    | some value =>
      have idle := h.rearm none
      obtain ⟨m₁, written, h₁, bound, others⟩ := idle.rebind [key, value]
      let next : Restart := .entries keys.toArray values.toArray (index + 1)
      have rewound : updateFrame i (fun fr =>
        { fr with pc := 0, stack := [], restart := some next }) m₁ = .ok () (m₁.rewound i next) := rfl
      refine .inr ⟨key, value, m₁.rewound i next, rfl, rfl, ?_, h₁.rewound next, ?_⟩
      · simp only [bind_assoc, pure_bind]
        rw [Action.bind_ok written, Action.bind_ok rewound]
        rfl
      · rw [body] at bound others
        refine h₁.startsPass body next bound fun slot own beyond => ?_
        rw [others slot own beyond]
        exact h.ownValue_reframed idle rfl (by rw [body]; exact own)

/-- What is left behind after one more pass. -/
theorem leftBehind_concat (i : Nat) (turns : List Turn) (turn : Turn) :
    leftBehind i (turns ++ [turn]) = turn.finish.ownValue? i := by
  funext slot
  rw [leftBehind, List.getLast?_concat]

/-- **Each pass visits the entry with its number.** -/
theorem Begun.entries {host : Host} (tame : host.Tame) {fuel n : Nat} {turns : List Turn}
    {m₁ : Machine} (body : entered.stub = f.stub)
    (loops : m.Loops i entered (some (.entries keys.toArray values.toArray 0)))
    {key value : Value} (first : keys[0]? = some key) (first' : values[0]? = some value)
    (starts : m.StartsPass i f [key, value] fun _ => some .empty)
    (begun : Begun (.ofHost host fuel) i m n turns m₁) :
    m₁.Loops i entered (some (.entries keys.toArray values.toArray turns.length)) ∧
      ∃ key value, keys[turns.length]? = some key ∧ values[turns.length]? = some value ∧
        m₁.StartsPass i f [key, value] (leftBehind i turns) := by
  -- there have been as many passes as entries have been taken
  induction begun with
  | first => exact ⟨loops, key, value, first, first', starts⟩
  | @again n k turns m₁ m₂ m₃ begun pass again ih =>
    obtain ⟨before, -⟩ := ih
    rw [List.length_append, List.length_singleton]
    rcases (before.pass tame pass).startOver_entries body (.ofHost host fuel) with
      ⟨-, m', closed⟩ | ⟨key, value, m', at_, at', restarted, after, visits⟩
    · cases closed.symm.trans again
    · cases restarted.symm.trans again
      rw [leftBehind_concat]
      exact ⟨after, key, value, at_, at', visits⟩

/-- **The passes are over** when there is no next entry. -/
theorem Concludes.entries {host : Host} (tame : host.Tame) {fuel bound : Nat} {turns : List Turn}
    {m₁ m₂ : Machine} {r : Outcome Value} (body : entered.stub = f.stub)
    (loops : m₁.Loops i entered (some (.entries keys.toArray values.toArray turns.length)))
    (inside : turns.length < min keys.length values.length)
    (h : Concludes (.ofHost host fuel) i m bound turns m₁ .fallsOff m₂ r) :
    turns.length + 1 = min keys.length values.length ∧ ∃ m₃, r = .ok .empty m₃ := by
  obtain ⟨⟨_, _, -, pass, -⟩, closes⟩ := h
  rcases (loops.pass tame pass).startOver_entries body (.ofHost host fuel) with
    ⟨none_, m₃, closed⟩ | ⟨_, _, m₃, -, -, restarted, -⟩
  · -- Looking for the next entry cannot fail.
    cases closes with
    | ends ended =>
      rw [List.getElem?_eq_none_iff, List.getElem?_eq_none_iff] at none_
      exact ⟨by omega, _, rfl⟩
    | breaks failed => cases closed.symm.trans failed
  · cases closes with
    | ends ended => cases restarted.symm.trans ended
    | breaks failed => cases restarted.symm.trans failed

end Passes

/-! ## The loop -/

/-- **Going through the entries of an object visits those that it has at the start, in order and
each of them once**, whatever the body does.  The outcome is that of the passes.  Each pass starts
with its own entry in the first parameters, and with everything else as the pass before has left
it; no pass begins after one that returns or fails; and if all run off the end, there are as many
as there are entries, and the result is Empty. -/
theorem entries_visited_in_order {host : Host} (tame : host.Tame) {fuel : Nat} {L : Ledger}
    {m m' : Machine} (linked : m.Linked L) (s : m.Sound) {target : ObjectId} {body : Value}
    {f : FunctionFacet} {keys values : List Value}
    (taken : TakesDown (.ofHost host (fuel + 1)) target body m f keys values m')
    (paired : values = [] → keys = []) (room : m'.depth < m'.config.maxCallDepth) :
    let outcome := entryLoop (.ofHost host (fuel + 1)) (.object target) body m
    let e := Engine.ofHost host fuel
    let i := m'.depth
    let entered := m'.enterEntries f keys values
    (keys = [] → outcome = .ok .empty m') ∧
    (keys ≠ [] →
      OfPasses e i entered fuel outcome ∧
      (∀ n turns m₁, Begun e i entered n turns m₁ →
        ∃ key value, keys[turns.length]? = some key ∧ values[turns.length]? = some value ∧
          m₁.StartsPass i f [key, value] (leftBehind i turns)) ∧
      ∀ turns m₁ ending m₂ r, Concludes e i entered fuel turns m₁ ending m₂ r →
        (ending = .fallsOff →
          turns.length + 1 = min keys.length values.length ∧ ∃ m₃, r = .ok .empty m₃) ∧
        (∀ v, ending = .returns v → r = .ok v m₂) ∧
        (∀ failure, ending = .fails failure → r = .error failure m₂) ∧
        ∀ n turns' m₃, Begun e i entered n turns' m₃ → turns'.length ≤ turns.length) := by
  intro outcome e i entered
  constructor
  · rintro rfl
    exact entryLoop_nil taken
  · intro some_
    obtain ⟨s', L', linked', rooted⟩ := taken.leaves tame linked s
    have given : ∃ key value, keys[0]? = some key ∧ values[0]? = some value ∧
        keys.take 1 ++ values.take 1 = [key, value] := by
      cases keys with
      | nil => exact absurd rfl some_
      | cons key keys =>
        cases values with
        | nil => cases paired rfl
        | cons value values => exact ⟨key, value, rfl, rfl, rfl⟩
    obtain ⟨key, value, first, first', given⟩ := given
    have starts : entered.StartsPass i f [key, value] fun _ => some .empty := by
      show (m'.enterEntries f keys values).StartsPass _ _ _ _
      rw [Machine.enterEntries, given]
      exact s'.startsPass f [key, value] _
    have loops : entered.Loops i _ (some (.entries keys.toArray values.toArray 0)) :=
      .of_pushFrame linked' s' rooted _ _ room
    have visits (n : Nat) (turns : List Turn) (m₁ : Machine) (begun : Begun e i entered n turns m₁) :=
      begun.entries tame (f := f) rfl loops first first' starts
    refine ⟨?_, fun n turns m₁ begun => (visits n turns m₁ begun).2, ?_⟩
    · show OfPasses _ _ _ _ (entryLoop _ _ _ _)
      rw [entryLoop_cons taken some_]
      exact enter_ofPasses host fuel f _ _ room
    · intro turns m₁ ending m₂ r concludes
      refine ⟨?_, fun v eq => (eq ▸ concludes.closes).of_returns,
        fun failure eq => (eq ▸ concludes.closes).of_fails,
        fun n turns' m₃ begun => concludes.last begun⟩
      rintro rfl
      obtain ⟨n, _, begun, -⟩ := concludes.begun
      obtain ⟨loops₁, _, _, at_, at', -⟩ := visits n turns m₁ begun
      obtain ⟨inKeys, -⟩ := List.getElem?_eq_some_iff.mp at_
      obtain ⟨inValues, -⟩ := List.getElem?_eq_some_iff.mp at'
      exact concludes.entries tame (f := f) rfl loops₁ (by omega)

/-- A body with one parameter goes through an object with two entries: it begins with the first one,
and no pass begins with anything but an entry. -/
theorem answers_visited :
    let f : FunctionFacet := .ofStub { Stub.blank 1 7 with parameters := #["answer"] }
    let answers : Object := { Object.blank with
      booleans := [(true, .string "yes"), (false, .string "no")] }
    let keys : List Value := [.boolean true, .boolean false]
    let values : List Value := [.string "yes", .string "no"]
    let m : Machine := { (Machine.initial .standard).withFunction f with
      objects := ((Machine.initial .standard).withFunction f).objects.push answers }
    let e := Engine.ofHost .complaining
    OfPasses (e 8) 0 (m.enterEntries f keys values) 8
        (entryLoop (e 9) (.object ⟨2⟩) (.object ⟨1⟩) m) ∧
      (m.enterEntries f keys values).StartsPass 0 f [.boolean true, .string "yes"]
        (leftBehind 0 []) ∧
      ∀ n turns m₁, Begun (e 8) 0 (m.enterEntries f keys values) n turns m₁ → turns.length < 2 := by
  intro f answers keys values m e
  have bare : f.Bare := .ofStub _
  have linked : m.Linked [Machine.baseDeed] :=
    ((Machine.Linked.initial .standard).newFunction (.inl bare)).stored
      (.pushed fun g function => by cases function)
  have sound : m.Sound := ⟨Nat.zero_le _, Nat.zero_le _⟩
  have taken : TakesDown (e 9) ⟨2⟩ (.object ⟨1⟩) m f keys values m :=
    ⟨⟨2⟩, m, m, rfl, rfl, rfl, rfl⟩
  have paired : values = [] → keys = [] := fun none => absurd none (List.cons_ne_nil _ _)
  have given : keys ≠ [] := List.cons_ne_nil _ _
  obtain ⟨-, loop⟩ := entries_visited_in_order Host.complaining_tame linked sound taken
    paired (by decide)
  obtain ⟨passes, visits, -⟩ := loop given
  refine ⟨passes, ?_, fun n turns m₁ begun => ?_⟩
  · obtain ⟨key, value, at_, at', starts⟩ := visits 0 [] _ .first
    cases at_
    cases at'
    exact starts
  · obtain ⟨key, value, at_, -⟩ := visits n turns m₁ begun
    exact (List.getElem?_eq_some_iff.mp at_).1

end StubMachine
