import StubMachine.Proofs.Bytecode.RoundTrip
import StubMachine.Proofs.Termination.Ending

/-!
# The core terminates

Two of the loops may go on for ever, and so may native functions, which may do whatever
the embedder makes them do.  What is left when these are taken away, and queries with
them, can still call functions without bound, listen, and go through the entries of an
object while the body changes that object.

**A module in the core ends, with a value or with an error** (`core_module_ends`).  Three
numbers go down, each at least while those before it stay.  The first is the depth that is
left for frames; the second, within one activation, is how many entries it has still to go
through; the third is how much code is ahead of its program counter.  That the second goes
down rests on the entries being taken down before the first pass; the third, on
instructions moving their frame forward only.
-/

namespace StubMachine

open StubMachine.Action

/-! ## What is ahead of an activation -/

namespace Frame

/-- The passes that are still to come, at most. -/
def passes (f : Frame) : Nat :=
  match f.restart with
  | some (.entries keys _ index) => keys.size - index
  | _ => 0

/-- The code between the program counter and the end. -/
def ahead (f : Frame) : Nat := f.stub.code.size - f.pc

/-- **An activation that cannot go on for ever.** -/
structure Bounded (f : Frame) : Prop where
  core : f.stub.Core
  finite : ∀ condition, f.restart = some condition → condition.Finite

/-- The frame is nearer to its end than before. -/
def Nears (f f' : Frame) : Prop :=
  f'.passes < f.passes ∨ f'.passes = f.passes ∧ f'.ahead < f.ahead

variable {f f₁ : Frame}

theorem Bounded.forwarded (h : f.Bounded) (onward : f.Forwarded f₁) : f₁.Bounded := by
  have same : f₁ = { f with pc := f₁.pc, stack := f₁.stack } := onward.advanced
  rw [same]
  exact ⟨h.core, h.finite⟩

/-- An instruction that has been fetched is behind the program counter for the rest of the pass. -/
theorem nears_fetched (inside : f.pc < f.stub.code.size)
    (onward : ({ f with pc := f.pc + 1 } : Frame).Forwarded f₁) : f.Nears f₁ := by
  have same : f₁ = { f with pc := f₁.pc, stack := f₁.stack } := onward.advanced
  have pc : f.pc + 1 ≤ f₁.pc := onward.pc
  refine .inr ⟨by rw [same]; rfl, ?_⟩
  have stub : f₁.stub = f.stub := by rw [same]
  rw [ahead, ahead, stub]
  omega

/-- A frame that starts over with the next of its entries. -/
def withEntry (f : Frame) (keys values : Array Value) (index : Nat) : Frame :=
  { f with pc := 0, stack := [], restart := some (.entries keys values index) }

variable {keys values : Array Value} {index : Nat}

theorem bounded_withEntry (core : f.stub.Core) : (f.withEntry keys values index).Bounded where
  core := core
  finite condition eq := by
    obtain rfl := Option.some.inj eq
    exact trivial

/-- An entry that has been taken is one pass less to come, however the frame has moved before. -/
theorem nears_withEntry (restart : f.restart = some (.entries keys values index))
    (inside : index + 1 < keys.size) : f.Nears (f₁.withEntry keys values (index + 1)) := by
  refine .inl ?_
  simp only [passes, restart, withEntry]
  omega

end Frame

/-! ## One step -/

section Activations
variable {host : Host} {left i : Nat} (enters : Enters host left)
include enters

/-- **Every instruction in the core ends.** -/
theorem step_ends {ins : Instruction} (core : ins.isCore) :
    Ends host left (.instruction i) fun e => step e i ins := by
  have errand {α : Type} {x : Procedure α} (h : Errand .wide .alone (.instruction i) x) :
      Ends host left (.instruction i) x := h.ends (answers_wide enters)
  delta step
  cases known : Opcode.ofByte? ins.opcode with
  | none => exact .raise _
  | some op =>
    rw [Instruction.isCore, known] at core
    cases op with
    | entryLoop =>
      refine .bind (.bind (errand (pop_errand i)) fun body => ?_) fun v => ?_
      · exact .bind (errand (pop_errand i)) fun target => entryLoop_ends enters target body
      · exact .bind (errand (stackPush_errand i v)) fun _ => .pure _
    | countLoop | foreverLoop | pushNative | query => exact absurd core (by decide)
    | _ =>
      refine errand (execute_errand i ?_ ?_)
      · exact trivial
      · exact trivial

omit enters

/-- **Starting over** a frame that goes through entries takes the next entry, if there is one. -/
theorem startOver_entries {m : Machine} {keys values : Array Value} {index : Nat}
    (restart : (m.frame i).restart = some (.entries keys values index)) :
    let m₁ : Machine := { m with frames := m.frames.modify i fun f => { f with restart := none } }
    (∀ e, startOver e i m = .ok false m₁) ∨
      ∃ key value, index + 1 < keys.size ∧ ∀ e,
        startOver e i m = (do
          rebind i [key, value]
          updateFrame i fun f => f.withEntry keys values (index + 1)
          return true) m₁ := by
  intro m₁
  have read : readFrame i Frame.restart m = .ok (some (.entries keys values index)) m :=
    congrArg (EStateM.Result.ok · m) restart
  have cleared : updateFrame i (fun f => { f with restart := none }) m = .ok () m₁ := rfl
  have started (e : Engine) : startOver e i m = startOverFrom e i (.entries keys values index) m := by
    rw [startOver_eq, Action.bind_ok read]
  simp only [started, startOverFrom, Action.bind_ok cleared, advance]
  cases nextKey : keys[index + 1]? with
  | none => exact .inl fun e => rfl
  | some key =>
    cases nextValue : values[index + 1]? with
    | none => exact .inl fun e => rfl
    | some value =>
      obtain ⟨inside, -⟩ := Array.getElem?_eq_some_iff.mp nextKey
      refine .inr ⟨key, value, inside, fun e => ?_⟩
      simp only [bind_assoc, pure_bind]
      rfl

/-- An activation that is done does not go on. -/
theorem done_ne_next {v : Value} {m m' : Machine} : (.ok (.done v) m : Outcome Flow) ≠ .ok .next m' := by
  rintro ⟨⟩

/-- An activation that has failed does not go on. -/
theorem error_ne_next {failure : Failure} {m m' : Machine} : (.error failure m : Outcome Flow) ≠ .ok .next m' := by
  rintro ⟨⟩

/-- A step ends; and if the activation goes on, it is nearer to its end. -/
def StepsFrom (host : Host) (i : Nat) (m : Machine) : Prop :=
  ∃ (bound : Nat) (outcome : Outcome Flow),
    (∀ fuel, bound ≤ fuel → proceed (.ofHost host fuel) i m = outcome) ∧ outcome.Genuine ∧
      m.Onward (.activation i) outcome.state ∧
        ∀ m', outcome = .ok .next m' → (m'.frame i).Bounded ∧ (m.frame i).Nears (m'.frame i)

variable {m : Machine} (ready : m.Ready left) (innermost : m.depth = i + 1)
  (bounded : (m.frame i).Bounded)
include ready innermost bounded

/-- A step that executes an instruction. -/
theorem steps_instruction (enters : Enters host left) {ins : Instruction}
    (next : (m.frame i).stub.code[(m.frame i).pc]? = some ins) : StepsFrom host i m := by
  obtain ⟨inside, rfl⟩ := Array.getElem?_eq_some_iff.mp next
  let m₁ : Machine := { m with frames := m.frames.modify i fun f => { f with pc := f.pc + 1 } }
  have moved : m.Onward (.instruction i) m₁ := .frame m i fun _ => ⟨rfl, Nat.le_succ _⟩
  have core : (m.frame i).stub.code[(m.frame i).pc].isCore :=
    bounded.core.code _ (Array.getElem_mem inside)
  obtain ⟨bound, outcome, run, genuine, onward⟩ := step_ends enters core m₁ (moved.ready ready)
  have whole : m.Onward (.instruction i) outcome.state := moved.trans onward
  refine ⟨bound, outcome, fun fuel enough => ?_, genuine, whole.ofInstruction, ?_⟩
  · exact (proceed_instruction _ next).trans (run fuel enough)
  · rintro m' rfl
    have active : i < m.depth := by omega
    have inPool : i < m.frames.size := Nat.lt_of_lt_of_le active ready.sound.pooled
    have fetched : m₁.frame i = { m.frame i with pc := (m.frame i).pc + 1 } :=
      (Machine.frame_modify m i i _).trans (if_pos ⟨rfl, inPool⟩)
    have forwarded : (m₁.frame i).Forwarded (m'.frame i) := onward.forwarded active
    rw [fetched] at forwarded
    exact ⟨bounded.forwarded (whole.forwarded active), Frame.nears_fetched inside forwarded⟩

omit bounded in
/-- A step that takes the next entry of an object. -/
theorem steps_entries {keys values : Array Value} {index : Nat} (core : (m.frame i).stub.Core)
    (next : (m.frame i).stub.code[(m.frame i).pc]? = none)
    (restart : (m.frame i).restart = some (.entries keys values index)) : StepsFrom host i m := by
  let m₁ : Machine := { m with frames := m.frames.modify i fun f => { f with restart := none } }
  have cleared : m.Onward (.activation i) m₁ := .reframe m i fun _ => rfl
  rcases startOver_entries restart with ended | ⟨key, value, inside, again⟩
  · refine ⟨0, .ok (.done .empty) m₁, fun fuel _ => ?_, trivial, cleared, fun _ eq => (done_ne_next eq).elim⟩
    rw [proceed_end _ next, Action.bind_ok (ended _)]
    rfl
  · -- Only writing the entry to the parameters can fail.
    have rebound : Errand .still .alone (.instruction i) fun _ => rebind i [key, value] :=
      rebind_errand i fun _ _ => trivial
    obtain ⟨bound, outcome, run, genuine, onward⟩ :=
      rebound.ends (.still host left) m₁ (cleared.ready ready)
    cases outcome with
    | error failure m₂ =>
      refine ⟨bound, .error failure m₂, fun fuel enough => ?_, genuine,
        cleared.trans onward.ofInstruction, fun _ eq => (error_ne_next eq).elim⟩
      have failed : startOver (.ofHost host fuel) i m = .error failure m₂ :=
        (again _).trans (Action.bind_error (run fuel enough))
      rw [proceed_end _ next, Action.bind_error failed]
    | ok _ m₂ =>
      let m₃ : Machine :=
        { m₂ with frames := m₂.frames.modify i fun f => f.withEntry keys values (index + 1) }
      have whole : m.Onward (.activation i) m₂ := cleared.trans onward.ofInstruction
      refine ⟨bound, .ok .next m₃, fun fuel enough => ?_, trivial,
        whole.trans (.reframe m₂ i fun _ => rfl), ?_⟩
      · have done : startOver (.ofHost host fuel) i m = .ok true m₃ :=
          (again _).trans (Action.bind_ok (run fuel enough))
        rw [proceed_end _ next, Action.bind_ok done]
        rfl
      · rintro m' ⟨⟩
        have active : i < m.depth := by omega
        have inPool : i < m₂.frames.size :=
          Nat.lt_of_lt_of_le active (Nat.le_trans ready.sound.pooled whole.kept.pool)
        have frame : m₃.frame i = (m₂.frame i).withEntry keys values (index + 1) :=
          (Machine.frame_modify m₂ i i _).trans (if_pos ⟨rfl, inPool⟩)
        have stub : (m₂.frame i).stub = (m.frame i).stub := by
          have own := whole.kept.frames i active
          rw [Rank.Allows, if_pos rfl] at own
          rw [own]
        exact frame ▸ ⟨Frame.bounded_withEntry (stub ▸ core), Frame.nears_withEntry restart inside⟩

/-- **Every step ends**, and brings the activation nearer to its end. -/
theorem proceed_steps (enters : Enters host left) : StepsFrom host i m := by
  cases next : (m.frame i).stub.code[(m.frame i).pc]? with
  | some ins => exact steps_instruction ready innermost bounded enters next
  | none =>
    cases restart : (m.frame i).restart with
    | none =>
      refine ⟨0, .ok (.done .empty) m, fun fuel _ => ?_, trivial, .refl _ m,
        fun _ eq => (done_ne_next eq).elim⟩
      rw [proceed_end _ next, Action.bind_ok (startOver_none _ restart)]
      rfl
    | some condition =>
      have finite : condition.Finite := bounded.finite condition restart
      cases condition with
      | entries keys values index => exact steps_entries ready innermost bounded.core next restart
      | _ => exact finite.elim

omit ready innermost bounded

/-- **An activation ends.**  The recursion is on the passes that are left and, within a pass, on
the code ahead. -/
theorem runFrame_ends (enters : Enters host left) {m : Machine} (ready : m.Ready left)
    (innermost : m.depth = i + 1) (bounded : (m.frame i).Bounded) :
    ∃ (bound : Nat) (outcome : Outcome Value),
      (∀ fuel steps, bound ≤ fuel → bound ≤ steps →
        runFrame (.ofHost host fuel) i steps m = outcome) ∧ outcome.Genuine ∧
          m.Onward (.activation i) outcome.state := by
  obtain ⟨bound, outcome, run, genuine, onward, going⟩ :=
    proceed_steps ready innermost bounded enters
  have unfolded (fuel : Nat) {steps : Nat} (enough : bound + 1 ≤ steps) : ∃ n, steps = n + 1 ∧
      runFrame (.ofHost host fuel) i steps m =
        (proceed (.ofHost host fuel) i >>= Flow.resume (runFrame (.ofHost host fuel) i n)) m := by
    obtain ⟨n, rfl⟩ : ∃ n, steps = n + 1 := ⟨steps - 1, by omega⟩
    exact ⟨n, rfl, by rw [runFrame_succ]⟩
  cases outcome with
  | error failure m₁ =>
    refine ⟨bound + 1, .error failure m₁, fun fuel steps deep long => ?_, genuine, onward⟩
    obtain ⟨n, -, eq⟩ := unfolded fuel long
    rw [eq, Action.bind_error (run fuel (by omega))]
  | ok flow m₁ =>
    cases flow with
    | done v =>
      refine ⟨bound + 1, .ok v m₁, fun fuel steps deep long => ?_, trivial, onward⟩
      obtain ⟨n, -, eq⟩ := unfolded fuel long
      rw [eq, Action.bind_ok (run fuel (by omega))]
      rfl
    | next =>
      obtain ⟨bounded', nearer⟩ := going m₁ rfl
      have onward : m.Onward (.activation i) m₁ := onward
      obtain ⟨bound', outcome, run', genuine', onward'⟩ :=
        runFrame_ends enters (onward.ready ready) (onward.kept.depth.trans innermost) bounded'
      refine ⟨max bound bound' + 1, outcome, fun fuel steps deep long => ?_, genuine',
        onward.trans onward'⟩
      have longer : bound + 1 ≤ steps := by omega
      obtain ⟨n, rfl, eq⟩ := unfolded fuel longer
      rw [eq, Action.bind_ok (run fuel (by omega))]
      exact run' fuel n (by omega) (by omega)
termination_by ((m.frame i).passes, (m.frame i).ahead)
decreasing_by
  rcases nearer with fewer | ⟨same, closer⟩
  · exact .left _ _ fewer
  · rw [same]
    exact .right _ closer

end Activations

/-! ## Requests -/

theorem finally_id {α : Type} (x : Action α) (m : Machine) : finally_ x id m = x m := by
  rw [finally_]
  cases x m with
  | ok a m' => rfl
  | error failure m' => rfl

/-- **Entering a function in the core ends.**  The induction is on the depth that is left: if there
is none, the function is not entered. -/
theorem enters_core (host : Host) (left : Nat) : Enters host left := by
  induction left with
  | zero =>
    intro f parameters restart _ _ m ready
    have full : m.config.maxCallDepth ≤ m.depth := Nat.le_of_eq ready.room
    have refused : EndsFrom host .native (fun _ => (raise .depthExceeded : Action Value)) m :=
      .raised fun _ => rfl
    refine .enclosed id (fun fuel => ?_) refused fun _ => id
    rw [finally_id]
    exact (withFrame_eq f parameters restart _ m).trans (if_pos full)
  | succ left below =>
    intro f parameters restart core finite m ready
    have room : m.depth < m.config.maxCallDepth := by rw [ready.room]; omega
    let start : Machine := m.pushFrame f parameters restart
    have runs : start.RunsAt m.depth := Machine.pushFrame_runsAt f parameters restart ready.sound room
    have frame : start.frame m.depth = m.startFrame f restart :=
      Machine.frame_pushFrame_self f parameters restart ready.sound
    have startReady : start.Ready left := by
      refine ⟨runs.sound, ready.core.of_eq rfl rfl, ?_⟩
      show m.config.maxCallDepth = m.depth + 1 + left
      rw [ready.room]
      omega
    have startBounded : (start.frame m.depth).Bounded := by
      rw [frame]
      exact ⟨core, finite⟩
    obtain ⟨bound, outcome, run, genuine, onward⟩ :=
      runFrame_ends below startReady runs.innermost startBounded
    have body : EndsFrom host (.activation m.depth) (fun e => runFrame e m.depth e.fuel) start :=
      ⟨bound, outcome, fun fuel enough => run fuel fuel enough enough, genuine, onward⟩
    refine .enclosed Machine.popFrame (fun fuel => ?_) body fun m₁ onward => ?_
    · exact (withFrame_eq f parameters restart _ m).trans (if_neg (Nat.not_le_of_lt room))
    · exact .of_frames (.entered f parameters restart ready.sound onward.kept) fun core =>
        (onward.core (core.of_eq rfl rfl)).of_eq rfl rfl

/-! ## Modules -/

section Modules
variable {host : Host} {left : Nat}

/-- What settling makes of a genuine outcome is genuine. -/
theorem settle_genuine {outcome : Outcome Value} (genuine : outcome.Genuine) (m : Machine) :
    Outcome.Genuine (settle (fun _ => outcome) m) := by
  rcases settle_cases (fun _ => outcome) m with eq | ⟨failure, m₁, run, -, settled⟩
  · rwa [eq]
  · rcases settled with ⟨c, -, -, -, eq⟩ | ⟨c, -, -, -, eq⟩ | ⟨-, eq⟩
    · rw [eq]
      exact trivial
    · rw [eq]
      rintro ⟨⟩
    · rw [eq]
      rwa [show outcome = .error failure m₁ from run] at genuine

/-- Calling the entry of a file ends. -/
theorem runFile_ends (file : UInt32) : Ends host left .native fun e => runFile e file := by
  intro m ready
  cases entry : m.stubs[(file, (0 : UInt32))]? with
  | none =>
    have run (e : Engine) : runFile e file m = .error (.fatal (.missingEntryOfFile file)) m := by
      simp only [runFile, Action.bind_eq, Action.read, entry]
      rfl
    exact .error run (by rintro ⟨⟩) (.refl _ m)
  | some stub =>
    have core : stub.Core := ready.core.stubs file 0 stub entry
    let m₁ := m.withFunction (.ofStub stub)
    have run (e : Engine) : runFile e file m = e.call (.object ⟨m.objects.size + 1⟩) [] m₁ := by
      simp only [runFile, Action.bind_eq, Action.read, entry]
      rfl
    have made : m.Onward .native m₁ :=
      .of_frames (.of_frames_eq rfl rfl rfl rfl) fun whole => whole.withFunction core
    obtain ⟨bound, outcome, called, genuine, onward⟩ :=
      answers_wide (enters_core host left) (.object ⟨m.objects.size + 1⟩) [] none trivial m₁
        (made.ready ready)
    exact ⟨bound, outcome, fun fuel enough => (run _).trans (called fuel enough), genuine,
      made.trans onward⟩

/-- Loading a file in the core into a new machine. -/
theorem load_core (config : Config) (name : String) {bytes : List UInt8}
    (core : ∀ stubs, Record.readAll 1 bytes = .ok stubs →
      ∀ s ∈ stubs, ∀ ins ∈ s.code, ins.isCore) :
    (∃ m, load name bytes (.initial config) = .ok 1 m ∧ m.Ready config.maxCallDepth) ∨
      ∃ cause, load name bytes (.initial config) = .error (.fatal cause) (.initial config) := by
  have file : UInt32.ofNat (Machine.initial config).files.size = 1 := rfl
  have room : ¬ UInt32.size ≤ (Machine.initial config).files.size := by
    show ¬ UInt32.size ≤ 1
    decide
  simp only [load, file, if_neg room]
  cases read : Record.readAll 1 bytes with
  | error fault => exact .inr ⟨_, rfl⟩
  | ok stubs =>
    by_cases complete : stubs.any (·.id == 0) = true
    · simp only [complete, if_true]
      refine .inl ⟨_, rfl, ⟨Nat.zero_le _, Nat.zero_le _⟩, ⟨fun f has => ?_, fun file id s has => ?_⟩,
        (Nat.zero_add _).symm⟩
      · obtain ⟨o, function⟩ := has
        cases function
      · rcases registerStubs_cases has with before | ⟨member, -⟩
        · exact absurd before (by simp [Machine.initial])
        · have script : s.file = 1 := Record.readAll_file read s member
          exact ⟨by rw [Stub.isNative, script]; rfl, core stubs read s member⟩
    · simp only [complete]
      exact .inr ⟨_, rfl⟩

end Modules

/-- **The core terminates.**  A module in which no instruction is one of the unbounded loops,
pushes a native function or asks a query ends in a new machine, whatever the settings and the
embedder: with enough fuel its outcome is always the same, and it is a value or a failure other than
that the fuel was exhausted. -/
theorem core_module_ends (host : Host) (config : Config) (name : String) (bytes : List UInt8)
    (core : ∀ stubs, Record.readAll 1 bytes = .ok stubs →
      ∀ s ∈ stubs, ∀ ins ∈ s.code, ins.isCore) :
    ∃ (bound : Nat) (outcome : Outcome Value),
      (∀ fuel, bound ≤ fuel →
        runModule (.ofHost host fuel) name bytes (.initial config) = outcome) ∧
      ((∃ v m, outcome = .ok v m) ∨
        ∃ failure m, outcome = .error failure m ∧ failure ≠ .exhausted) := by
  rcases load_core config name core with ⟨m, loaded, ready⟩ | ⟨cause, unloaded⟩
  · have ends : EndsFrom host .native (fun e => runFile e 1) m := runFile_ends 1 m ready
    obtain ⟨bound, outcome, run, genuine, -⟩ := ends
    have settled {fuel : Nat} (enough : bound ≤ fuel) :
        settle (runFile (.ofHost host fuel) 1) m = settle (fun _ => outcome) m := by
      simp only [settle, run fuel enough]
    replace genuine := settle_genuine genuine m
    cases result : settle (fun _ => outcome) m with
    | ok v m₁ =>
      refine ⟨bound, .ok v { m₁ with
        modules := m₁.modules.insert name v, history := m₁.history.push (.ran name v) },
        fun fuel enough => ?_, .inl ⟨_, _, rfl⟩⟩
      rw [runModule, runAs, Action.bind_ok loaded, Action.bind_ok ((settled enough).trans result)]
      rfl
    | error failure m₁ =>
      refine ⟨bound, .error failure m₁, fun fuel enough => ?_, .inr ⟨failure, m₁, rfl, ?_⟩⟩
      · rw [runModule, runAs, Action.bind_ok loaded,
          Action.bind_error ((settled enough).trans result)]
      · rwa [result] at genuine
  · exact ⟨0, _, fun fuel _ => runAs_unloaded unloaded, .inr ⟨_, _, rfl, by rintro ⟨⟩⟩⟩

/-- An entry that makes a closure of itself and calls it, and so on. -/
def recursiveStub : Stub :=
  { Stub.blank 1 0 with
    code := #[⟨1, 7, .stub 0⟩, ⟨1, 12, .number (Float.ofBits 0)⟩, ⟨1, 20, .number (Float.ofBits 0)⟩] }

theorem recursive_module_ends :
    ∃ bytes, Record.writeAll [recursiveStub] = .ok bytes ∧
      ∃ (bound : Nat) (outcome : Outcome Value),
        (∀ fuel, bound ≤ fuel →
          runModule (.ofHost .complaining fuel) "main" bytes (.initial .standard) = outcome) ∧
        ((∃ v m, outcome = .ok v m) ∨
          ∃ failure m, outcome = .error failure m ∧ failure ≠ .exhausted) := by
  obtain ⟨bytes, written⟩ : ∃ bytes, Record.writeAll [recursiveStub] = .ok bytes := ⟨_, rfl⟩
  have paired : ∀ s ∈ [recursiveStub], ∀ i ∈ s.code, i.Paired := by
    simp [recursiveStub, Instruction.Paired, Opcode.ofByte?, Opcode.all]
  refine ⟨bytes, written, core_module_ends .complaining .standard "main" bytes fun stubs read => ?_⟩
  obtain rfl := Except.ok.inj (read.symm.trans (Record.readAll_writeAll paired written 1))
  simp [recursiveStub, Instruction.isCore, Opcode.ofByte?, Opcode.all, Opcode.isCore]

end StubMachine
