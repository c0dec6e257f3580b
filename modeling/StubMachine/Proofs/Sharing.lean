import StubMachine.Proofs.Sharing.Requests

/-!
# Captured variables are live and shared

A closure shares the variables that it captures with the frame that owns them and with
every other closure that captured them, while their owner runs and after it has returned.

**In every state that a machine can be in there is a ledger that it is linked to**, also
in the middle of whatever runs (`Machine.Linked`), and the ledger of a later state
continues that of an earlier one; so no array of variables ever changes its length.
What follows for a single state is collected in `Machine.Shares`: closures hold what
their stubs ask for, found in the scope in which they are made; a frame can read and
assign to all that it holds; and what one holder assigns is what every other holder
reads, while all other variables stay as they are.

Between an assignment and the next one any number of things may happen.  A variable keeps
its value through any activity in the course of which nothing that may assign to it is
started.
-/

namespace StubMachine

open StubMachine.Action

/-! ## Reading and assigning -/

namespace Machine
variable {L : Ledger} {m : Machine}

/-- What a frame can name it can read. -/
theorem readReferrable_eq {i slot : Nat} {c : Capture} {v : Value}
    (named : (m.frame i).site? slot = some c) (there : m.slot? c = some v) :
    readReferrable i slot m = .ok v m := by
  have looked : Action.read (fun m => ((m.frame i).site? slot).bind m.slot?) m = .ok (some v) m := by
    show EStateM.Result.ok (((m.frame i).site? slot).bind m.slot?) m = _
    rw [named]
    exact congrArg (EStateM.Result.ok · m) there
  rw [readReferrable, Action.bind_ok looked]
  rfl

/-- What a frame can name it can assign to. -/
theorem writeReferrable_eq {i slot : Nat} {c : Capture} {old : Value}
    (named : (m.frame i).site? slot = some c) (there : m.slot? c = some old) (v : Value) :
    writeReferrable i slot v m = .ok () (m.setSlot c v) := by
  have looked : Action.read (fun m => ((m.frame i).site? slot).filter fun c => (m.slot? c).isSome) m
      = .ok (some c) m := by
    show EStateM.Result.ok (((m.frame i).site? slot).filter fun c => (m.slot? c).isSome) m = _
    rw [named, Option.filter_some, there]
    rfl
  rw [writeReferrable, Action.bind_ok looked]
  rfl

/-- A frame can name its own variables and those that it captured. -/
theorem exists_site (fr : Frame) {slot : Nat}
    (bound : slot < fr.stub.referrableCount + fr.captures.size) : ∃ c, fr.site? slot = some c := by
  rw [Frame.site?]
  by_cases own : slot < fr.stub.referrableCount
  · rw [if_pos own]
    exact ⟨_, rfl⟩
  · rw [if_neg own]
    exact ⟨_, Array.getElem?_eq_getElem (by omega)⟩

/-- **What it means for the variables of a machine to be live and shared.** -/
structure Shares (L : Ledger) (m : Machine) : Prop where
  /-- A function that was made in a scope holds what its stub asks for. -/
  closed (f : FunctionFacet) : m.HasFunction f → f.origin ≠ [] → f.Closed L
  /-- A closure is made in the scope of the frame in which it is made. -/
  made (i : Nat) (id : UInt32) (types : Option (Array TypeId)) (v : Value) (m' : Machine) :
    makeClosure i id types m = .ok v m' →
      ∃ o f, v = .object o ∧ (m'.object o).function? = some f ∧
        f.stub.file = (m.frame i).stub.file ∧ f.stub.id = id ∧ f.origin = (m.frame i).scope ∧
        f.Closed L ∧ m'.Linked L
  /-- A frame that is entered holds what the function captured, and a new array on record. -/
  entered (f : FunctionFacet) (parameters : Array Value) (restart : Option Restart) :
    m.Sound → f.Rooted L →
      let m' := m.pushFrame f parameters restart
      (m'.frame m.depth).stub = f.stub ∧ (m'.frame m.depth).captures = f.captures ∧
        (m'.frame m.depth).scope = ⟨f.stub.file, f.stub.id, ⟨L.length⟩⟩ :: f.origin ∧
        m'.Linked (L ++ [freshDeed f parameters]) ∧
        ∀ c v, m.slot? c = some v → m'.slot? c = some v
  /-- A frame can read all its own variables and those that it captured, within their arrays. -/
  live (i slot : Nat) : slot < (m.frame i).stub.referrableCount + (m.frame i).captures.size →
    ∃ c v, (m.frame i).site? slot = some c ∧ L.Covers c ∧ m.slot? c = some v ∧
      readReferrable i slot m = .ok v m
  /-- What a frame assigns to a variable is what every frame reads that can name it, and no other
  variable changes. -/
  shared (i slot : Nat) (c : Capture) (v : Value) : (m.frame i).site? slot = some c →
    let m' := m.setSlot c v
    writeReferrable i slot v m = .ok () m' ∧ m'.Linked L ∧ m'.slot? c = some v ∧
      (∀ j slot', (m'.frame j).site? slot' = some c → readReferrable j slot' m' = .ok v m') ∧
      ∀ c', c' ≠ c → m'.slot? c' = m.slot? c'

/-- **The variables of a linked machine are live and shared.** -/
theorem Linked.shares (h : m.Linked L) : m.Shares L where
  closed f has made := by
    rcases h.functions f has with bare | closed
    · exact absurd bare.origin made
    · exact closed
  made i id types v m' run := by
    rcases makeClosure_cases i id types m with
      ⟨fault, raised⟩ | ⟨cause, fatal⟩ | ⟨stub, captures, here, resolved, made⟩
    · obtain ⟨o, m₁, -, error⟩ := raiseError_eq (α := Value) (.string fault.message) m
      cases run.symm.trans (raised.trans error)
    · cases run.symm.trans fatal
    · cases run.symm.trans made
      obtain ⟨file, id_eq⟩ := h.stubs _ _ stub here
      have closed := h.closed here resolved types
      exact ⟨_, m.closure i stub captures types, rfl, m.newest_withFunction _, file, id_eq, rfl,
        closed, h.newFunction (.inr closed)⟩
  entered f parameters restart s rooted := by
    have frame := frame_pushFrame_self f parameters restart s
    refine ⟨by rw [frame]; rfl, by rw [frame]; rfl, ?_, h.pushFrame parameters restart rooted, ?_⟩
    · rw [frame, h.numbered]
      rfl
    · exact fun c v there => slot_pushFrame f parameters restart there
  live i slot bound := by
    obtain ⟨c, named⟩ := exists_site _ bound
    have covered := (h.frames i).sites slot c named
    obtain ⟨v, there⟩ := h.slot covered
    exact ⟨c, v, named, covered, there, readReferrable_eq named there⟩
  shared i slot c v named := by
    obtain ⟨old, there⟩ := h.slot ((h.frames i).sites slot c named)
    have assigned := slot_setSlot there v
    refine ⟨writeReferrable_eq named there v, h.setSlot c v, assigned, fun j slot' named' => ?_, ?_⟩
    · exact readReferrable_eq named' assigned
    · exact fun c' ne => slot_setSlot_ne m ne v

end Machine

/-! ## Activities -/

/-- Carry out an activity under a plan. -/
def Activity.carryOut (plan : Plan) (host : Host) : Activity → Action Unit
  | request fuel q => do
    let _ ← performUnder plan host fuel q
    return ()
  | instruction fuel i ins => do
    let _ ← plan.supervise (.instruction fuel i ins) (step (plan.engine host fuel) i ins)
    return ()
  | startOver fuel i => do
    let _ ← plan.supervise (.startOver fuel i) (StubMachine.startOver (plan.engine host fuel) i)
    return ()

/-- The activity is one that may be started at the moment: instructions are executed in the
innermost frame, and functions that are entered are rooted. -/
def Moment.Proper (L : Ledger) (μ : Moment) : Prop :=
  match μ.activity with
  | .request _ (.call _ _ _) => μ.machine.Sound
  | .request _ (.enter f _ _) => μ.machine.Sound ∧ f.Rooted L
  | .instruction _ i _ => μ.machine.RunsAt i
  | .startOver _ i => μ.machine.RunsAt i

/-- **The states that a machine of a tame embedder can be in** between the embedder's actions. -/
inductive TamelyReachable (host : Host) : Machine → Prop
  | initial (config : Config) : TamelyReachable host (.initial config)
  | act {α : Type} {x : Procedure α} {m : Machine} (fuel : Nat) : TamelyReachable host m →
      Restrained .none (fun _ => False) x →
      TamelyReachable host ((x (Engine.ofHost host fuel)).after m)

section Runs
variable {host : Host} {L : Ledger} {S : Capture → Prop} {m : Machine}

/-- What the law of sharing says of a run that starts in a linked machine. -/
theorem Law.Lockstep.sequel {place : Place} {known : Option FunctionFacet} {r : Rank} {α : Type}
    {x x' : Action α} (h : (Law.sharing m L S place known).Lockstep r x x') (linked : m.Linked L)
    (held : place.Holds m) (rooted : ∀ f, known = some f → f.Rooted L) :
    x' m = x m ∧ m.Sequel L S (x.after m) := by
  have here : m.Based L S known m :=
    ⟨.of_linked linked rfl, L, List.prefix_refl L, linked, rooted⟩
  obtain ⟨same, -, passes⟩ := h m ⟨held, here⟩
  exact ⟨same, passes L linked rooted⟩

/-- **What a tame embedder does leaves a machine linked**, also in between. -/
theorem Restrained.sequel (tame : host.Tame) (linked : m.Linked L) (s : m.Sound) (fuel : Nat)
    (mishap : Failure × Machine) {α : Type} {x : Procedure α}
    (restrained : Restrained .none (fun _ => False) x) :
    x (((Plan.refusing S).watching (m.Sequel L S) mishap).engine host fuel) m =
        x ((Plan.refusing S).engine host fuel) m ∧
      m.Sequel L S ((x ((Plan.refusing S).engine host fuel)).after m) :=
  (restrained.shared (performUnder_shared tame m L S mishap fuel)).sequel linked s
    fun f eq => by cases eq

/-- **An activity leaves a machine linked**, also in between. -/
theorem Activity.sequel (tame : host.Tame) (linked : m.Linked L) {activity : Activity}
    (proper : (⟨activity, m⟩ : Moment).Proper L) (mishap : Failure × Machine) :
    activity.carryOut ((Plan.refusing S).watching (m.Sequel L S) mishap) host m =
        activity.carryOut (Plan.refusing S) host m ∧
      m.Sequel L S ((activity.carryOut (Plan.refusing S) host).after m) := by
  have nothing {f : FunctionFacet} (eq : none = some f) : f.Rooted L := by cases eq
  have engines (fuel : Nat) := performUnder_shared tame m L S mishap fuel
  have ended {place : Place} {known : Option FunctionFacet} {r : Rank} {α : Type}
      {x x' : Action α} (h : (Law.sharing m L S place known).Lockstep r x x') :
      (Law.sharing m L S place known).Lockstep r (x >>= fun _ => pure ())
        (x' >>= fun _ => pure ()) :=
    h.bind fun _ => .of_rel fun m => (Law.sharing _ _ _ _ _).refl _ m
  cases activity with
  | request fuel q =>
    cases q with
    | call function arguments binding =>
      exact (ended ((engines fuel).called function arguments binding)).sequel linked proper
        fun _ => nothing
    | enter f parameters restart =>
      obtain ⟨s, rooted⟩ := proper
      refine (ended ((engines fuel).entered f parameters restart)).sequel linked s ?_
      rintro g ⟨⟩
      exact rooted
  | instruction fuel i ins =>
    have obeys : (Law.sharing m L S (.frame i (m.frame i).site?) none).Lockstep (.instruction i)
        ((Plan.refusing S).supervise (.instruction fuel i ins)
          (step ((Plan.refusing S).engine host fuel) i ins))
        (((Plan.refusing S).watching (m.Sequel L S) mishap).supervise (.instruction fuel i ins)
          (step (((Plan.refusing S).watching (m.Sequel L S) mishap).engine host fuel) i ins)) := by
      refine supervise_shared fun n hn free => step_shared (engines fuel) ?_ n hn
      exact fun known c named => free c ⟨known, by rw [hn.1.2]; exact named⟩
    exact (ended obeys).sequel linked ⟨proper, rfl⟩ fun _ => nothing
  | startOver fuel i =>
    have obeys : (Law.sharing m L S (.frame i (m.frame i).site?) none).Lockstep (.activation i)
        ((Plan.refusing S).supervise (.startOver fuel i)
          (StubMachine.startOver ((Plan.refusing S).engine host fuel) i))
        (((Plan.refusing S).watching (m.Sequel L S) mishap).supervise (.startOver fuel i)
          (StubMachine.startOver (((Plan.refusing S).watching (m.Sequel L S) mishap).engine host fuel) i)) := by
      refine supervise_shared fun n hn free => startOver_shared (engines fuel) hn ?_
      exact fun condition slot restart assigns c named =>
        free c ⟨condition, slot, restart, assigns, by rw [hn.1.2]; exact named⟩
    exact (ended obeys).sequel linked ⟨proper, rfl⟩ fun _ => nothing

end Runs

/-! ## Every state -/

section Reachable
variable {host : Host}

/-- If nothing is sealed, requests are carried out as ever. -/
theorem Plan.refusing_none_engine (host : Host) (fuel : Nat) :
    (Plan.refusing fun _ => False).engine host fuel = .ofHost host fuel := by
  rw [refusing_none]
  exact engine_truthful (idle_truthful host) fuel

theorem Host.Tame.confined (tame : host.Tame) : host.Confined :=
  fun handle args => (tame handle args).embedded (License.none_within _)

theorem TamelyReachable.reachable {m : Machine} (h : TamelyReachable host m) :
    Reachable host m := by
  induction h with
  | initial config => exact .initial config
  | act fuel _ restrained ih => exact .act fuel ih (restrained.embedded (License.none_within _))

/-- **A machine is linked to a ledger in every state that it can be in.** -/
theorem TamelyReachable.linked (tame : host.Tame) {m : Machine} (h : TamelyReachable host m) :
    ∃ L, m.Linked L := by
  induction h with
  | initial config => exact ⟨[Machine.baseDeed], .initial config⟩
  | @act α x m fuel before restrained ih =>
    obtain ⟨L, linked⟩ := ih
    have sound : m.Sound := before.reachable.sound tame.confined
    have sequel := (restrained.sequel (S := fun _ => False) tame linked sound fuel
      (.exhausted, m)).2
    rw [Plan.refusing_none_engine] at sequel
    obtain ⟨L', -, linked'⟩ := sequel.linked
    exact ⟨L', linked'⟩

end Reachable

/-! ## The whole run -/

/-- **Captured variables are live and shared.**  In every state that a machine can be in it is
linked to a ledger, and what comes after such a state is a sequel of it: also at every moment in
between, so that looking for it makes no difference.  In a linked machine the variables are live
and shared, and a variable keeps its value for all who hold it, in every sequel in the course of
which nothing that may assign to it has been started. -/
theorem captures_live_and_shared {host : Host} (tame : host.Tame) :
    (∀ m, TamelyReachable host m → m.Sound ∧ ∃ L, m.Linked L) ∧
    (∀ (L : Ledger) (m : Machine), m.Linked L → m.Shares L) ∧
    (∀ (L : Ledger) (m : Machine) S, m.Linked L → ∀ mishap : Failure × Machine,
      let plan := Plan.refusing S
      let seen := plan.watching (m.Sequel L S) mishap
      (∀ fuel (α : Type) (x : Procedure α), m.Sound → Restrained .none (fun _ => False) x →
        x (seen.engine host fuel) m = x (plan.engine host fuel) m ∧
          m.Sequel L S ((x (plan.engine host fuel)).after m)) ∧
      ∀ activity, (⟨activity, m⟩ : Moment).Proper L →
        activity.carryOut seen host m = activity.carryOut plan host m ∧
          m.Sequel L S ((activity.carryOut plan host).after m)) ∧
    (∀ fuel, (Plan.refusing fun _ => False).engine host fuel = .ofHost host fuel) ∧
    ∀ (L : Ledger) (m m' : Machine) c v, m.Sequel L (fun c' => c' = c) m' → m.slot? c = some v →
      m'.slot? c = some v ∧
        ∀ j slot, (m'.frame j).site? slot = some c → readReferrable j slot m' = .ok v m' := by
  refine ⟨fun m h => ⟨h.reachable.sound tame.confined, h.linked tame⟩,
    fun L m linked => linked.shares, fun L m S linked mishap => ⟨?_, ?_⟩,
    Plan.refusing_none_engine host, fun L m m' c v sequel there => ?_⟩
  · exact fun fuel α x sound restrained => restrained.sequel tame linked sound fuel mishap
  · exact fun activity proper => Activity.sequel tame linked proper mishap
  · have kept := sequel.kept c v rfl there
    exact ⟨kept, fun j slot named => Machine.readReferrable_eq named kept⟩

theorem Host.complaining_tame : Host.complaining.Tame :=
  fun _ args => .machine (.raiseError (args.getD 0 .empty))

/-- A function is entered that has a parameter, and a closure that captures it; what the closure
assigns is what the function reads. -/
theorem captured_parameter_shared :
    let owner := { Stub.blank 1 7 with parameters := #["x"] }
    let inner := { Stub.blank 1 8 with captures := #[⟨7, 0⟩] }
    let m := { Machine.initial .standard with stubs := Std.HashMap.insert ∅ (1, 8) inner }
    let outside := m.pushFrame (.ofStub owner) #[.empty] none
    ∃ f made, makeClosure 0 8 none outside = .ok (.object ⟨1⟩) made ∧
      (made.object ⟨1⟩).function? = some f ∧
      let inside := made.pushFrame f #[] none
      ∃ m', writeReferrable 1 0 (.boolean true) inside = .ok () m' ∧
        readReferrable 1 0 m' = .ok (.boolean true) m' ∧
        readReferrable 0 0 m' = .ok (.boolean true) m' := by
  intro owner inner m outside
  obtain ⟨-, shares, -⟩ := captures_live_and_shared Host.complaining_tame
  have stubs : m.stubs[((1 : UInt32), (8 : UInt32))]? = some inner :=
    Std.HashMap.getElem?_insert_self
  have linked : m.Linked [Machine.baseDeed] := by
    refine (Machine.Linked.initial .standard).stored ⟨.stored rfl, rfl, fun f has => .inl has, ?_⟩
    intro file id s has
    have found : (Std.HashMap.insert ∅ ((1 : UInt32), (8 : UInt32)) inner)[(file, id)]? = some s :=
      has
    rw [Std.HashMap.getElem?_insert] at found
    split at found
    · rename_i same
      cases eq_of_beq same
      cases found
      exact .inr ⟨rfl, rfl⟩
    · rw [Std.HashMap.getElem?_empty] at found
      cases found
  -- The function is entered, and the closure is made in its frame.
  have sound : m.Sound := ⟨Nat.zero_le _, Nat.zero_le _⟩
  obtain ⟨-, -, -, linkedOutside, -⟩ :=
    (shares _ m linked).entered (.ofStub owner) #[.empty] none sound (.inl (.ofStub owner))
  have soundOutside : outside.Sound :=
    (Machine.pushFrame_runsAt (.ofStub owner) #[.empty] none sound (by decide)).sound
  have started : outside.frame 0 = m.startFrame (.ofStub owner) none :=
    Machine.frame_pushFrame_self (.ofStub owner) #[.empty] none sound
  have here : outside.HasStub (outside.frame 0).stub.file 8 inner := by
    rw [started]
    exact stubs
  have resolved : inner.captures.mapM
      (outside.resolve (outside.frame 0).scope (outside.frame 0).stub.file 8) =
        .ok #[⟨⟨1⟩, 0⟩] := by
    rw [started, Array.mapM_eq_mapM_toList]
    rfl
  have run := makeClosure_ok here resolved none
  obtain ⟨o, f, same, function, -, -, -, closed, linkedMade⟩ :=
    (shares _ outside linkedOutside).made 0 8 none _ _ run
  cases same
  refine ⟨f, _, run, function, ?_⟩
  cases function
  -- Both frames name the variable.
  intro inside
  let f := outside.closure 0 inner #[⟨⟨1⟩, 0⟩] none
  have soundMade : (outside.withFunction f).Sound := ⟨soundOutside.bounded, soundOutside.pooled⟩
  obtain ⟨-, -, -, linkedInside, -⟩ :=
    (shares _ _ linkedMade).entered f #[] none soundMade (.inr closed)
  have capturing : (inside.frame 1).site? 0 = some ⟨⟨1⟩, 0⟩ :=
    congrArg (Frame.site? · 0) (Machine.frame_pushFrame_self f #[] none soundMade)
  have owning : (inside.frame 0).site? 0 = some ⟨⟨1⟩, 0⟩ := by
    have active : inside.frame 0 = outside.frame 0 :=
      Machine.pushFrame_frame f #[] none soundMade Nat.zero_lt_one
    exact congrArg (Frame.site? · 0) (active.trans started)
  obtain ⟨assigned, -, -, reads, -⟩ :=
    (shares _ inside linkedInside).shared 1 0 _ (.boolean true) capturing
  exact ⟨_, assigned, reads 1 0 capturing, reads 0 0 owning⟩

end StubMachine
