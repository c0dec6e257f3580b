import StubMachine.Proofs.Demand
import StubMachine.Proofs.Evolution.Instruction
import StubMachine.Proofs.Evolution.Primitive

/-!
# Requests and sessions evolve the store

-/

namespace StubMachine

open StubMachine.Action Std.Do

set_option mvcgen.warning false

/-- **A plan that only stops**: what it has fail fails in the state in which it was started. -/
def Plan.Stops (plan : Plan) : Prop := ∀ μ failure n, plan μ = some (failure, n) → n = μ.machine

theorem Plan.idle_stops : Plan.idle.Stops := fun _ _ _ planned => nomatch planned

theorem Host.complaining_sound [L : Latitude] : Host.complaining.Sound := by
  intro handle args e m _
  refine (raiseError_fails (args.getD 0 .empty)).sound.weaken fun backed => ?_
  rw [Array.getD_eq_getD_getElem?]
  cases at_ : args[0]? with
  | none => exact Machine.backs_empty
  | some v => exact backed v (Array.mem_of_getElem? at_)

namespace Machine.Whole
variable {m : Machine} (h : m.Whole)
include h

/-- A machine stays whole when a function is entered. -/
theorem pushFrame {f : FunctionFacet} {parameters : Array Value} {restart : Option Restart}
    (given : m.Backs parameters) (restarts : m.Backs restart) :
    (m.pushFrame f parameters restart).Whole := by
  have frame : m.Backs (m.startFrame f restart) := ⟨backs_nil, restarts⟩
  have idle : m.Backs Frame.idle := ⟨backs_nil, backs_none⟩
  have frames : m.Backs (m.roomyFrames.setIfInBounds m.depth (m.startFrame f restart)) := by
    refine backs_setIfInBounds ?_ frame m.depth
    unfold roomyFrames
    split
    · exact h.frames
    · intro f mem
      rcases Array.mem_push.mp mem with old | rfl
      · exact h.frames f old
      · exact idle
  have slots : m.Backs (m.slots.push (freshReferrables f.stub parameters)) := by
    intro a mem
    rcases Array.mem_push.mp mem with old | rfl
    · exact h.slots a old
    · intro v mem
      rcases Array.mem_append.mp mem with bound | filled
      · exact given v bound
      · exact backs_replicate backs_empty _ v filled
  exact { h with frames, slots }

/-- A machine stays whole when a function is left. -/
theorem popFrame : m.popFrame.Whole := by
  have frames : m.Backs (m.frames.modify (m.depth - 1) retire) :=
    backs_modify h.frames fun _ _ => ⟨backs_nil, backs_none⟩
  exact { h with frames }

end Machine.Whole

section
variable [L : Latitude] {m₀ : Machine}

/-- Leaving is not a change of the store. -/
theorem finally_sound {α : Type} [Refers α] {x : Action α} {f : Machine → Machine} {assumed : Prop}
    (h : Sound m₀ assumed x) (aside : ∀ m, (f m).estate = m.estate) (whole : ∀ m, m.Whole → (f m).Whole) :
    Sound m₀ assumed (finally_ x f) := by
  rw [sound_iff] at h ⊢
  intro whole₀ holds
  have ended := h whole₀ holds
  unfold finally_
  cases run : x m₀ with
  | ok a m =>
    rw [run] at ended
    have left : m.Evolves (f m) := .change (.aside (aside m))
    exact ⟨ended.1.trans left, whole m ended.2.1, ended.2.2.mono left⟩
  | error failure m =>
    rw [run] at ended
    exact ⟨ended.1.trans (.change (.aside (aside m))), whole m ended.2⟩

theorem underway_sound {x : Action Value} {assumed : Machine → Prop}
    (h : ∀ m, Sound m (assumed m) x) (counts : ∀ m, assumed m → assumed { m with reentry := m.reentry + 1 }) :
    Sound m₀ (assumed m₀) (underway x) := by
  rw [sound_iff]
  intro whole holds
  rw [underway_eq]
  have left := finally_sound (f := fun m => { m with reentry := m.reentry - 1 })
    (h { m₀ with reentry := m₀.reentry + 1 }) (fun _ => rfl) fun m whole => { whole with }
  exact left.after (.change (.aside rfl)) { whole with } (counts m₀ holds)

/-- **Running something in a frame of its own evolves the store** if what runs does. -/
theorem withFrame_sound {f : FunctionFacet} {parameters : Array Value} {restart : Option Restart}
    {body : Nat → Action Value} (h : ∀ place m, Sound m True (body place)) :
    Sound m₀ (m₀.Backs parameters ∧ m₀.Backs restart) (withFrame f parameters restart body) := by
  rw [sound_iff]
  intro whole ⟨given, restarts⟩
  rw [withFrame_eq]
  by_cases full : m₀.config.maxCallDepth ≤ m₀.depth
  · rw [if_pos full]
    exact sound_iff.mp (Fails.sound (raise_fails (α := Value) .depthExceeded)) whole trivial
  · rw [if_neg full]
    have entered : m₀.Evolves (m₀.pushFrame f parameters restart) := .change (.aside rfl)
    have left := finally_sound (f := Machine.popFrame)
      (h m₀.depth (m₀.pushFrame f parameters restart)) (fun _ => rfl) fun m whole => whole.popFrame
    exact left.after entered (whole.pushFrame given restarts) trivial

theorem supervise_sound {α : Type} [Refers α] {plan : Plan} (stops : plan.Stops) {activity : Activity}
    {x : Action α} {assumed : Prop} (h : Sound m₀ assumed x) :
    Sound m₀ assumed (plan.supervise activity x) := by
  rw [sound_iff] at h ⊢
  intro whole holds
  cases planned : plan ⟨activity, m₀⟩ with
  | none =>
    rw [Plan.supervise_carriedOut planned]
    exact h whole holds
  | some mishap =>
    rw [Plan.supervise_fails planned, stops _ _ _ planned]
    exact ⟨.refl m₀, whole⟩

@[spec] theorem fetchInstruction_sound (i : Nat) : Sound m₀ True (fetchInstruction i) := by
  apply Sound.intro
  mvcgen [fetchInstruction]
  all_goals grind

variable {plan : Plan} (stops : plan.Stops) {e : Engine} (engine : e.Sound)
include stops engine

theorem proceedUnder_sound (i : Nat) : Sound m₀ True (proceedUnder plan e i) := by
  have executes (ins : Instruction) (m : Machine) :
      Sound m True (plan.supervise (.instruction e.fuel i ins) (step e i ins)) :=
    supervise_sound stops (step_sound i engine ins)
  have startsOver (m : Machine) :
      Sound m True (plan.supervise (.startOver e.fuel i) (startOver e i)) :=
    supervise_sound stops (startOver_sound i engine)
  apply Sound.intro
  mvcgen [proceedUnder, executes, startsOver]
  all_goals grind

theorem runFrameUnder_sound (i steps : Nat) : Sound m₀ True (runFrameUnder plan e i steps) := by
  induction steps generalizing m₀ with
  | zero => exact Fails.sound (throw_fails _)
  | succ steps ih =>
    refine (proceedUnder_sound stops engine i).bind fun flow m _ => ?_
    cases flow with
    | next => exact ih.assuming _
    | done v =>
      rw [sound_iff]
      exact fun whole backed => ⟨.refl m, whole, backed⟩

omit engine in
/-- **Whatever is requested evolves the store**, also if the run is stopped anywhere. -/
theorem Plan.engine_sound {host : Host} (hosted : host.Sound) (fuel : Nat) :
    (plan.engine host fuel).Sound := by
  induction fuel with
  | zero =>
    exact fun request m => (Fails.sound (throw_fails _)).assuming _
  | succ fuel ih =>
    intro request m
    refine supervise_sound stops ?_
    cases request with
    | call function arguments binding =>
      have called (m : Machine) :
          Sound m (m.Backs (Request.call function arguments binding))
            (callValue host ⟨fuel, performUnder plan host fuel⟩ function arguments binding) :=
        callValue_sound ih hosted function arguments binding
      exact underway_sound called fun _ backed => backed
    | enter f parameters restart =>
      exact (withFrame_sound fun place m => runFrameUnder_sound stops ih place fuel).weaken
        fun backed => backed.2

end

/-! ## Sessions -/

instance : Refers EntryPoint where
  Within n entry := match entry with
    | .run .. | .importModule _ => True
    | .callFunction function arguments => Refers.Within n function ∧ Refers.Within n arguments
  mono {_ _ entry} h le := match entry, h with
    | .run .., h | .importModule _, h => h
    | .callFunction .., h => ⟨Refers.mono h.1 le, Refers.mono h.2 le⟩

instance : Refers Dealing where
  Within n d := match d with
    | .enter entry => Refers.Within n entry
    | .register .. | .decode _ => True
    | .getMember target key _ => Refers.Within n target ∧ Refers.Within n key
    | .setMember target key v _ =>
      Refers.Within n target ∧ Refers.Within n key ∧ Refers.Within n v
    | .keys o | .values o => Refers.Within n o
    | .convert v _ | .unary _ v | .query v _ | .encode v => Refers.Within n v
    | .binary _ l r => Refers.Within n l ∧ Refers.Within n r
    | .assign _ current operand => Refers.Within n current ∧ Refers.Within n operand
  mono {_ _ d} h le := match d, h with
    | .enter _, h => Refers.mono h le
    | .register .., h | .decode _, h => h
    | .getMember .., h => ⟨Refers.mono h.1 le, Refers.mono h.2 le⟩
    | .setMember .., h => ⟨Refers.mono h.1 le, Refers.mono h.2.1 le, Refers.mono h.2.2 le⟩
    | .keys _, h | .values _, h => Refers.mono h le
    | .convert .., h | .unary .., h | .query .., h | .encode _, h => Refers.mono h le
    | .binary .., h => ⟨Refers.mono h.1 le, Refers.mono h.2 le⟩
    | .assign .., h => ⟨Refers.mono h.1 le, Refers.mono h.2 le⟩

/-- What is asked refers to objects that exist, and no module is run but those that may be. -/
structure Dealing.Admissible [L : Latitude] (m : Machine) (d : Dealing) : Prop where
  backs : m.Backs d
  runs : ∀ name bytes, d = .enter (.run name bytes) → L.runs name

/-- Everything that is asked in a session is admissible when it is asked. -/
def Session.Admissible [L : Latitude] (host : Host) (e : Engine) : Session → Machine → Prop
  | .ends, _ => True
  | .deals d next, m =>
    d.Admissible m ∧
      (next (d.answer host e m).1).Admissible host e (d.answer host e m).2

section
variable [L : Latitude] {m₀ : Machine} {host : Host} {e : Engine} (engine : e.Sound)

theorem registerExternal_sound (name : String) (parameters : List String) (handle : Nat) :
    Sound m₀ True (registerExternal name parameters handle) := by
  rw [sound_iff]
  intro whole _
  have natives : m₀.Backs (m₀.natives.push
      (Native.make m₀.natives.size name parameters (.hosted handle))) := by
    intro native mem
    rcases Array.mem_push.mp mem with old | rfl
    · exact whole.natives native old
    · exact Machine.backs_none
  exact ⟨.change (.aside rfl), { whole with natives }, trivial⟩

theorem listed_sound (v : Value) :
    Sound m₀ (m₀.Backs v) (pure [v] : EStateM Failure Machine (List Value)) := by
  apply Sound.intro
  mvcgen
  all_goals grind

include engine

theorem start_sound (entry : EntryPoint) :
    Sound m₀ (Dealing.Admissible m₀ (.enter entry)) (entry.start host e) := by
  cases entry with
  | run name bytes =>
    exact (runModule_sound engine name bytes).weaken fun admissible => admissible.runs name bytes rfl
  | importModule name => exact (importModule_sound engine host name).assuming _
  | callFunction function arguments =>
    exact (callFunction_sound engine function arguments).weaken fun admissible => admissible.backs

/-- **Whatever an embedder asks evolves the store.** -/
theorem carryOut_sound (d : Dealing) : Sound m₀ (d.Admissible m₀) (d.carryOut host e) := by
  cases d with
  | enter entry => exact (start_sound engine entry).bind fun v _ _ => listed_sound v
  | register name parameters handle =>
    exact ((registerExternal_sound name parameters handle).assuming _).bind fun id m _ =>
      (listed_sound (.ofNat id)).weaken fun _ => Machine.backs_ofNat id
  | getMember target key accessor =>
    exact ((getMember_sound engine target key accessor).weaken fun asked => asked.backs).bind
      fun v _ _ => listed_sound v
  | setMember target key v accessor =>
    exact ((setMember_sound engine target key v accessor).weaken fun asked => asked.backs).bind
      fun v _ _ => listed_sound v
  | keys o => exact (objectKeys_sound engine o).assuming _
  | values o => exact (objectValues_sound engine o).weaken fun asked => asked.backs
  | convert v t =>
    exact ((convertTo_sound engine v t).weaken fun asked => asked.backs).bind
      fun v _ _ => listed_sound v
  | binary op l r =>
    exact ((binaryOperation_sound engine op l r).weaken fun asked => asked.backs).bind
      fun v _ _ => listed_sound v
  | unary op v =>
    exact ((unaryOperation_sound engine op v).weaken fun asked => asked.backs).bind
      fun v _ _ => listed_sound v
  | assign a current operand =>
    refine ((compoundAssignment_sound engine a current operand).weaken fun asked => asked.backs).bind
      fun v? m _ => ?_
    rw [sound_iff]
    exact fun whole backed => ⟨.refl m, whole, fun v mem => backed v (Option.mem_toList.mp mem)⟩
  | query base id =>
    exact ((ask_sound engine base id).weaken fun asked => asked.backs).bind
      fun v _ _ => listed_sound v
  | encode v =>
    exact ((encodeJson_sound engine v).weaken fun asked => asked.backs).bind
      fun text _ _ => (listed_sound (.string text)).weaken fun _ => Machine.backs_string text
  | decode text =>
    exact ((decodeJson_sound text).assuming _).bind fun v _ _ => listed_sound v

/-- **The store evolves in a session**, and stays whole. -/
theorem Session.evolves (session : Session) {m : Machine} (whole : m.Whole)
    (admissible : session.Admissible host e m) :
    m.Evolves (session.run host e m).2 ∧ (session.run host e m).2.Whole := by
  induction session generalizing m with
  | ends => exact ⟨.refl m, whole⟩
  | deals d next ih =>
    obtain ⟨asked, others⟩ := admissible
    have answered : m.Evolves (d.answer host e m).2 ∧ (d.answer host e m).2.Whole := by
      have sound : Sound m (d.Admissible m) (d.carryOut host e) := carryOut_sound engine d
      have ended := sound_iff.mp sound whole asked
      unfold Dealing.answer
      cases run : d.carryOut host e m with
      | ok given m' =>
        rw [run] at ended
        exact ⟨ended.1, ended.2.1⟩
      | error failure m' =>
        rw [run] at ended
        exact ended
    obtain ⟨evolved, whole'⟩ := ih (d.answer host e m).1 answered.2 others
    exact ⟨answered.1.trans evolved, whole'⟩

end

/-- A new machine is whole. -/
theorem Machine.initial_whole (config : Config) : (Machine.initial config).Whole where
  builtins := Nat.le_of_eq Array.size_map.symm
  objects := by
    intro object mem
    cases Array.not_mem_empty object mem
  slots := by
    intro a mem
    rw [Array.mem_singleton.mp mem]
    intro v mem
    cases Array.not_mem_empty v mem
  frames := by
    have idle : (Machine.initial config).Backs Frame.idle := ⟨backs_nil, backs_none⟩
    exact backs_replicate idle config.framePool
  modules := fun name v known => by simp [Machine.initial] at known
  natives := by
    intro native mem
    obtain ⟨i, hi, rfl⟩ := List.mem_mapIdx.mp (List.mem_toArray.mp mem)
    exact backs_none
  pending := backs_none
  lastUnhandled := backs_none

end StubMachine
