import StubMachine.Proofs.Development.Registry
import StubMachine.Proofs.Development.Requests

/-!
# Code stays in its file

Functions, scopes and frames carry the ids of the files that their code is from, and modules are
loaded while the code of others runs.  This module shows that all these ids fit together in every
state to which the code of a new machine develops, so also in the middle of whatever runs
(`Machine.Filed`): the stub of each function and of each active frame is registered in a file that
is loaded, and all activations in its scope are ones of stubs of that file.  Which activation an
array of variables was made for the machine does not remember, but a ledger does.

It is shown for one step of the code at a time, and for all of them by induction
(`Machine.Develops.filed`).  That everything that runs has the code develop in such steps has been
shown before (`Machine.Advances`).  So **code stays in its file** (`code_stays_in_its_file`).
-/

namespace StubMachine

open StubMachine.Action

/-! ## Code at home -/

/-- **Code of one file**: the stub is registered under its own file and id, and the scope consists
of activations of stubs of the same file. -/
structure Machine.Houses (m : Machine) (stub : Stub) (scope : Scope) : Prop where
  registered : m.HasStub stub.file stub.id stub
  scope : ∀ a ∈ scope, a.file = stub.file ∧ ∃ s, m.HasStub a.file a.stub s

/-- **A machine whose code is in files**: what is registered is so under a file that is loaded, and
the functions of scripts and the active frames are of one file each.  The ledger tells which
activation an array of variables was made for. -/
structure Machine.Filed (L : Ledger) (m : Machine) : Prop extends m.Linked L where
  pooled : m.depth ≤ m.frames.size
  /-- The first file is that of the native functions. -/
  preloaded : 0 < m.files.size
  loaded (file id : UInt32) (s : Stub) : m.HasStub file id s → file ≠ 0 ∧ file.toNat < m.files.size
  natives : ∀ n ∈ m.natives, n.stub.isNative = true
  housed (f : FunctionFacet) : m.HasFunction f → f.stub.isNative = false →
    m.Houses f.stub f.origin
  active : ∀ j < m.depth, m.Houses (m.frame j).stub (m.frame j).scope

namespace Machine
variable {m m' : Machine} {L L' : Ledger}

theorem Houses.mono {stub : Stub} {scope : Scope} (h : m.Houses stub scope)
    (kept : ∀ file id s, m.HasStub file id s → m'.HasStub file id s) : m'.Houses stub scope where
  registered := kept _ _ _ h.registered
  scope a member := by
    obtain ⟨file, s, has⟩ := h.scope a member
    exact ⟨file, s, kept _ _ _ has⟩

/-- Only what is registered plays a part. -/
theorem Houses.congr {stub : Stub} {scope : Scope} (h : m.Houses stub scope)
    (stubs : m'.stubs = m.stubs) : m'.Houses stub scope :=
  h.mono fun file id s has => by rwa [HasStub, stubs]

/-! ## What a step of the code preserves -/

/-- As long as the code stays as it is, a machine stays linked. -/
theorem Linked.sameCode (h : m.Linked L) (same : m.SameCode m') : m'.Linked L where
  numbered := by
    have sizes := congrArg Array.size same.slots
    rw [Array.size_map, Array.size_map] at sizes
    rw [sizes, h.numbered]
  lengths n deed on_record := by
    have lengths : ((m'.slots.map Array.size)[n]?) = (m.slots.map Array.size)[n]? := by
      rw [same.slots]
    rw [← h.lengths n deed on_record, referrables, referrables, Array.getD_eq_getD_getElem?,
      Array.getD_eq_getD_getElem?]
    rw [Array.getElem?_map, Array.getElem?_map] at lengths
    cases old : m.slots[n]? with
    | none =>
      rw [old] at lengths
      rw [Option.map_eq_none_iff.mp lengths]
    | some values =>
      rw [old] at lengths
      obtain ⟨values', new, size⟩ := Option.map_eq_some_iff.mp lengths
      rw [new]
      exact size
  functions f has := by
    obtain ⟨o, function⟩ := has
    exact h.functions f ⟨o, same.functions o f function⟩
  frames j := (h.frames j).progressed (same.frames j)
  stubs file id s has := by
    rw [HasStub, same.stubs] at has
    exact h.stubs file id s has

namespace Filed

/-- **A new machine has no code.** -/
theorem initial (config : Config) : (Machine.initial config).Filed [baseDeed] where
  toLinked := .initial config
  pooled := Nat.zero_le _
  preloaded := Nat.zero_lt_one
  loaded file id s has := absurd has (not_hasStub_initial config file id s)
  natives n member := by
    obtain ⟨id, bound, rfl⟩ := List.mem_mapIdx.mp (List.mem_toArray.mp member)
    rfl
  housed f has := absurd has (not_hasFunction_initial config f)
  active j active := absurd active (Nat.not_lt_zero j)

variable (h : m.Filed L)
include h

/-- The code stays as it is. -/
theorem aside (same : m.SameCode m') : m'.Filed L where
  toLinked := h.toLinked.sameCode same
  pooled := by
    rw [same.depth, same.pool]
    exact h.pooled
  preloaded := by
    rw [same.files]
    exact h.preloaded
  loaded file id s has := by
    rw [HasStub, same.stubs] at has
    rw [same.files]
    exact h.loaded file id s has
  natives n' member := by
    rcases same.natives n' member with native | ⟨n, old, same⟩
    · exact native
    · rw [same]
      exact h.natives n old
  housed f has script := by
    obtain ⟨o, function⟩ := has
    exact (h.housed f ⟨o, same.functions o f function⟩ script).congr same.stubs
  active j active := by
    rw [same.depth] at active
    have houses := (h.active j active).congr same.stubs
    have progressed := same.frames j
    rw [Frame.Progressed] at progressed
    rw [progressed]
    exact houses

/-- **A file is loaded**, and no binding changes that there was. -/
theorem withFile {bytes : List UInt8} {found : Array Stub} (room : m.files.size < UInt32.size)
    (decoded : Record.readAll (.ofNat m.files.size) bytes = .ok found) (name : String) :
    (m.withFile name found).Filed L := by
  have kept (file id : UInt32) (s : Stub) (has : m.HasStub file id s) :
      (m.withFile name found).HasStub file id s :=
    ((secures_withFile room).bindings file id (h.loaded file id s has).2).trans has
  have more : (m.withFile name found).files.size = m.files.size + 1 := Array.size_push _
  have preloaded := h.preloaded
  refine { h.toLinked.stored (.loaded m name decoded) with
    pooled := h.pooled
    preloaded := by omega
    loaded := fun file id s has => ?_
    natives := h.natives
    housed := fun f has script => ?_
    active := fun j active => (h.active j active).mono kept }
  · rcases registerStubs_cases has with before | ⟨-, place⟩
    · obtain ⟨script, loaded⟩ := h.loaded file id s before
      exact ⟨script, by omega⟩
    · obtain ⟨rfl, -⟩ := Prod.mk.inj place
      have new := nextFile_toNat room
      refine ⟨fun zero => ?_, by omega⟩
      rw [zero] at new
      exact Nat.ne_of_lt preloaded new
  · exact (h.housed f has script).mono kept

/-- A function comes to be that is at home if it is one of a script. -/
theorem withFunction {f : FunctionFacet} (rooted : f.Rooted L)
    (home : f.stub.isNative = false → m.Houses f.stub f.origin) :
    (m.withFunction f).Filed L := by
  refine { h.toLinked.newFunction rooted with
    pooled := h.pooled, preloaded := h.preloaded, loaded := h.loaded, natives := h.natives
    housed := fun g has script => ?_
    active := fun j active => (h.active j active).congr rfl }
  obtain ⟨o, function⟩ := has
  rw [Advances.function_withFunction] at function
  split at function
  · cases function
    exact (home script).congr rfl
  · exact (h.housed g ⟨o, function⟩ script).congr rfl

/-- **Every function comes to be at home**: closures in the file of the code that makes them. -/
theorem arisen {f : FunctionFacet} (arises : f.Arises m) : (m.withFunction f).Filed L := by
  cases arises with
  | @closure i id types stub captures innermost here resolved made =>
    obtain ⟨file, place⟩ := h.stubs _ _ stub here
    have houses := h.active i (innermost ▸ Nat.lt_succ_self i)
    subst made
    have closed := h.toLinked.closed here resolved types
    refine h.withFunction (.inr closed) fun _ => ⟨?_, fun a member => ?_⟩
    · show m.HasStub stub.file stub.id stub
      rw [file, place]
      exact here
    · obtain ⟨same, known⟩ := houses.scope a member
      exact ⟨same.trans file.symm, known⟩
  | @entry file stub here made =>
    obtain ⟨rfl, place⟩ := h.stubs _ _ stub here
    subst made
    refine h.withFunction (.inl (.ofStub stub)) fun _ => ⟨?_, fun a member => ?_⟩
    · show m.HasStub stub.file stub.id stub
      rw [place]
      exact here
    · cases member
  | native member same bare =>
    refine h.withFunction (.inl bare) fun script => ?_
    rw [same, h.natives _ member] at script
    cases script

/-- **A function is entered**, in a new activation of its stub. -/
theorem pushFrame {f : FunctionFacet} (has : m.HasFunction f) (script : f.stub.isNative = false)
    (parameters : Array Value) (restart : Option Restart) :
    (m.pushFrame f parameters restart).Filed (L ++ [freshDeed f parameters]) := by
  have houses := h.housed f has script
  refine { h.toLinked.pushFrame parameters restart (h.functions f has) with
    pooled := size_pushFrame f parameters restart h.pooled
    preloaded := h.preloaded, loaded := h.loaded, natives := h.natives
    housed := fun g has script => (h.housed g has script).congr rfl
    active := fun j active => ?_ }
  have active : j < m.depth + 1 := active
  rw [frame_pushFrame_eq f parameters restart h.pooled]
  split
  · refine ⟨houses.registered, fun a member => ?_⟩
    rcases List.mem_cons.mp member with rfl | outer
    · exact ⟨rfl, f.stub, houses.registered⟩
    · exact houses.scope a outer
  · exact (h.active j (by omega)).congr rfl

/-- **A function is left.** -/
theorem popFrame : m.popFrame.Filed L := by
  refine { h.toLinked.popFrame with
    pooled := ?_
    preloaded := h.preloaded, loaded := h.loaded, natives := h.natives
    housed := fun g has script => (h.housed g has script).congr rfl
    active := fun j active => ?_ }
  · show m.depth - 1 ≤ (m.frames.modify _ _).size
    rw [Array.size_modify]
    exact Nat.le_trans (Nat.sub_le _ _) h.pooled
  · have active : j < m.depth - 1 := active
    have frame : m.popFrame.frame j = m.frame j :=
      (frame_modify m (m.depth - 1) j retire).trans (if_neg fun own => by omega)
    rw [frame]
    exact (h.active j (by omega)).congr rfl

end Filed

/-- **The code of a machine stays in its files** as it develops, and the ledger only grows. -/
theorem Develops.filed (h : m.Develops m') (filed : m.Filed L) : ∃ L', L <+: L' ∧ m'.Filed L' := by
  induction h generalizing L with
  | aside same => exact ⟨L, List.prefix_refl L, filed.aside same⟩
  | loads run =>
    obtain ⟨room, rfl, found, decoded, -, rfl⟩ := load_ok run
    exact ⟨L, List.prefix_refl L, filed.withFile room decoded _⟩
  | makes arises => exact ⟨L, List.prefix_refl L, filed.arisen arises⟩
  | enters parameters restart has script =>
    exact ⟨_, List.prefix_append _ _, filed.pushFrame has script parameters restart⟩
  | leaves => exact ⟨L, List.prefix_refl L, filed.popFrame⟩
  | trans _ _ ih ih' =>
    obtain ⟨L₁, le, filed₁⟩ := ih filed
    obtain ⟨L₂, le', filed₂⟩ := ih' filed₁
    exact ⟨L₂, le.trans le', filed₂⟩

/-- **A function that is there was there or has come to be in between**, in one of the ways in which
functions do. -/
theorem Develops.arose (h : m.Develops m') {o : ObjectId} {f : FunctionFacet}
    (function : (m'.object o).function? = some f) :
    (m.object o).function? = some f ∨ ∃ n, m.Develops n ∧ f.Arises n ∧
      o.serial - 1 = n.objects.size ∧ (n.withFunction f).Develops m' := by
  induction h with
  | aside same => exact .inl (same.functions o f function)
  | loads run =>
    obtain ⟨-, -, found, -, -, rfl⟩ := load_ok run
    exact .inl function
  | @makes m g arises =>
    rw [Advances.function_withFunction] at function
    split at function
    · rename_i new
      cases function
      exact .inr ⟨m, (Advances.refl m).develops, arises, new, (Advances.refl _).develops⟩
    · exact .inl function
  | enters | leaves => exact .inl function
  -- a function that has come up in the first part is still one of those in the second
  | trans first second ih ih' =>
    rcases ih' function with there | ⟨n, before, arises, new, after⟩
    · rcases ih there with old | ⟨n, before, arises, new, after⟩
      · exact .inl old
      · exact .inr ⟨n, before, arises, new, after.trans second⟩
    · exact .inr ⟨n, first.trans before, arises, new, after⟩

end Machine

/-! ## Functions and their files -/

/-- **The code that makes a function is of the function's file**: the function is a closure over the
innermost frame, or the entry of its file. -/
def FunctionFacet.MadeIn (n : Machine) (f : FunctionFacet) : Prop :=
  (∃ i, i + 1 = n.depth ∧ (n.frame i).stub.file = f.stub.file ∧ f.origin = (n.frame i).scope) ∨
    (f = .ofStub f.stub ∧ f.stub.id = 0)

/-- **A function at home in its file**: its stub is one of the file, which is loaded, the scope in
which it was made is of the same file, and so are the activations whose variables it captured. -/
structure FunctionFacet.AtHome (L : Ledger) (m : Machine) (f : FunctionFacet) : Prop extends
    m.Houses f.stub f.origin where
  loaded : f.stub.file.toNat < m.files.size
  captures : ∀ c ∈ f.captures, ∃ a ∈ f.origin, c.slots = a.slots ∧ L.Registers a ∧ L.Covers c

/-- **The code of a machine is contained in its files**, in a state to which it has developed from
another one: loads are all or nothing, and every function of a script is at home in the file of the
code that made it. -/
structure Machine.Contained (m start : Machine) (L : Ledger) : Prop extends
    m.Linked L where
  loads (name : String) (bytes : List UInt8) : m.LoadsExactly name bytes
  functions_home (o : ObjectId) (f : FunctionFacet) : (m.object o).function? = some f →
    f.stub.isNative = false → f.AtHome L m ∧
      ∃ n, start.Develops n ∧ f.MadeIn n ∧ (n.withFunction f).Develops m
  frames_home : ∀ j < m.depth, m.Houses (m.frame j).stub (m.frame j).scope

/-- What is captured is a variable of an activation in the scope. -/
theorem FunctionFacet.Rooted.captured {L : Ledger} {f : FunctionFacet} (h : f.Rooted L)
    {c : Capture} (member : c ∈ f.captures) :
    ∃ a ∈ f.origin, c.slots = a.slots ∧ L.Registers a ∧ L.Covers c := by
  rcases h with bare | closed
  · rw [bare.captures] at member
    exact absurd member (Array.not_mem_empty c)
  · obtain ⟨k, bound, rfl⟩ := Array.mem_iff_getElem.mp member
    have asked : k < f.stub.captures.size := closed.count ▸ bound
    obtain ⟨owner, nearest, captured, covered⟩ :=
      closed.captures k _ (Array.getElem?_eq_getElem asked)
    have inScope : owner ∈ f.origin := List.mem_of_find?_eq_some nearest
    rw [Array.getElem?_eq_getElem bound] at captured
    rw [Option.some.inj captured]
    exact ⟨owner, inScope, rfl, closed.origin owner inScope, covered⟩

namespace Machine
variable {m m' : Machine} {L : Ledger}

theorem Filed.madeIn (h : m.Filed L) {f : FunctionFacet} (arises : f.Arises m)
    (script : f.stub.isNative = false) : f.MadeIn m := by
  cases arises with
  | @closure i id types stub captures innermost here resolved made =>
    subst made
    exact .inl ⟨i, innermost, (h.stubs _ _ stub here).1.symm, rfl⟩
  | @entry file stub here made =>
    subst made
    exact .inr ⟨rfl, (h.stubs _ _ stub here).2⟩
  | native member same bare =>
    rw [same, h.natives _ member] at script
    cases script

/-- **Wherever a new machine develops, its code is contained in its files.** -/
theorem Develops.contained {config : Config} (h : (Machine.initial config).Develops m)
    (filed : m.Filed L) : m.Contained (.initial config) L where
  toLinked := filed.toLinked
  loads name bytes := by
    refine loadsExactly (fun room id s has => ?_) name bytes
    have loaded := (filed.loaded _ id s has).2
    rw [nextFile_toNat room] at loaded
    exact Nat.lt_irrefl _ loaded
  functions_home o f function script := by
    have has : m.HasFunction f := ⟨o, function⟩
    have houses := filed.housed f has script
    refine ⟨{ houses with
      loaded := (filed.loaded _ _ _ houses.registered).2
      captures := fun c member => (filed.functions f has).captured member }, ?_⟩
    rcases h.arose function with blank | ⟨n, before, arises, -, after⟩
    · cases blank
    · obtain ⟨L₁, -, filed₁⟩ := before.filed (.initial config)
      exact ⟨n, before, filed₁.madeIn arises script, after⟩
  frames_home := filed.active

/-- **What is carried out** in a state: something that an embedder undertakes, a call, a function of
a script that is entered, an instruction of the innermost frame, or another pass of a loop. -/
inductive CarriesOut (host : Host) (e : Engine) (m : Machine) : Machine → Prop
  | undertaking (u : Undertaking) : CarriesOut host e m ((u.act host e).after m)
  | call (function : Value) (arguments : Arguments) (binding : Option Value) :
    CarriesOut host e m ((e.callBound function arguments binding).after m)
  | entering {f : FunctionFacet} (parameters : Array Value) (restart : Option Restart) :
    m.HasFunction f → f.stub.isNative = false →
    CarriesOut host e m ((e.enter f parameters restart).after m)
  | instruction {i : Nat} (ins : Instruction) : i + 1 = m.depth →
    CarriesOut host e m ((step e i ins).after m)
  | startOver (i : Nat) : CarriesOut host e m ((startOver e i).after m)

end Machine

/-- **Code stays in its file, and what is loaded stays loaded.**  In every state to which the code
of a new machine develops it is contained in its files.  Whatever is carried out there, under a plan
that may stop it anywhere, the code develops and no function changes, the files keep their ids and
all that is bound under them, and the code is contained in its files again; the record of the arrays
of variables is only continued. -/
theorem code_stays_in_its_file {host : Host} (undertakes : host.Undertakes) {plan : Plan}
    (stops : plan.Stops) (fuel : Nat) (config : Config) :
    let start := Machine.initial config
    ∀ m, start.Develops m → ∃ L, m.Contained start L ∧
      ∀ m', m.CarriesOut host (plan.engine host fuel) m' →
        m.Advances m' ∧ m.Secures m' ∧ ∃ L', L <+: L' ∧ m'.Contained start L' := by
  intro start m reached
  have advancing := undertakes.engine stops fuel
  obtain ⟨L, -, filed⟩ := reached.filed (.initial config)
  refine ⟨L, reached.contained filed, fun m' carried => ?_⟩
  have advanced : m.Advances m' := by
    cases carried with
    | undertaking u => exact act_advances u m
    | call function arguments binding => exact advancing.called function arguments binding m
    | entering parameters restart has script => exact advancing.entered parameters restart has script
    | instruction ins innermost => exact step_advances innermost ins
    | startOver i => exact startOver_advances i m
  obtain ⟨L', le, filed'⟩ := advanced.develops.filed filed
  exact ⟨advanced, advanced.develops.secures, L', le,
    (reached.trans advanced.develops).contained filed'⟩

/-- A module is loaded and a second one of the same name is run: the first one keeps its entry. -/
theorem reloading_keeps_entry :
    ∃ bytes, Record.writeAll [Stub.blank 1 0] = .ok bytes ∧
      let e := Plan.idle.engine .complaining 3
      let m := ((Undertaking.loads "a" bytes fun _ => .returns .empty).act .complaining e).after
        (.initial .standard)
      let m' := ((Undertaking.deals (.enter (.run "a" bytes)) fun _ => .returns .empty).act
        .complaining e).after m
      Host.complaining.Undertakes ∧ Plan.idle.Stops ∧
        m.stubs[((1 : UInt32), (0 : UInt32))]? = some (.blank 1 0) ∧
        m'.stubs[((1 : UInt32), (0 : UInt32))]? = some (.blank 1 0) := by
  obtain ⟨bytes, written⟩ : ∃ bytes, Record.writeAll [Stub.blank 1 0] = .ok bytes := ⟨_, rfl⟩
  refine ⟨bytes, written, ?_⟩
  intro e m m'
  have contained := code_stays_in_its_file Host.complaining_undertakes Plan.idle_stops 3 .standard
  have loaded : m = (Machine.initial .standard).loading "a" (.blank 1 0) := by
    have run : load "a" bytes (.initial .standard) = .ok 1 _ :=
      load_written (fun i member => absurd member (Array.not_mem_empty i)) written rfl rfl
    show ((load "a" bytes).outcome (.initial .standard)).2 = _
    rw [Action.outcome_after, Action.after, run]
  have here : m.stubs[((1 : UInt32), (0 : UInt32))]? = some (.blank 1 0) := by
    rw [loaded]
    exact stub_loading rfl
  have size : m.files.size = 2 := by rw [loaded]; rfl
  refine ⟨Host.complaining_undertakes, Plan.idle_stops, here, ?_⟩
  obtain ⟨L, -, carried⟩ := contained (.initial .standard) (Machine.Advances.refl _).develops
  obtain ⟨first, -⟩ := carried m (.undertaking _)
  obtain ⟨L', -, carried'⟩ := contained m first.develops
  obtain ⟨-, secures, -⟩ := carried' m' (.undertaking _)
  rw [secures.bindings 1 0 (by rw [size]; decide)]
  exact here

end StubMachine
