import StubMachine.Proofs.Bytecode.RoundTrip
import StubMachine.Proofs.Calling
import StubMachine.Proofs.Routine.Instruction

/-!
# The entry of a module

A module that is run is loaded, and a new function is made of its entry and called.  For a
module whose only stub is an entry without parameters, this says in which state the code of the
entry starts (`runFile_entered`) and what an import comes to that has to ask for the module
(`importModule_delivered`).  A module without code is done at once (`importModule_passed`).
-/

namespace StubMachine

open StubMachine.Action

namespace Machine

/-- The state after a module has been loaded whose only stub is its entry. -/
def loading (name : String) (s : Stub) (m : Machine) : Machine :=
  { m with
    files := m.files.push name
    stubs := registerStubs m.stubs s.file #[s]
    history := m.history.push (.started name) }

/-- The state in which the code of an entry starts. -/
def entering (s : Stub) (m : Machine) : Machine :=
  { m with
    objects := m.objects.push (.ofType BuiltinType.function.id (.function (.ofStub s)))
    reentry := m.reentry + 1 }.pushFrame (.ofStub s) #[] none

/-- The state after a module has been asked for. -/
def asking (name : String) (m : Machine) : Machine :=
  { m with events := m.events.push (.fetched name), history := m.history.push (.asked name) }

/-- The state after a module without code has been imported. -/
def passed (name : String) (s : Stub) (m : Machine) : Machine :=
  { (((m.asking name).loading name s).entering s).popFrame with
    reentry := m.reentry
    modules := m.modules.insert name .empty
    history := ((m.history.push (.asked name)).push (.started name)).push (.imported name .empty) }

end Machine

section
variable {host : Host} {name : String} {bytes : List UInt8} {s : Stub} {m : Machine}

/-- **A module that was written is loaded.** -/
theorem load_written (paired : ∀ i ∈ s.code, i.Paired) (written : Record.writeAll [s] = .ok bytes)
    (entry : s.id = 0) (file : m.files.size = s.file.toNat) :
    load name bytes m = .ok s.file (m.loading name s) := by
  have read : Record.readAll s.file bytes = .ok #[s] := by
    refine Record.readAll_writeAll (fun s' mem => ?_) written s.file
    rw [List.mem_singleton.mp mem]
    exact paired
  have complete : (#[s] : Array Stub).any (·.id == 0) = true := by simp [entry]
  have room : ¬ UInt32.size ≤ s.file.toNat := Nat.not_le_of_lt s.file.toNat_lt
  simp only [load, file, UInt32.ofNat_toNat, if_neg room, read, complete, if_true]
  rfl

theorem stub_loading (entry : s.id = 0) :
    (m.loading name s).stubs[(s.file, (0 : UInt32))]? = some s := by
  simp [Machine.loading, registerStubs, entry]

/-- A function without parameters is given none. -/
theorem bindArguments_bare (fixed : s.isVararg = false) (bare : s.parameters = #[]) (m : Machine) :
    bindArguments (.ofStub s) [] none m = .ok #[] m := by
  have none_ : s.arity = 0 := by rw [Stub.arity, bare, Array.size_empty]
  have named : bindNamed s (suppliedArguments (.ofStub s) []) = .ok #[] := by
    show Except.ok ((Array.replicate s.arity none).map Value.ofOption) = _
    rw [none_, Array.replicate_zero, Array.map_empty]
  rw [bindArguments_named fixed named, bindPrivate_none]

/-- **Calling a function without parameters** runs its code in a frame of its own. -/
theorem callFacet_bare (fuel : Nat) (scripted : s.isNative = false) (fixed : s.isVararg = false)
    (bare : s.parameters = #[]) (room : m.depth < m.config.maxCallDepth) :
    callFacet host (Engine.ofHost host (fuel + 1)) (.ofStub s) [] none m =
      finally_ (runFrame (Engine.ofHost host fuel) m.depth fuel) Machine.popFrame
        (m.pushFrame (.ofStub s) #[] none) := by
  have full : ¬ m.config.maxCallDepth ≤ m.depth := Nat.not_le.mpr room
  have checked : checkParameters (.ofStub s) #[] m = .ok () m := rfl
  have scripted' : (FunctionFacet.ofStub s).stub.isNative = false := scripted
  let body := finally_ (runFrame (Engine.ofHost host fuel) m.depth fuel) Machine.popFrame
  have entered : runCalled host (Engine.ofHost host (fuel + 1)) (.ofStub s) #[] m =
      body (m.pushFrame (.ofStub s) #[] none) := by
    rw [runCalled, scripted', if_neg Bool.false_ne_true]
    show perform host (fuel + 1) (.enter (.ofStub s) #[] none) m = _
    rw [perform_enter, withFrame_eq, if_neg full]
  rw [callFacet_eq, Action.bind_ok (bindArguments_bare fixed bare m), Action.bind_ok checked,
    Action.bind_eq, entered]
  show _ = body (m.pushFrame (.ofStub s) #[] none)
  -- it has no types, so its result is handed on as it is
  cases body (m.pushFrame (.ofStub s) #[] none) with
  | ok v m => rfl
  | error failure m => rfl

/-- A new function is made of the entry and called. -/
theorem runFile_entered (fuel : Nat) {file : UInt32}
    (found : m.stubs[(file, (0 : UInt32))]? = some s)
    (scripted : s.isNative = false) (fixed : s.isVararg = false) (bare : s.parameters = #[])
    (room : m.depth < m.config.maxCallDepth) :
    runFile (Engine.ofHost host (fuel + 2)) file m =
      finally_ (finally_ (runFrame (Engine.ofHost host fuel) m.depth fuel) Machine.popFrame)
        (fun m => { m with reentry := m.reentry - 1 }) (m.entering s) := by
  let entry : Object := .ofType BuiltinType.function.id (.function (.ofStub s))
  let made : Machine := { m with objects := m.objects.push entry }
  let ready : Machine := { made with reentry := m.reentry + 1 }
  have new : newFunction (.ofStub s) m = .ok (.object ⟨m.objects.size + 1⟩) made := rfl
  have called : (ready.object ⟨m.objects.size + 1⟩).function? = some (.ofStub s) := by
    have object := Machine.object_push { m with reentry := m.reentry + 1 } entry
      ⟨m.objects.size + 1⟩
    -- the object that was made last is the one that is called
    rw [if_pos (Nat.add_sub_cancel ..)] at object
    show (ready.object _).function? = _
    rw [show ready.object _ = entry from object]
    rfl
  have read : Action.read (fun m => m.stubs[(file, (0 : UInt32))]?) m = .ok (some s) m :=
    congrArg (EStateM.Result.ok · m) found
  have facet : callFacet host (Engine.ofHost host (fuel + 1)) (.ofStub s) [] none ready =
      finally_ (runFrame (Engine.ofHost host fuel) m.depth fuel) Machine.popFrame
        (m.entering s) := callFacet_bare fuel scripted fixed bare room
  rw [runFile, Action.bind_ok read]
  show (newFunction (.ofStub s) >>= fun entry =>
    (Engine.ofHost host (fuel + 2)).call entry []) m = _
  rw [Action.bind_ok new]
  show underway (callValue host (Engine.ofHost host (fuel + 1)) _ [] none) made = _
  rw [underway_eq, finally_, callValue_function called, facet]
  rfl

/-- A frame ends with Empty at the end of its code, unless it runs a loop. -/
theorem runFrame_ended (e : Engine) {i : Nat} (steps : Nat)
    (last : (m.frame i).stub.code[(m.frame i).pc]? = none) (restart : (m.frame i).restart = none) :
    runFrame e i (steps + 1) m = .ok .empty m := by
  have ends : proceed e i m = .ok (.done .empty) m := by
    rw [proceed_end e last, Action.bind_ok (startOver_none e restart)]
    rfl
  rw [runFrame_succ, Action.bind_ok ends]
  rfl

/-- **An import that has to ask** loads and runs what it is given. -/
theorem importModule_asking (e : Engine) (unknown : m.modules[name]? = none)
    (given : host.fetch m.events name = .ok bytes) :
    importModule host e name m = runAs .imported e name bytes (m.asking name) := by
  have read : Action.read (fun m => m.modules[name]?) m = .ok none m :=
    congrArg (EStateM.Result.ok · m) unknown
  have fetched : fetch host name m = .ok bytes (m.asking name) := by
    rw [fetch, given]
    rfl
  rw [importModule, Action.bind_ok read]
  exact Action.bind_ok fetched

/-- What it is given is called, if it is a module that was written. -/
theorem importModule_delivered (e : Engine) (unknown : m.modules[name]? = none)
    (given : host.fetch m.events name = .ok bytes) (paired : ∀ i ∈ s.code, i.Paired)
    (written : Record.writeAll [s] = .ok bytes) (entry : s.id = 0)
    (file : m.files.size = s.file.toNat) :
    importModule host e name m =
      (settle (runFile e s.file) >>= fun v =>
        keepModule .imported name v >>= fun _ => pure v) ((m.asking name).loading name s) := by
  have loaded : load name bytes (m.asking name) = .ok s.file ((m.asking name).loading name s) :=
    load_written paired written entry file
  rw [importModule_asking e unknown given, runAs, Action.bind_ok loaded]

/-- **An import of a module without code** that has to ask for it. -/
theorem importModule_passed (fuel : Nat)
    (unknown : m.modules[name]? = none) (given : host.fetch m.events name = .ok bytes)
    (blank : s = .blank s.file 0) (file : m.files.size = s.file.toNat)
    (written : Record.writeAll [s] = .ok bytes)
    (scripted : s.isNative = false) (room : m.depth < m.config.maxCallDepth)
    (pooled : m.depth ≤ m.frames.size) :
    importModule host (Engine.ofHost host (fuel + 3)) name m = .ok .empty (m.passed name s) := by
  have codeless : s.code = #[] := by
    rw [blank]
    rfl
  have entry : s.id = 0 := by
    rw [blank]
    rfl
  let loaded : Machine := (m.asking name).loading name s
  have frame : (loaded.entering s).frame loaded.depth = m.startFrame (.ofStub s) none :=
    (Machine.frame_pushFrame_eq (.ofStub s) #[] none pooled _).trans (if_pos rfl)
  have ended : runFrame (Engine.ofHost host (fuel + 1)) loaded.depth (fuel + 1)
      (loaded.entering s) = .ok .empty (loaded.entering s) := by
    refine runFrame_ended _ fuel ?_ (congrArg Frame.restart frame)
    rw [frame]
    show s.code[0]? = none
    rw [codeless]
    rfl
  have ran : runFile (Engine.ofHost host (fuel + 3)) s.file loaded = .ok .empty
      { (loaded.entering s).popFrame with reentry := m.reentry } := by
    have entered := @runFile_entered host s loaded (fuel + 1) s.file (stub_loading entry) scripted
      (by rw [blank]; rfl) (by rw [blank]; rfl) room
    rw [entered]
    simp only [finally_, ended]
    rfl
  have settled : settle (runFile (Engine.ofHost host (fuel + 3)) s.file) loaded = .ok .empty
      { (loaded.entering s).popFrame with reentry := m.reentry } := by rw [settle, ran]
  have paired : ∀ i ∈ s.code, i.Paired := by simp [codeless]
  rw [importModule_delivered _ unknown given paired written entry file, Action.bind_ok settled]
  rfl

end

end StubMachine
