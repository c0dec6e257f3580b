import StubMachine.Console.Report
import StubMachine.Proofs.Entry
import StubMachine.Proofs.Settling

/-!
# What the command line says of an error that escaped

The command line runs a file in two stages.  It runs the module, which settles whatever
escaped from it, and then it renders the result, which may run code of the script as
well: the hooks `keys` and `values`, and getters.

**An error that escapes while the module runs is reported as an unhandled error**, with
the file and line where it was raised and its summary.  **One that escapes while the
result is rendered is not**: rendering settles nothing, so what reaches the user is that
something is on its way, and neither where it was raised nor what it says
(`escaped_error_report`).  Either way the exit code is 1 and no result is printed.
-/

namespace StubMachine

open StubMachine.Action

namespace Console

/-- The functions of the embedder are never asked for, and do nothing. -/
theorem host_modest (disk : Disk) (random : Nat → Float) (c : Config) :
    (host disk random c).Modest := fun _ _ => .pure Value.empty

/-! ## Escaping errors -/

/-- The stages of a run of a file. -/
inductive Stage
  | running
  | rendering

/-- **An error that escapes from a run of a file**: the stage in which it does, the error, and the
state that it leaves. -/
inductive Escapes (e : Engine) (file : String) (bytes : List UInt8) (m₀ : Machine) :
    Stage → Catchable → Machine → Prop
  | running {c : Catchable} {m : Machine}
      (ended : (load file bytes >>= StubMachine.runFile e) m₀ = .error .unwinding m)
      (onWay : m.pending = some c) (kind : c.kind = .error) : Escapes e file bytes m₀ .running c m
  | rendering {v : Value} {c : Catchable} {m₁ m : Machine}
      (ran : runModule e file bytes m₀ = .ok v m₁) (ended : render e v m₁ = .error .unwinding m)
      (onWay : m.pending = some c) (kind : c.kind = .error) : Escapes e file bytes m₀ .rendering c m

/-- The line on the error output about an error that escaped. -/
def Stage.Tells (m : Machine) (κ : Catchable) : Stage → String → Prop
  | running, line => ∃ summary, m.Summary κ.payload summary ∧
      line = s!"unhandled error ({κ.file}:{κ.line}): {summary}\n"
  | rendering, line => line = "Error: catchable pending\n"

/-- To have been told of an error is not to have printed something. -/
theorem printedLines_reported (m : Machine) (c : Catchable) :
    printedLines (m.reported c) = printedLines m := by
  simp [printedLines, Machine.reported]

section
variable {disk : Disk} {random : Nat → Float} {words : List String} {file : String}
variable {options : RunOptions} {c : Config} {bytes : List UInt8}

/-- The report of a run that fails. -/
theorem answer_failed (command : Command.ofWords? words = some (.run file options))
    (config : configFor disk options = .ok c) (found : disk.read file = .ok bytes)
    {failure : Failure} {m : Machine}
    (failed : runAndRender (Engine.ofHost (host disk random c) Engine.ample) file bytes
      (.initial c) = .error failure m) :
    let report := answer disk random words
    report.exit = 1 ∧ report.output = printedLines m ∧
      report.errors = (ConsoleFault.failed failure).line := by
  simp only [answer, command, Console.runFile, config, found, failed]
  exact ⟨rfl, rfl, rfl⟩

/-- **An error that escapes while a module runs is settled**: it becomes an unhandled error. -/
theorem runModule_escaped {host : Host} (confined : host.Confined) {fuel : Nat} {m₀ m : Machine}
    (alone : m₀.reentry = 0) {κ : Catchable}
    (ended : (load file bytes >>= StubMachine.runFile (Engine.ofHost host fuel)) m₀ =
      .error .unwinding m)
    (onWay : m.pending = some κ) (kind : κ.kind = .error) :
    runModule (Engine.ofHost host fuel) file bytes m₀ =
      .error (.unhandled (m.unhandled κ)) (m.reported κ) := by
  let e := Engine.ofHost host fuel
  rcases load_cases file bytes m₀ with ⟨id, m₁, loaded, same⟩ | ⟨cause, failed⟩ | full
  · rw [Action.bind_ok loaded] at ended
    have routine : Routine .alone .operation fun e => StubMachine.runFile e id := runFile_routine id
    have books : m₁.BooksKept ((StubMachine.runFile e id).after m₁) :=
      (routine.lockstep (L := .books) rfl (perform_books confined fuel) (fun _ => False.elim) m₁
        trivial).2
    rw [Action.after, ended] at books
    have idle : ¬ 0 < m.reentry := by
      rw [books.reentry, same.reentry, alone]
      exact Nat.lt_irrefl 0
    have settled : settle (StubMachine.runFile e id) m₁ =
        .error (.unhandled (m.unhandled κ)) (m.reported κ) := by
      rw [settle, ended]
      simp only [idle, if_false, onWay, kind]
      rfl
    rw [runModule, runAs, Action.bind_ok loaded, Action.bind_error settled]
  · rw [Action.bind_error failed] at ended
    cases ended
  · rw [Action.bind_error full] at ended
    cases ended

/-- Rendering settles nothing. -/
theorem runAndRender_escaped {e : Engine} {v : Value} {m₀ m₁ m : Machine}
    (ran : runModule e file bytes m₀ = .ok v m₁) (ended : render e v m₁ = .error .unwinding m) :
    runAndRender e file bytes m₀ = .error .unwinding m := by
  rw [runAndRender, Action.bind_ok ran, ended]

/-- **What the command line answers when an error escapes**: the exit code is 1, what the script
printed is all that is printed, and the line on the error output depends on the stage. -/
theorem escaped_error_report (command : Command.ofWords? words = some (.run file options))
    (config : configFor disk options = .ok c) (found : disk.read file = .ok bytes)
    {stage : Stage} {κ : Catchable} {m : Machine}
    (escapes : Escapes (Engine.ofHost (host disk random c) Engine.ample) file bytes (.initial c)
      stage κ m) :
    let report := answer disk random words
    report.exit = 1 ∧ report.output = printedLines m ∧ stage.Tells m κ report.errors := by
  let e := Engine.ofHost (host disk random c) Engine.ample
  cases escapes with
  | running ended onWay kind =>
    have confined := (host_modest disk random c).confined
    have ran := runModule_escaped confined rfl ended onWay kind
    have failed : runAndRender e file bytes (.initial c) =
        .error (.unhandled (m.unhandled κ)) (m.reported κ) := by
      rw [runAndRender, Action.bind_error ran]
    obtain ⟨exit, output, errors⟩ := answer_failed command config found failed
    refine ⟨exit, output.trans (printedLines_reported m κ), ?_⟩
    rw [errors]
    exact ⟨_, m.unhandled_summary κ, rfl⟩
  | rendering ran ended onWay kind =>
    have failed := runAndRender_escaped ran ended
    obtain ⟨exit, output, errors⟩ := answer_failed command config found failed
    exact ⟨exit, output, errors⟩

end

/-! ## A result that cannot be rendered -/

/-- Nothing follows what raises an error. -/
theorem bind_raises {α β : Type} {x : Action α} {m : Machine} {fault : Fault}
    (raises : x m = raise fault m) (k : α → Action β) : (x >>= k) m = raise fault m := by
  rw [Action.bind_eq, raises, ← Action.bind_eq (raise fault), raise, raiseError_bind]
  rfl

/-- **A hook that supplies no entries raises an error** when its object is rendered. -/
theorem render_hook_raises {e : Engine} (room : 0 < e.fuel) {m : Machine} {o : ObjectId}
    (plain : (m.object o).isFunction = false) {hook : Value}
    (held : m.attribute? o "keys" = some hook) (noFunction : m.isFunction hook = false)
    (noObject : ∀ a, hook ≠ .object a) :
    render e (.object o) m = raise (.enumerationHook "keys" hook.kind) m := by
  have overridden : enumerationOverride e hook "keys" m =
      raise (.enumerationHook "keys" hook.kind) m := by
    have asked : isFunction hook m = .ok false m := by rw [isFunction, Action.read, noFunction]
    rw [enumerationOverride, Action.bind_ok asked]
    cases hook with
    | object a => exact absurd rfl (noObject a)
    | _ => rfl
  have keys : objectKeys e o m = raise (.enumerationHook "keys" hook.kind) m := by
    simp only [objectKeys, Action.bind_eq, Action.read, held, overridden]
  have looked : objectAt o m = .ok (m.object o) m := rfl
  have written : Json.ofValue e e.fuel [] (.object o) m =
      raise (.enumerationHook "keys" hook.kind) m := by
    obtain ⟨n, eq⟩ := Nat.exists_eq_add_of_lt room
    rw [eq, Json.ofValue]
    show (objectAt o >>= fun object => _) m = _
    rw [Action.bind_ok looked, plain]
    exact bind_raises keys _
  show (objectAt o >>= fun object => _) m = _
  rw [Action.bind_ok looked, plain]
  exact bind_raises (bind_raises written _) _

/-- A module whose result has a number for its attribute `keys`. -/
def hooked : Stub :=
  { Stub.blank 1 0 with
    strings := #["attributes", "keys"]
    code := #[⟨1, 6, .number 0⟩, ⟨2, 28, .number 40⟩, ⟨3, 5, .number 0⟩, ⟨4, 5, .number 1⟩,
      ⟨5, 3, .number 5⟩, ⟨6, 10, .number 1⟩, ⟨7, 12, .number 1⟩, ⟨8, 20, .number 0⟩] }

namespace Hooked

/-- A new machine that has loaded the module. -/
def loaded : Machine :=
  { Machine.initial .standard with
    files := #["<native>", "main.mbc"]
    stubs := registerStubs ∅ 1 #[hooked]
    history := #[.started "main.mbc"] }

/-- The entry of the module. -/
def entry : Object := .ofType BuiltinType.function.id (.function (.ofStub hooked))

/-- The function that sets the attributes of the object with number two. -/
def setter : FunctionFacet :=
  { FunctionFacet.ofStub (Stub.native 33 #["base", "attributes"]) with
    boundBase := some (.object ⟨2⟩) }

def hooks : Object := Object.blank.setText "keys" (.number 5)

/-- The objects before the attributes are set, and after. -/
def before : List Object := [entry, .blank, .ofType BuiltinType.function.id (.function setter)]

def after : List Object :=
  [entry, { Object.blank with attributes := some ⟨4⟩ },
    .ofType BuiltinType.function.id (.function setter), hooks]

/-- The machine in the course of the module. -/
def course (objects : List Object) (pc : Nat) (stack : List Value) : Machine :=
  { loaded with
    objects := objects.toArray
    slots := #[#[], #[]]
    frames := (Array.replicate 16 Frame.idle).setIfInBounds 0
      ⟨pc, hooked, stack, ⟨1, 0, ⟨1⟩⟩, [], #[], none⟩
    depth := 1
    reentry := 1 }

variable (host : Host) (fuel : Nat)

theorem set_attributes :
    (Engine.ofHost host (fuel + 2)).call (.object ⟨3⟩) [("attributes", .object ⟨4⟩)]
      (course (before ++ [hooks]) 7 []) = .ok (.object ⟨2⟩) (course after 7 []) := by
  have named : bindNamed setter.stub (suppliedArguments setter [("attributes", .object ⟨4⟩)]) =
      .ok #[.object ⟨2⟩, .object ⟨4⟩] := by
    have attributes : bindOne setter.stub true #[none, none] ("attributes", .object ⟨4⟩) =
        .ok #[none, some (.object ⟨4⟩)] := by
      have index : setter.stub.targetIndex? true "attributes" = some 1 := by decide +kernel
      simp [bindOne, index]
    have base : bindOne setter.stub true #[none, some (.object ⟨4⟩)] ("base", .object ⟨2⟩) =
        .ok #[some (.object ⟨2⟩), some (.object ⟨4⟩)] := by
      have index : setter.stub.targetIndex? true "base" = some 0 := by decide +kernel
      simp [bindOne, index]
    show (bindOne setter.stub true #[none, none] ("attributes", .object ⟨4⟩) >>= fun b =>
      bindOne setter.stub true b ("base", .object ⟨2⟩) >>= pure) >>= _ = _
    rw [attributes]
    show (bindOne setter.stub true #[none, some (.object ⟨4⟩)] ("base", .object ⟨2⟩) >>= pure) >>=
      _ = _
    rw [base]
    show Except.ok (Array.map _ _) = _
    simp [Value.ofOption]
  have bound := bindArguments_named (f := setter) rfl named none
  show finally_ (callFacet host _ setter _ none) _ _ = _
  simp only [finally_, callFacet_eq, Action.bind_eq, bound, bindPrivate_none]
  rfl

/-- The instructions of the module, one by one. -/
theorem runFrame_course :
    runFrame (Engine.ofHost host (fuel + 10)) 0 (fuel + 10) (course [entry] 0 []) =
      .ok (.object ⟨2⟩) (course after 8 [.object ⟨2⟩]) := by
  generalize engine : Engine.ofHost host (fuel + 10) = e
  calc runFrame e 0 (fuel + 10) (course [entry] 0 [])
    _ = runFrame e 0 (fuel + 9) (course [entry, .blank] 1 [.object ⟨2⟩]) :=
      runFrame_next (by rfl) _
    _ = runFrame e 0 (fuel + 8) (course before 2 [.object ⟨3⟩]) := runFrame_next (by rfl) _
    _ = runFrame e 0 (fuel + 7) (course before 3 [.string "attributes", .object ⟨3⟩]) :=
      runFrame_next (by rfl) _
    _ = runFrame e 0 (fuel + 6)
          (course before 4 [.string "keys", .string "attributes", .object ⟨3⟩]) :=
      runFrame_next (by rfl) _
    _ = runFrame e 0 (fuel + 5)
          (course before 5 [.number 5, .string "keys", .string "attributes", .object ⟨3⟩]) :=
      runFrame_next (by rfl) _
    _ = runFrame e 0 (fuel + 4)
          (course (before ++ [hooks]) 6 [.object ⟨4⟩, .string "attributes", .object ⟨3⟩]) :=
      runFrame_next (by rfl) _
    _ = runFrame e 0 (fuel + 3) (course after 7 [.object ⟨2⟩]) := by
      refine runFrame_next ?_ _
      show pushResult 0 (Engine.call e (.object ⟨3⟩) [("attributes", .object ⟨4⟩)])
        (course (before ++ [hooks]) 7 []) = _
      rw [pushResult, ← engine, Action.bind_ok (set_attributes host (fuel + 8))]
      rfl
    _ = .ok (.object ⟨2⟩) (course after 8 [.object ⟨2⟩]) := rfl

theorem runFile_loaded :
    StubMachine.runFile (Engine.ofHost host (fuel + 2)) 1 loaded =
      finally_ (finally_ (runFrame (Engine.ofHost host fuel) 0 fuel) Machine.popFrame)
        (fun m => { m with reentry := m.reentry - 1 }) (course [entry] 0 []) :=
  runFile_entered (m := loaded) fuel (stub_loading rfl) rfl rfl rfl (by decide)

/-- The module runs to its end. -/
theorem runModule_result {bytes : List UInt8} (written : Record.writeAll [hooked] = .ok bytes) :
    ∃ m, runModule (Engine.ofHost host (fuel + 12)) "main.mbc" bytes (.initial .standard) =
      .ok (.object ⟨2⟩) m ∧ m.objects = after.toArray := by
  have paired : ∀ i ∈ hooked.code, i.Paired := by
    simp [hooked, Instruction.Paired, Opcode.ofByte?, Opcode.all]
  have found : load "main.mbc" bytes (.initial .standard) = .ok 1 loaded :=
    load_written paired written rfl rfl
  have ran := runFile_loaded host (fuel + 10)
  simp only [finally_, runFrame_course host fuel] at ran
  simp only [runModule, runAs, Action.bind_eq, found, settle, ran]
  exact ⟨_, rfl, rfl⟩

/-- Rendering what the module returns raises an error. -/
theorem escapes {bytes : List UInt8} (written : Record.writeAll [hooked] = .ok bytes) :
    ∃ κ m, Escapes (Engine.ofHost host (fuel + 12)) "main.mbc" bytes (.initial .standard)
      .rendering κ m := by
  obtain ⟨m, ran, objects⟩ := runModule_result host fuel written
  have held : m.attribute? ⟨2⟩ "keys" = some (.number 5) := by
    have rendered : m.object ⟨2⟩ = { Object.blank with attributes := some ⟨4⟩ } := by
      rw [Machine.object, objects]
      rfl
    have attributes : m.object ⟨4⟩ = hooks := by
      rw [Machine.object, objects]
      rfl
    rw [Machine.attribute?, Machine.attributeAt?, rendered]
    show ((m.object ⟨4⟩).get? (.string "keys")).bind Value.nonEmpty? = _
    rw [attributes]
    show ((OrderedMap.insert _ "keys" (Value.number 5)).get? "keys").bind Value.nonEmpty? = _
    rw [OrderedMap.get?_insert, if_pos rfl]
    rfl
  have plain : (m.object ⟨2⟩).isFunction = false := by
    rw [Machine.object, objects]
    rfl
  have raises := render_hook_raises (e := Engine.ofHost host (fuel + 12)) (Nat.succ_pos _) plain
    held rfl fun a => Value.noConfusion
  obtain ⟨payload, m', -, raised⟩ := raiseError_eq (α := Option String)
    (.string (Fault.enumerationHook "keys" (Value.number 5).kind).message) m
  exact ⟨_, _, .rendering ran (raises.trans raised) rfl rfl⟩

end Hooked

/-- A disk with a single file. -/
def holding (file : String) (bytes : List UInt8) : Disk := fun path =>
  if path = file then .ok (.file bytes) else .error .notFound

theorem read_holding (file : String) (bytes : List UInt8) :
    (holding file bytes).read file = .ok bytes := by
  rw [Disk.read, holding, if_pos rfl]
  rfl

theorem configFor_holding (bytes : List UInt8) :
    configFor (holding "main.mbc" bytes) ⟨none, []⟩ = .ok .standard := rfl

theorem ofWords_main :
    Command.ofWords? ["run", "main.mbc"] = some (.run "main.mbc" ⟨none, []⟩) := by
  decide +kernel

/-- Rendering the result of the module raises an error, for a machine of the command line. -/
theorem hooked_escapes :
    ∃ bytes κ m, Escapes (Engine.ofHost (host (holding "main.mbc" bytes) (fun _ => 0) .standard)
      Engine.ample) "main.mbc" bytes (.initial .standard) .rendering κ m := by
  obtain ⟨bytes, written⟩ : ∃ bytes, Record.writeAll [hooked] = .ok bytes := ⟨_, rfl⟩
  have ample : Engine.ample = (Engine.ample - 12) + 12 := by decide
  obtain ⟨κ, m, escapes⟩ := Hooked.escapes (host (holding "main.mbc" bytes) (fun _ => 0) .standard)
    (Engine.ample - 12) written
  exact ⟨bytes, κ, m, ample ▸ escapes⟩

/-- The report says that something is pending, and nothing else. -/
theorem hooked_report :
    ∃ bytes, let report := answer (holding "main.mbc" bytes) (fun _ => 0) ["run", "main.mbc"]
      report.exit = 1 ∧ report.errors = "Error: catchable pending\n" := by
  obtain ⟨bytes, κ, m, escapes⟩ := hooked_escapes
  obtain ⟨exit, -, errors⟩ :=
    escaped_error_report ofWords_main (configFor_holding bytes) (read_holding _ bytes) escapes
  exact ⟨bytes, exit, errors⟩

theorem pending_ne_unhandled (rest : String) :
    (ConsoleFault.failed .unwinding).line ≠ "unhandled error (" ++ rest := by
  intro same
  have first := congrArg (fun line => line.toList.head?) same
  rw [String.toList_append, List.head?_append] at first
  have unhandled : "unhandled error (".toList.head? = some 'u' := rfl
  rw [unhandled, Option.some_or] at first
  exact absurd first (by decide +kernel)

/-- **No unhandled error is reported**, whatever file, line and summary it might have. -/
theorem hooked_unreported :
    ∃ bytes κ m, Escapes (Engine.ofHost (host (holding "main.mbc" bytes) (fun _ => 0) .standard)
        Engine.ample) "main.mbc" bytes (.initial .standard) .rendering κ m ∧
      ∀ m' κ₁, ¬ Stage.running.Tells m' κ₁
        (answer (holding "main.mbc" bytes) (fun _ => 0) ["run", "main.mbc"]).errors := by
  obtain ⟨bytes, κ, m, escapes⟩ := hooked_escapes
  refine ⟨bytes, κ, m, escapes, ?_⟩
  rintro m' κ₁ ⟨summary, -, errors⟩
  cases escapes with
  | rendering ran ended =>
    have failed := runAndRender_escaped ran ended
    have reported :=
      (answer_failed ofWords_main (configFor_holding bytes) (read_holding _ bytes) failed).2.2
    exact pending_ne_unhandled s!"{κ₁.file}:{κ₁.line}): {summary}\n" (reported.symm.trans errors)

end Console
end StubMachine
