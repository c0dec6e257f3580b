import StubMachine.Bytecode.Record
import StubMachine.Machine.Engine

/-!
# Modules

A module is a file of stubs; its entry is the stub with id zero.  Loading gives the file
the next id and registers its stubs, or fails and leaves no trace.  Running a module
calls its entry, and the result is kept under the module's name, so that **importing a
module again does not run it again**.

The calls that an embedder makes are **settled**.  When nothing else is under way, an
error that escaped becomes an unhandled error, of which the embedder is told and whose
payload is kept; a signal that escaped is the result; and nothing stays pending.
-/

namespace StubMachine

open StubMachine.Action

/-! ## Settling -/

/-- Tell the embedder about an error that escaped, and keep what it was about. -/
def reportUnhandled (c : Catchable) (m : Machine) : EStateM.Result Failure Machine Value :=
  let summary := match c.payload with
    | .object _ => summaryOf m c.payload
    | _ => "Unknown error"
  let error : UnhandledError := ⟨c.file, c.line, summary⟩
  .error (.unhandled error)
    { m with
      pending := none
      lastUnhandled := some c.payload
      events := m.events.push (.unhandled error) }

/-- **The outcome of a call as its caller outside the machine sees it.** -/
def settle (x : Action Value) : Action Value := fun m =>
  match x m with
  | .ok v m => .ok v m
  | .error e m =>
    if 0 < m.reentry then .error e m
    else
      match e with
      | .unwinding =>
        match m.pending with
        | none => .error e m
        | some c =>
          match c.kind with
          | .send => .ok c.payload { m with pending := none }
          | .error => reportUnhandled c m
      | .exhausted => .error e m
      | e => .error e { m with pending := none }

/-! ## Loading and running -/

/-- The registry with the stubs of a file; the last stub of a repeated id counts. -/
def registerStubs (stubs : Std.HashMap (UInt32 × UInt32) Stub) (file : UInt32)
    (found : Array Stub) : Std.HashMap (UInt32 × UInt32) Stub :=
  found.foldl (fun stubs s => stubs.insert (file, s.id) s) stubs

/-- **Load a file**; the result is its id, of which there are 2³². -/
def load (name : String) (bytes : List UInt8) : Action UInt32 := fun m =>
  let file := UInt32.ofNat m.files.size
  if UInt32.size ≤ m.files.size then .error (.plain .fileCount) m
  else
    match Record.readAll file bytes with
    | .error f => .error (.fatal (.unreadableModule name f)) m
    | .ok found =>
      if found.any (·.id == 0) then
        .ok file
          { m with
            files := m.files.push name
            stubs := registerStubs m.stubs file found
            history := m.history.push (.started name) }
      else .error (.fatal (.missingEntry name)) m

/-- Call the entry of a loaded file. -/
def runFile (e : Engine) (file : UInt32) : Action Value := do
  match ← read fun m => m.stubs[(file, (0 : UInt32))]? with
  | none => throw (.fatal (.missingEntryOfFile file))
  | some stub =>
    let entry ← newFunction (.ofStub stub)
    e.call entry []

/-- Keep the result of a module, and note where it comes from. -/
def keepModule (origin : String → Value → ModuleEvent) (name : String) (v : Value) :
    Action Unit :=
  update fun m =>
    { m with modules := m.modules.insert name v, history := m.history.push (origin name v) }

/-- Load and run a module, and keep its result. -/
def runAs (origin : String → Value → ModuleEvent) (e : Engine) (name : String)
    (bytes : List UInt8) : Action Value := do
  let file ← load name bytes
  let v ← settle (runFile e file)
  keepModule origin name v
  return v

/-- **Load and run a module.** -/
def runModule (e : Engine) (name : String) (bytes : List UInt8) : Action Value :=
  runAs .ran e name bytes

/-- The bytes of a module, from the embedder. -/
def fetch (host : Host) (name : String) : Action (List UInt8) := fun m =>
  let answer := host.fetch m.events name
  let m :=
    { m with events := m.events.push (.fetched name), history := m.history.push (.asked name) }
  match answer with
  | .ok bytes => .ok bytes m
  | .error detail => .error (.plain (.importFailed name detail)) m

/-- Answer an import with a result that is known. -/
def recallModule (name : String) (v : Value) : Action Value := do
  update fun m => { m with history := m.history.push (.imported name v) }
  return v

/-- **Run a module that the embedder supplies**, unless its result is known. -/
def importModule (host : Host) (e : Engine) (name : String) : Action Value := do
  match ← read fun m => m.modules[name]? with
  | some v => recallModule name v
  | none =>
    let bytes ← fetch host name
    runAs .imported e name bytes

/-- **Call a value from outside.** -/
def callFunction (e : Engine) (function : Value) (arguments : Arguments) : Action Value :=
  settle (e.call function arguments)

/-! ## Functions of the embedder -/

/-- Add a function of the embedder, which scripts can ask for by name; the result is
the number of the native function. -/
def registerExternal (name : String) (parameters : List String) (handle : Nat) : Action Nat :=
  fun m =>
    let id := m.natives.size
    .ok id
      { m with
        natives := m.natives.push (Native.make id name parameters (.hosted handle))
        externals := m.externals.insert name id }

/-- The function object of a native function; it is made once and then shared. -/
def nativeValue (id : Nat) : Action Value := do
  match ← read fun m => m.natives[id]? with
  | none => raise (.unknownNative id)
  | some native =>
    match native.value with
    | some o => return .object o
    | none =>
      let v ← newFunction (.ofStub native.stub)
      if let .object o := v then
        update fun m =>
          { m with natives := m.natives.modify id fun n => { n with value := some o } }
      return v

/-- A new function object of a native function with its base bound. -/
def boundNative (id : Nat) (base : Value) : Action Value := do
  match ← read fun m => m.natives[id]? with
  | none => throw (.fatal (.missingNative id))
  | some native =>
    newFunction { FunctionFacet.ofStub native.stub with boundBase := some base }

end StubMachine
