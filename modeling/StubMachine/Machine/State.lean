import StubMachine.Config
import StubMachine.Fault
import StubMachine.Store.Object

/-!
# The state of a machine

Everything that a running machine remembers is one value, a `Machine`: the objects and
types that exist, the arrays of referrables, the call stack, the loaded code, the
results of modules, the native functions, and the error or signal that is on its way
to a handler.

**Frames are pooled.**  `frames` may hold more frames than are active; the active ones
are the first `depth` of them.  A frame that is entered is taken from the pool and
overwritten, and a frame that is left stays in the pool.
-/

namespace StubMachine

/-! ## Errors and signals -/

/-- What is on its way to a handler. -/
inductive CatchableKind
  | error
  | send
deriving DecidableEq, Repr

/-- An error or a signal, with the place where it was raised. -/
structure Catchable where
  kind : CatchableKind
  payload : Value
  file : String
  line : UInt32

/-- One raising: what was raised, and what was still on its way to a handler just then. -/
structure Raising where
  catchable : Catchable
  previous : Option Catchable

/-! ## Frames -/

/-- What becomes of a loop body that runs off its last instruction. -/
inductive Restart
  /-- Count from `current` toward `stop`; the counter is the first parameter if there is
  one. -/
  | count (current stop step : Float) (bindsCounter : Bool)
  | forever
  /-- Go through entries taken down before the first pass; `index` is the current one. -/
  | entries (keys values : Array Value) (index : Nat)

/-- One activation on the call stack. -/
structure Frame where
  /-- The number of the next instruction. -/
  pc : Nat
  stub : Stub
  /-- The value stack, top first. -/
  stack : List Value
  /-- The activation whose referrables are this frame's own. -/
  own : Activation
  /-- The scope in which the function was made. -/
  outer : Scope
  captures : Array Capture
  restart : Option Restart

namespace Frame

/-- The stub of a frame that is not in use. -/
def idleStub : Stub := Stub.blank 0 4294967295

/-- A frame that is not in use; its referrables are the empty array with number zero. -/
def idle : Frame := ⟨0, idleStub, [], ⟨0, 4294967295, ⟨0⟩⟩, [], #[], none⟩

instance : Inhabited Frame := ⟨idle⟩

/-- The scope that functions made in this frame see. -/
def scope (f : Frame) : Scope := f.own :: f.outer

/-- The source line of the instruction being executed. -/
def line (f : Frame) : UInt32 := f.stub.lineAt (f.pc - 1)

end Frame

/-! ## Native functions -/

/-- The native functions that every machine starts with, queries apart. -/
inductive Primitive
  | noop
  | importModule
  | print
  | send
  | error
  | externalFunction
  | parseNumber
  | pi
  | random
  | combine
  | newType
  | instantiate
  | freeze
  | thaw
  | collect
  | encode
  | decode
deriving DecidableEq, Repr

/-- The name and the parameters of a primitive. -/
def Primitive.signature : Primitive → String × List String
  | noop => ("noop", [])
  | importModule => ("import", ["module"])
  | print => ("print", ["message"])
  | send => ("send", ["message"])
  | error => ("error", ["detail"])
  | externalFunction => ("getExternalFunction", ["name"])
  | parseNumber => ("Number.parse", ["string"])
  | pi => ("Number.PI", [])
  | random => ("Number.random", [])
  | combine => ("String.combine", ["strings"])
  | newType => ("Object.newType", ["name", "inherits", "layout"])
  | instantiate => ("Object.instantiate", ["type"])
  | freeze => ("Object.freezeGC", [])
  | thaw => ("Object.thawGC", [])
  | collect => ("Object.garbageCollect", [])
  | encode => ("JSON.encode", ["value"])
  | decode => ("JSON.decode", ["string"])

/-- What a native function does. -/
inductive NativeBody
  | primitive (p : Primitive)
  /-- Answer a parameterized query. -/
  | query (q : Query)
  /-- Call the function that the embedder knows by a handle. -/
  | hosted (handle : Nat)

/-- A native function: its name, a stub that states its parameters, and what it does. -/
structure Native where
  name : String
  stub : Stub
  body : NativeBody
  /-- The function object handed out for it, made on first use. -/
  value : Option ObjectId

namespace Native

/-- The primitives in the order of their numbers. -/
def primitives : List Primitive :=
  [.noop, .importModule, .print, .send, .error, .externalFunction, .parseNumber, .pi, .random,
    .combine, .newType, .instantiate, .freeze, .thaw, .collect, .encode, .decode]

/-- The number of the first query's native function. -/
def queryBase : Nat := primitives.length

/-- A native function with its number. -/
def make (id : Nat) (name : String) (parameters : List String) (body : NativeBody) : Native :=
  ⟨name, Stub.native (UInt32.ofNat id) parameters.toArray, body, none⟩

/-- The native functions that every machine starts with: the primitives, then one for
each parameterized query. -/
def builtin : Array Native :=
  let described : List (String × List String × NativeBody) :=
    primitives.map (fun p => (p.signature.1, p.signature.2, .primitive p)) ++
      Query.parameterized.map (fun q => (q.title, q.parameters?.getD [], .query q))
  (described.mapIdx fun id d => make id d.1 d.2.1 d.2.2).toArray

end Native

/-! ## The machine -/

/-- What the machine asked of its embedder or told it, in order. -/
inductive HostEvent
  | fetched (name : String)
  | printed (text : String)
  | unhandled (error : UnhandledError)

/-- Something that happened to a module. -/
inductive ModuleEvent
  /-- An import asked the embedder for it. -/
  | asked (name : String)
  /-- It was loaded, and its entry is called next. -/
  | started (name : String)
  /-- An import of it ended with its result. -/
  | imported (name : String) (v : Value)
  /-- The embedder ran it by itself, with its result. -/
  | ran (name : String) (v : Value)

/-- The state of a machine. -/
structure Machine where
  config : Config
  types : TypeTable
  /-- The objects; the one with number `n` stands at place `n - 1`. -/
  objects : Array Object
  /-- The arrays of referrables, by number. -/
  slots : Array (Array Value)
  /-- The pool of frames; the first `depth` of them are active. -/
  frames : Array Frame
  depth : Nat
  /-- How many calls, of script or native functions, are under way. -/
  reentry : Nat
  /-- The loaded stubs, by file and id. -/
  stubs : Std.HashMap (UInt32 × UInt32) Stub
  /-- The names of the loaded files, by file id. -/
  files : Array String
  /-- The results of the modules that have run. -/
  modules : Std.HashMap String Value
  natives : Array Native
  /-- The numbers of the embedder's functions that no script has asked for yet. -/
  externals : Std.HashMap String Nat
  /-- The error or signal that is on its way to a handler. -/
  pending : Option Catchable
  /-- Everything that was raised so far, the latest first.  Nothing reads it: it is there to
  tell what became of each error and signal. -/
  raised : List Raising
  /-- What the last unhandled error was about. -/
  lastUnhandled : Option Value
  /-- How many random numbers have been drawn. -/
  draws : Nat
  /-- What the embedder was asked and told so far. -/
  events : Array HostEvent
  /-- What happened to modules so far.  Nothing reads it: it is there to tell what became of
  each import. -/
  history : Array ModuleEvent

namespace Machine

/-- A new machine. -/
def initial (config : Config) : Machine where
  config
  types := TypeTable.initial
  objects := #[]
  slots := #[#[]]
  frames := Array.replicate config.framePool Frame.idle
  depth := 0
  reentry := 0
  stubs := ∅
  files := #["<native>"]
  modules := ∅
  natives := Native.builtin
  externals := ∅
  pending := none
  raised := []
  lastUnhandled := none
  draws := 0
  events := #[]
  history := #[]

instance : Inhabited Machine := ⟨initial Config.standard⟩

/-! ## Reading the state -/

/-- The object with a number; one that was never made reads as blank. -/
def object (m : Machine) (o : ObjectId) : Object := m.objects.getD (o.serial - 1) Object.blank

/-- The frame at a place of the pool. -/
def frame (m : Machine) (i : Nat) : Frame := m.frames.getD i Frame.idle

/-- An array of referrables. -/
def referrables (m : Machine) (s : SlotsId) : Array Value := m.slots.getD s.serial #[]

/-- The name of a file. -/
def fileName (m : Machine) (file : UInt32) : String := m.files.getD file.toNat "<unknown>"

/-- Whether a value is a function. -/
def isFunction (m : Machine) : Value → Bool
  | .object o => (m.object o).isFunction
  | _ => false

/-- The type of a value; an object's type is the one it was made with. -/
def typeOf (m : Machine) : Value → TypeId
  | .object o => (m.object o).type
  | v => (TypeTable.plainType v).id

/-- Whether a value is an instance of a type. -/
def isA (m : Machine) (v : Value) (t : TypeId) : Bool :=
  match v with
  | .object o => m.types.objectIsA (m.object o).type (m.object o).isFunction t
  | v => TypeTable.plainIsA v t

/-- What the attribute set of an object holds under a key, unless that is Empty. -/
def attributeAt? (m : Machine) (o : ObjectId) (k : Key) : Option Value :=
  (m.object o).attributes.bind fun a => ((m.object a).get? k).bind Value.nonEmpty?

/-- What the attribute set of an object holds under a name, unless that is Empty. -/
def attribute? (m : Machine) (o : ObjectId) (name : String) : Option Value :=
  m.attributeAt? o (.string name)

/-- The file and the line of every active frame, innermost first. -/
def callStack (m : Machine) : List (String × UInt32) :=
  ((m.frames.toList.take m.depth).map fun f => (m.fileName f.stub.file, f.line)).reverse

/-- The file and the line being executed; outside all frames, the embedder's. -/
def location (m : Machine) : String × UInt32 :=
  match m.depth with
  | 0 => ("<host>", 0)
  | d + 1 => (m.fileName (m.frame d).stub.file, (m.frame d).line)

end Machine

end StubMachine
