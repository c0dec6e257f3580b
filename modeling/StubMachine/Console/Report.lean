import StubMachine.Bytecode.Listing
import StubMachine.Console.Arguments
import StubMachine.Console.Disk
import StubMachine.Machine.Perform
import StubMachine.Toml.Settings

/-!
# What the command line answers

A command is answered with a report: what is written to the two outputs, and the exit
code.  A run prints what the script prints, then the result of the file unless it is
Empty: a function as `<function>`, any other object as a document, everything else as
text.  Whatever goes wrong is one line on the error output.

A report also names the paths that were looked at, so that the outermost layer can fetch
what a run needs and ask again: **the answer depends on nothing else**.
-/

namespace StubMachine

open StubMachine.Action

/-- The answer to a command line. -/
structure Report where
  exit : Nat
  output : String
  errors : String
  /-- The paths that the answer depends on. -/
  consulted : List String

/-- What can go wrong at the command line. -/
inductive ConsoleFault
  | noInput
  | unreadableConfig (path : String) (fault : PathFault)
  | configEncoding (path : String)
  | config (path : String) (fault : ConfigFault)
  | unreadableFile (path : String) (fault : PathFault)
  | undecodable (path : String) (fault : RecordFault)
  | noStubs (path : String)
  | failed (failure : Failure)

namespace ConsoleFault

/-- A path between single quotes. -/
private def quoted (path : String) : String := "'" ++ path ++ "'"

/-- The words of a fault. -/
def message : ConsoleFault → String
  | noInput => "no input file; try \x60mat run <FILE>\x60 or \x60mat --help\x60"
  | unreadableConfig path fault => "Failed to read config " ++ quoted path ++ ": " ++ fault.message
  | configEncoding path =>
    "Failed to read config " ++ quoted path ++ ": stream did not contain valid UTF-8"
  | config path fault => "in " ++ path ++ ": " ++ fault.message
  | unreadableFile path fault => "Failed to read file " ++ quoted path ++ ": " ++ fault.message
  | undecodable path fault => "Failed to decode " ++ quoted path ++ ": " ++ fault.message
  | noStubs path => quoted path ++ " contains no stubs"
  | failed failure => failure.message

/-- The line on the error output; an unhandled error of a script speaks for itself. -/
def line : ConsoleFault → String
  | failed (.unhandled error) => error.message ++ "\n"
  | fault => "Error: " ++ fault.message ++ "\n"

end ConsoleFault

namespace Console

/-! ## Configuration -/

/-- The configuration file of a directory. -/
def defaultConfig : String := "mat.toml"

/-- The configuration that a file states. -/
def configAt (disk : Disk) (path : String) : Except ConsoleFault Config :=
  match disk.read path with
  | .error fault => .error (.unreadableConfig path fault)
  | .ok bytes =>
    match String.fromUTF8? ⟨bytes.toArray⟩ with
    | none => .error (.configEncoding path)
    | some text =>
      match Config.ofToml text with
      | .ok c => .ok c
      | .error fault => .error (.config path fault)

/-- **The configuration of a run**: that of the file named, or else of the default file if
there is one, with the directories of the command line searched first. -/
def configFor (disk : Disk) (options : RunOptions) : Except ConsoleFault Config := do
  let c ← match options.config with
    | some path => configAt disk path
    | none =>
      if disk.isFile defaultConfig then configAt disk defaultConfig else pure Config.standard
  return { c with importPaths := options.importPaths ++ c.importPaths }

/-! ## Modules -/

/-- The paths at which a module may stand, in the order of search. -/
def candidates (c : Config) (name : String) : List String :=
  c.importPaths.flatMap fun directory =>
    [Disk.join directory name, Disk.join directory (name ++ "." ++ c.moduleExtension)]

/-- The bytes of the first file that a module may be. -/
def findModule (disk : Disk) (c : Config) (name : String) : Except String (List UInt8) :=
  match (candidates c name).find? disk.isFile with
  | none =>
    let searched := ", ".intercalate c.importPaths
    .error ("module '" ++ name ++ "' not found (searched: " ++ searched ++ ")")
  | some path =>
    match disk.read path with
    | .ok bytes => .ok bytes
    | .error fault => .error ("Failed to read module " ++ path ++ ": " ++ fault.message)

/-- The host of a run: modules are files, and the host adds no functions. -/
def host (disk : Disk) (random : Nat → Float) (c : Config) : Host where
  fetch _ name := findModule disk c name
  random
  native _ _ _ := return .empty

/-! ## Running -/

/-- The text printed for a result, if any. -/
def render (e : Engine) (v : Value) : Action (Option String) := do
  match v with
  | .empty => return none
  | .object o =>
    if (← objectAt o).isFunction then return some "<function>"
    else return some (← encodeJson e v)
  | v => return some (← asString e v)

/-- Run a file and render its result. -/
def runAndRender (e : Engine) (file : String) (bytes : List UInt8) : Action (Option String) := do
  let v ← runModule e file bytes
  render e v

/-- A text as a line. -/
def asLine (s : String) : String := s ++ "\n"

/-- The lines that a machine printed. -/
def printedLines (m : Machine) : String :=
  String.join (m.events.toList.filterMap fun
    | .printed s => some (asLine s)
    | _ => none)

/-- The paths that a machine made its host look at. -/
def searched (c : Config) (m : Machine) : List String :=
  m.events.toList.flatMap fun
    | .fetched name => candidates c name
    | _ => []

/-- The report of a fault. -/
def refuse (fault : ConsoleFault) (output : String) (consulted : List String) : Report :=
  ⟨1, output, fault.line, consulted⟩

/-- **The report of a run.** -/
def runFile (disk : Disk) (random : Nat → Float) (file : String) (options : RunOptions) : Report :=
  let consulted := [options.config.getD defaultConfig, file]
  match configFor disk options with
  | .error fault => refuse fault "" consulted
  | .ok c =>
    match disk.read file with
    | .error fault => refuse (.unreadableFile file fault) "" consulted
    | .ok bytes =>
      let e := Engine.ofHost (host disk random c) Engine.ample
      match runAndRender e file bytes (Machine.initial c) with
      | .ok text m =>
        ⟨0, printedLines m ++ (text.map asLine).getD "", "", consulted ++ searched c m⟩
      | .error failure m => refuse (.failed failure) (printedLines m) (consulted ++ searched c m)

/-! ## Listing -/

/-- The report of a listing; the stubs are ordered by number. -/
def listFile (disk : Disk) (file : String) : Report :=
  match disk.read file with
  | .error fault => refuse (.unreadableFile file fault) "" [file]
  | .ok bytes =>
    match Record.readAll 0 bytes with
    | .error fault => refuse (.undecodable file fault) "" [file]
    | .ok stubs =>
      if stubs.isEmpty then refuse (.noStubs file) "" [file]
      else
        let ordered := stubs.toList.mergeSort fun a b => a.id ≤ b.id
        ⟨0, String.join (ordered.map fun s => asLine s.listing), "", [file]⟩

/-! ## Answering -/

/-- The version line. -/
def versionText : String := "mat 0.1.0"

/-- A short reminder of the usage. -/
def helpText : String :=
  "Usage: mat [--config FILE] [--import-path DIR] [--log FILTER] [FILE]\n" ++
  "       mat run [--config FILE] [--import-path DIR] [--log FILTER] FILE\n" ++
  "       mat disasm FILE"

/-- **The answer to a command line.** -/
def answer (disk : Disk) (random : Nat → Float) (words : List String) : Report :=
  match Command.ofWords? words with
  | none => ⟨2, "", "", []⟩
  | some .help => ⟨0, asLine helpText, "", []⟩
  | some .version => ⟨0, asLine versionText, "", []⟩
  | some .nothing => refuse .noInput "" []
  | some (.run file options) => runFile disk random file options
  | some (.disassemble file) => listFile disk file

end Console

end StubMachine
