/-!
# Command lines

A command line names a file to run, or a command with a file: `run` runs it, `disasm`
lists its stubs.  Options may stand before and after the file; `--` ends them.  A value
of an option follows it as a word of its own or after an equals sign.  What does not fit
is refused as a whole.

Commands have options of their own: those before a command do not reach it.
-/

namespace StubMachine

/-- Options of a run. -/
structure RunOptions where
  config : Option String
  /-- Directories to search before the configured ones. -/
  importPaths : List String
deriving DecidableEq, Repr

/-- What a command line asks for. -/
inductive Command
  | run (file : String) (options : RunOptions)
  | disassemble (file : String)
  /-- No file is named. -/
  | nothing
  | help
  | version
deriving DecidableEq, Repr

namespace Command

/-- An option that takes a value. -/
inductive ValueOption
  | config
  | importPath
  | log
deriving DecidableEq, Repr

/-- The option with a name. -/
def ValueOption.ofName? : String → Option ValueOption
  | "config" => some .config
  | "import-path" => some .importPath
  | "log" => some .log
  | _ => none

/-- What is accepted at a level of the command line. -/
structure Level where
  takesOptions : Bool
  showsVersion : Bool
  hasCommands : Bool

/-- The level before any command. -/
def outerLevel : Level := ⟨true, true, true⟩

/-- The level after the command `run`. -/
def runLevel : Level := ⟨true, false, false⟩

/-- The level after the command `disasm`. -/
def disassembleLevel : Level := ⟨false, false, false⟩

/-- What has been read at a level. -/
structure Collected where
  config : Option String
  importPaths : List String
  log : Option String
  file : Option String

/-- How a level ends. -/
inductive Ending
  | finished (c : Collected)
  | command (name : String) (rest : List String)
  | help
  | version

/-- Take the value of an option; paths are not empty, and only search directories may be
given more than once. -/
def Collected.store (c : Collected) (value : String) : ValueOption → Option Collected
  | .config =>
    if value.isEmpty || c.config.isSome then none else some { c with config := some value }
  | .importPath =>
    if value.isEmpty then none else some { c with importPaths := c.importPaths ++ [value] }
  | .log => if c.log.isSome then none else some { c with log := some value }

/-- Take the file. -/
def Collected.storeFile (c : Collected) (value : String) : Option Collected :=
  if value.isEmpty || c.file.isSome then none else some { c with file := some value }

/-- Whether a word looks like an option; a single hyphen does not. -/
def isOption (word : String) : Bool := word.startsWith "-" && word != "-"

/-- What a word beginning with a hyphen asks for. -/
inductive Meaning
  | help
  | version
  | option (o : ValueOption) (value : Option String)

/-- The meaning of a word that begins with two hyphens, by what follows them. -/
def longMeaning? (level : Level) (body : List Char) : Option Meaning :=
  let name := String.ofList (body.takeWhile (· != '='))
  let value := match body.dropWhile (· != '=') with
    | _ :: value => some (String.ofList value)
    | [] => none
  match name, value with
  | "help", none => some .help
  | "version", none => if level.showsVersion then some .version else none
  | name, value =>
    if level.takesOptions then (ValueOption.ofName? name).map fun o => .option o value else none

/-- The meaning of a word that looks like an option. -/
def meaning? (level : Level) (word : String) : Option Meaning :=
  match word.toList with
  | '-' :: '-' :: body => longMeaning? level body
  | '-' :: 'h' :: _ => some .help
  | '-' :: 'V' :: _ => if level.showsVersion then some .version else none
  | _ => none

/-- The names of the commands. -/
def names : List String := ["run", "disasm", "help"]

/-- Read the words of a level.  `literal` says that `--` has been read, and `awaiting` is
the option whose value comes next. -/
def collect (level : Level) : Bool → Option ValueOption → Collected → List String → Option Ending
  | _, none, c, [] => some (.finished c)
  | _, some _, _, [] => none
  | literal, some o, c, word :: rest => do
    if isOption word then none else collect level literal none (← c.store word o) rest
  | true, none, c, word :: rest => do collect level true none (← c.storeFile word) rest
  | false, none, c, word :: rest => do
    if level.hasCommands && names.contains word then some (.command word rest)
    else if word = "--" then collect level true none c rest
    else if isOption word then
      match ← meaning? level word with
      | .help => some .help
      | .version => some .version
      | .option o none => collect level false (some o) c rest
      | .option o (some value) => collect level false none (← c.store value o) rest
    else collect level false none (← c.storeFile word) rest

/-- Read a level from its first word on. -/
def readLevel (level : Level) (words : List String) : Option Ending :=
  collect level false none ⟨none, [], none, none⟩ words

/-- The options of a run among what has been read. -/
def Collected.options (c : Collected) : RunOptions := ⟨c.config, c.importPaths⟩

/-- The command with a name, from the words after it. -/
def ofNamed? (name : String) (words : List String) : Option Command := do
  match name with
  | "run" =>
    match ← readLevel runLevel words with
    | .finished c => some (.run (← c.file) c.options)
    | .help => some .help
    | _ => none
  | "disasm" =>
    match ← readLevel disassembleLevel words with
    | .finished c => some (.disassemble (← c.file))
    | .help => some .help
    | _ => none
  | _ =>
    match words with
    | [] => some .help
    | [topic] => if names.contains topic then some .help else none
    | _ => none

/-- **What a command line asks for**, unless it is refused. -/
def ofWords? (words : List String) : Option Command := do
  match ← readLevel outerLevel words with
  | .finished c =>
    match c.file with
    | some file => some (.run file c.options)
    | none => some .nothing
  | .command name rest => ofNamed? name rest
  | .help => some .help
  | .version => some .version

end Command

end StubMachine
