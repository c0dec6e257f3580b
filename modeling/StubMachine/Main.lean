import StubMachine.Console.Report

/-!
# The command line

The outermost layer.  A command line is answered from the files that have been looked up
so far; if the answer depends on others, these are looked up and the question is asked
again.
-/

namespace StubMachine.Console

/-- The numbers drawn from a seed, each at least zero and below one. -/
def randomFrom (seed : UInt64) (n : Nat) : Float :=
  let z := seed + 0x9e3779b97f4a7c15 * (UInt64.ofNat n + 1)
  let z := (z ^^^ (z >>> 30)) * 0xbf58476d1ce4e5b9
  let z := (z ^^^ (z >>> 27)) * 0x94d049bb133111eb
  let z := z ^^^ (z >>> 31)
  (z >>> 11).toFloat / 9007199254740992.0

/-- What has been looked up so far. -/
abbrev Lookups := Std.HashMap String (Except PathFault Node)

/-- Look a path up. -/
def lookUp (path : String) : IO (Except PathFault Node) := do
  try
    let real ← IO.FS.realPath path
    if ← real.isDir then return .ok .directory
    let bytes ← IO.FS.readBinFile path
    return .ok (.file bytes.toList)
  catch
    | .inappropriateType .. => return .error .notDirectory
    | _ => return .error .notFound

/-- Look up the paths that have not been looked up yet. -/
def lookUpAll (known : Lookups) (paths : List String) : IO Lookups :=
  paths.foldlM (fun known path => do return known.insert path (← lookUp path)) known

/-- Answer a command line, looking up what the answer depends on. -/
partial def answerWith (known : Lookups) (random : Nat → Float) (words : List String) :
    IO Report := do
  let report := answer (fun path => known.getD path (.error .notFound)) random words
  let unknown := report.consulted.filter fun path => !known.contains path
  if unknown.isEmpty then return report
  answerWith (← lookUpAll known unknown) random words

end StubMachine.Console

/-- Answer the command line and write the report. -/
def main (words : List String) : IO UInt32 := do
  let seed ← IO.rand 0 (Nat.pow 2 62)
  let random := StubMachine.Console.randomFrom (UInt64.ofNat seed)
  let report ← StubMachine.Console.answerWith ∅ random words
  (← IO.getStdout).putStr report.output
  (← IO.getStderr).putStr report.errors
  return UInt32.ofNat report.exit
