/-!
# Configuration

The limits of a machine and where its command line looks for modules.
-/

namespace StubMachine

/-- Limits and search path of a machine. -/
structure Config where
  /-- How many script functions may be active at once. -/
  maxCallDepth : Nat
  /-- How many frames a new machine has ready. -/
  framePool : Nat
  /-- How many values a frame's stack is expected to hold. -/
  valueStackReserve : Nat
  importPaths : List String
  moduleExtension : String
deriving DecidableEq, Repr

/-- The configuration where nothing else is said. -/
def Config.standard : Config := ⟨512, 16, 32, ["."], "mbc"⟩

end StubMachine
