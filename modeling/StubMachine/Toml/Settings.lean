import StubMachine.Config
import StubMachine.Toml.Reader

/-!
# Configurations as settings documents

A configuration is read from the root table of a document.  A setting that is not there
keeps its standard value, and names that mean nothing here are ignored, but every setting
that is there must be of its kind.
-/

namespace StubMachine

/-- Why a text is no configuration. -/
structure ConfigFault where
  detail : String
deriving DecidableEq, Repr

/-- The words for a refused configuration. -/
def ConfigFault.message (f : ConfigFault) : String := "invalid VM configuration: " ++ f.detail

namespace Toml

/-- A setting that is a count, below 2^64. -/
def Item.count : Item → Except SyntaxFault Nat
  | .integer n =>
    if 0 ≤ n ∧ n < (Nat.pow 2 64 : Nat) then .ok n.toNat else .error "count out of range"
  | _ => .error "expected a count"

/-- A setting that is a text. -/
def Item.string : Item → Except SyntaxFault String
  | .text s => .ok s
  | _ => .error "expected a text"

/-- A setting that is a list of texts. -/
def Item.strings : Item → Except SyntaxFault (List String)
  | .array items => items.mapM Item.string
  | _ => .error "expected a list of texts"

/-- Take one entry of the root table into a configuration. -/
def applySetting (c : Config) (entry : String × Item) : Except SyntaxFault Config := do
  match entry.1 with
  | "max_call_depth" => return { c with maxCallDepth := ← entry.2.count }
  | "frame_pool" => return { c with framePool := ← entry.2.count }
  | "value_stack_reserve" => return { c with valueStackReserve := ← entry.2.count }
  | "import_paths" => return { c with importPaths := ← entry.2.strings }
  | "module_extension" => return { c with moduleExtension := ← entry.2.string }
  | _ => return c

end Toml

/-- **The configuration that a text states.** -/
def Config.ofToml (text : String) : Except ConfigFault Config :=
  match Toml.read text >>= fun entries => entries.foldlM Toml.applySetting Config.standard with
  | .ok c => .ok c
  | .error detail => .error ⟨detail⟩

end StubMachine
