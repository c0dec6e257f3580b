import StubMachine.Bytecode.Stub
import StubMachine.Numeral.Style
import StubMachine.Text.Quoted

/-!
# Listings

A listing shows a stub to a reader: one line that sums it up, then one line for each
instruction with its source line, its number and its mnemonic.  Operands that an
instruction does not look at are left out, and a string is shown instead of its number
in the pool.
-/

namespace StubMachine

namespace Listing

/-- A number written right-aligned in a column. -/
def column (width n : Nat) : String :=
  let digits := toString n
  String.ofList (List.replicate (width - digits.length) ' ') ++ digits

/-- Names between brackets. -/
def bracketed (names : Array String) : String := "[" ++ ", ".intercalate names.toList ++ "]"

/-- The line that sums a stub up. -/
def header (s : Stub) : String :=
  let vararg := if s.isVararg then " vararg" else ""
  s!"stub {s.id} (file {s.file})" ++ vararg ++ " args=" ++ bracketed s.parameters
    ++ " locals=" ++ bracketed s.locals ++ s!" captures={s.captures.size}"

/-- Whether instructions with an opcode leave their operand unused. -/
def hidesOperand : Opcode → Bool
  | .pushEmpty | .newObject | .duplicate | .return_ | .nop => true
  | _ => false

/-- The operand as a listing shows it. -/
def operandText (s : Stub) (i : Instruction) : String :=
  match i.operand with
  | .stub id => s!"stub#{id}"
  | .number n =>
    match Opcode.ofByte? i.opcode with
    | some .pushString =>
      match s.strings[Binary64.toUnsigned 64 n]? with
      | some text => Text.quote text
      | none => "<bad string " ++ Style.plain.text n ++ ">"
    | some op => if hidesOperand op then "" else Style.plain.text n
    | none => Style.plain.text n

/-- The line of the instruction with number `pc`. -/
def instructionLine (s : Stub) (pc : Nat) (i : Instruction) : String :=
  let mnemonic := ((Opcode.ofByte? i.opcode).map Opcode.mnemonic).getD "???"
  column 5 i.line.toNat ++ " | " ++ column 4 pc ++ " | " ++ mnemonic ++ " " ++ operandText s i

end Listing

/-- **The listing of a stub**, every line ended by a line feed. -/
def Stub.listing (s : Stub) : String :=
  let lines := Listing.header s :: s.code.toList.mapIdx (Listing.instructionLine s)
  String.join (lines.map (· ++ "\n"))

end StubMachine
