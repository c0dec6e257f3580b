import StubMachine.Machine.State

/-!
# Descriptions

How values and machines are described to a developer: each value with its kind, objects
and types by number, so that two descriptions agree only for the same thing.
-/

namespace StubMachine

/-- A description inside parentheses, after its head. -/
private def applied (head inside : String) : String := head ++ "(" ++ inside ++ ")"

/-- Fields inside braces, after their head. -/
private def braced (head : String) (fields : List (String × String)) : String :=
  let shown := fields.map fun (name, text) => name ++ ": " ++ text
  head ++ " \x7b " ++ ", ".intercalate shown ++ " \x7d"

namespace Machine

/-- The description of a value. -/
def describe (m : Machine) : Value → String
  | .empty => "Empty"
  | .boolean b => applied "Boolean" (if b then "true" else "false")
  | .number n => applied "Number" (Style.canonical.text n)
  | .string s => applied "String" (Text.quote s)
  | .object o => (if (m.object o).isFunction then "Function#" else "Object#") ++ toString o.serial
  | .type t => applied "Type" (m.types.name t ++ "#" ++ toString t.number)

/-- The description of an error or a signal. -/
def describeCatchable (m : Machine) (c : Catchable) : String :=
  braced "Catchable" [
    ("kind", if c.kind = .error then "Error" else "Send"),
    ("payload", m.describe c.payload),
    ("file", Text.quote c.file),
    ("line", toString c.line)]

/-- The description of a machine: how deep it is in calls, what it has loaded and what is
on its way to a handler. -/
def description (m : Machine) : String :=
  braced "Vm" [
    ("depth", toString m.depth),
    ("files", "[" ++ ", ".intercalate (m.files.toList.map Text.quote) ++ "]"),
    ("natives", toString m.natives.size),
    ("pending",
      match m.pending with
      | none => "None"
      | some c => applied "Some" (m.describeCatchable c))]

end Machine

end StubMachine
