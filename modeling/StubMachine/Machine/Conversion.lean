import StubMachine.Machine.Engine

/-!
# Conversions

Plain values convert by fixed rules.  Numbers and booleans convert to each other and to
text, a type to its name; Empty converts to `false` only, strings to themselves and to
`true`.  **An object converts through its attribute set**: the entry under the target
type is called without arguments, and must return a value of that kind.  A function
counts as `true` without being asked.
-/

namespace StubMachine

open StubMachine.Action

/-- The result of the converter that an object has for a builtin type. -/
def convertObject (e : Engine) (o : ObjectId) (wanted : BuiltinType) : Action Value := do
  match ← read fun m => m.attributeAt? o (.type wanted.id) with
  | some converter => e.call converter []
  | none =>
    let what := if (← objectAt o).isFunction then "Function" else "Object"
    raise (.cannotConvert what wanted.name)

/-- A value as a number. -/
def asNumber (e : Engine) : Value → Action Float
  | .number n => return n
  | .boolean b => return if b then 1.0 else 0.0
  | .object o => do
    match ← convertObject e o .number with
    | .number n => return n
    | other => raise (.conversionResult "Number" other.kind)
  | v => raise (.cannotConvert v.kind.name "Number")

/-- A value as text. -/
def asString (e : Engine) : Value → Action String
  | .string s => return s
  | .number n => return Style.canonical.text n
  | .boolean b => return if b then "true" else "false"
  | .type t => read fun m => m.types.name t
  | .object o => do
    match ← convertObject e o .string with
    | .string s => return s
    | other => raise (.conversionResult "String" other.kind)
  | .empty => raise (.cannotConvert Kind.empty.name "String")

/-- A value as a boolean. -/
def asBoolean (e : Engine) : Value → Action Bool
  | .empty => return false
  | .boolean b => return b
  | .number n => return n != 0.0
  | .string _ => return true
  | .type _ => return true
  | .object o => do
    if (← objectAt o).isFunction then return true
    match ← convertObject e o .boolean with
    | .boolean b => return b
    | other => raise (.conversionResult "Boolean" other.kind)

/-- What the converter of an object for a type returns, if there is a converter and it
returns an instance of the type. -/
def convertByAttribute (e : Engine) (v : Value) (t : TypeId) : Action (Option Value) := do
  match v with
  | .object o =>
    match ← read fun m => m.attributeAt? o (.type t) with
    | some converter =>
      let converted ← e.call converter []
      if ← read fun m => m.isA converted t then return some converted else return none
    | none => return none
  | _ => return none

/-- **A value as an instance of a type.**  The three plain kinds are converted to; the
type of types takes the type of the value; for any other type the value itself will do
if it is an instance, and else a converter of its own. -/
def convertTo (e : Engine) (v : Value) (t : TypeId) : Action Value := do
  match BuiltinType.ofId? t with
  | some .number => return .number (← asNumber e v)
  | some .string => return .string (← asString e v)
  | some .boolean => return .boolean (← asBoolean e v)
  | some .type => return .type (← read fun m => m.typeOf v)
  | _ =>
    if ← read fun m => m.isA v t then return v
    match ← convertByAttribute e v t with
    | some converted => return converted
    | none => raise (.cannotConvert v.kind.name (← read fun m => m.types.name t))

end StubMachine
