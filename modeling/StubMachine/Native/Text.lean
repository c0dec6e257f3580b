import StubMachine.Machine.Access
import StubMachine.Native.Argument
import StubMachine.Text.Occurrence

/-!
# Native functions on texts

Texts are immutable: every function that changes one returns a new text.  Positions
count characters.
-/

namespace StubMachine.Native

open StubMachine.Action

/-- A key to search for, which must not be empty. -/
def searchKey (e : Engine) (args : Array Value) : Action String := do
  let key ← asString e (argument args 1)
  if key.isEmpty then fail .emptyKey
  return key

/-- The successive occurrences of the key in the base. -/
def keyOccurrences (e : Engine) (args : Array Value) : Action (List Nat) := do
  let s ← baseString args
  let key ← searchKey e args
  return Text.occurrences key s

/-- The position of the first occurrence, or minus one. -/
def searchText (e : Engine) (args : Array Value) : Action Value := do
  let s ← baseString args
  let key ← searchKey e args
  match Text.first? key s with
  | some position => return .ofNat position
  | none => return .number (-1.0)

/-- The positions of all occurrences, as a new list. -/
def searchAll (e : Engine) (args : Array Value) : Action Value := do
  let positions ← keyOccurrences e args
  newList (positions.map Value.ofNat).toArray

/-- The number of occurrences. -/
def countText (e : Engine) (args : Array Value) : Action Value := do
  return .ofNat (← keyOccurrences e args).length

/-- Whether a key occurs; the empty key does. -/
def containsText (e : Engine) (args : Array Value) : Action Value := do
  let s ← baseString args
  let key ← asString e (argument args 1)
  return .boolean (Text.containsText key s)

/-- The single key that a replacement replaces, unless it is Empty. -/
def singleKey (e : Engine) (args : Array Value) : Action (List String) := do
  match argument args 1 with
  | .empty => return []
  | key => return [← asString e key]

/-- The keys that a replacement replaces from a list, if there is one. -/
def listedKeys (e : Engine) (args : Array Value) : Action (List String) := do
  match argument args 3 with
  | .object keys => (← objectValues e keys).mapM (asString e)
  | _ => return []

/-- The keys that a replacement replaces: the single one, then those of a list. -/
def replacedKeys (e : Engine) (args : Array Value) : Action (List String) := do
  let single ← singleKey e args
  let listed ← listedKeys e args
  return single ++ listed

/-- The text with every occurrence of each key replaced, one key after the other. -/
def replaceText (e : Engine) (args : Array Value) : Action Value := do
  let s ← baseString args
  let substitute ← asString e (argument args 2)
  let keys ← replacedKeys e args
  if keys.isEmpty then fail .nothingToReplace
  let used := keys.filter fun key => !key.isEmpty
  return .string (used.foldl (fun s key => Text.replace key substitute s) s)

/-- The pieces between the occurrences of a token, as a new list. -/
def splitText (e : Engine) (args : Array Value) : Action Value := do
  let s ← baseString args
  let token ← asString e (argument args 1)
  newList ((Text.split token s).map Value.string).toArray

/-! ## Single characters -/

/-- The character at a position. -/
def characterAt (s : String) (i : Nat) : Action Char :=
  match s.toList[i]? with
  | some c => return c
  | none => fail (.characterIndex i s.length)

/-- The text with the character at a position replaced by some text. -/
def spliced (s : String) (i : Nat) (replacement : String) : Action Value := do
  let _ ← characterAt s i
  return .string
    (String.ofList (s.toList.take i ++ replacement.toList ++ s.toList.drop (i + 1)))

/-- The code point of a character. -/
def charCodeAt (args : Array Value) : Action Value := do
  let s ← baseString args
  let c ← characterAt s (← indexArgument args 1 "index")
  return .ofNat c.toNat

/-- A character, as a text. -/
def charAt (args : Array Value) : Action Value := do
  let s ← baseString args
  let c ← characterAt s (← indexArgument args 1 "index")
  return .string (String.ofList [c])

/-- Replace a character by the one with a code point. -/
def setCharCodeAt (e : Engine) (args : Array Value) : Action Value := do
  let s ← baseString args
  let i ← indexArgument args 1 "index"
  let code ← asNumber e (argument args 2)
  let point := Binary64.toUnsigned 32 code
  if point.isValidChar then spliced s i (String.ofList [Char.ofNat point])
  else fail (.characterCode code)

/-- Replace a character by a text. -/
def setCharAt (e : Engine) (args : Array Value) : Action Value := do
  let s ← baseString args
  let i ← indexArgument args 1 "index"
  let replacement ← asString e (argument args 2)
  spliced s i replacement

/-- Leave a character out. -/
def removeChar (args : Array Value) : Action Value := do
  let s ← baseString args
  let i ← indexArgument args 1 "index"
  spliced s i ""

/-! ## Templates -/

/-- A part of a template. -/
inductive TemplatePart
  | char (c : Char)
  /-- A placeholder: a dollar sign and a run of digits, with the number they form. -/
  | item (n : Nat)
deriving DecidableEq, Repr

/-- The parts of a template, `number` holding the placeholder being read, if any. -/
def templateParts : Option Nat → List Char → List TemplatePart
  | none, [] => []
  | some n, [] => [.item n]
  | number, c :: cs =>
    let starts := c = '$' ∧ (cs.head?.any Char.isDigit)
    match number with
    | some n =>
      if c.isDigit then templateParts (some (n * 10 + (c.toNat - '0'.toNat))) cs
      else if starts then .item n :: templateParts (some 0) cs
      else .item n :: .char c :: templateParts none cs
    | none =>
      if starts then templateParts (some 0) cs else .char c :: templateParts none cs

/-- The fault of a placeholder whose number names no item.  One that does not fit in 64 bits
names none, as no list is so long. -/
def missingItem (n : Nat) : Fault := if Nat.pow 2 64 ≤ n then .formatNumber else .formatItem n

/-- The text that a part of a template stands for. -/
def partText (e : Engine) (items : Array Value) : TemplatePart → Action (List Char)
  | .char c => return [c]
  | .item n =>
    match items[n]? with
    | some v => do return (← asString e v).toList
    | none => fail (missingItem n)

/-- **The template with its placeholders replaced** by the texts of the items they
name. -/
def formatText (e : Engine) (args : Array Value) : Action Value := do
  let template ← baseString args
  let o ← objectArgument args 1 "items"
  let items := (← objectAt o).indices
  let parts ← (templateParts none template.toList).mapM (partText e items)
  return .string (String.ofList parts.flatten)

end StubMachine.Native
