import StubMachine.Json.Numeral
import StubMachine.Json.Tree
import StubMachine.OrderedMap

/-!
# Reading documents

The grammar is JSON without any extension: blanks are space, tab, line feed and carriage
return; strings hold no raw control character and no unpaired surrogate escape; nothing
but blanks follows the document.  Arrays and objects nest at most 127 deep.  Of several
members with one name the last value counts, at the place of the first.

The recursion is bounded by the length of the text, since every item takes at least one
character.
-/

namespace StubMachine.Json

/-- Why a text is no document. -/
abbrev SyntaxFault := String

/-- The deepest nesting of arrays and objects. -/
def maxDepth : Nat := 127

/-- Whether a character separates tokens. -/
def isSpace (c : Char) : Bool := c == ' ' || c == '\t' || c == '\n' || c == '\r'

/-- A text without its leading blanks. -/
def skipSpace (cs : List Char) : List Char := cs.dropWhile isSpace

/-- The value of a hexadecimal digit. -/
def hexValue? (c : Char) : Option Nat :=
  if '0' ≤ c ∧ c ≤ '9' then some (c.toNat - '0'.toNat)
  else if 'a' ≤ c ∧ c ≤ 'f' then some (c.toNat - 'a'.toNat + 10)
  else if 'A' ≤ c ∧ c ≤ 'F' then some (c.toNat - 'A'.toNat + 10)
  else none

/-- Four hexadecimal digits as a number. -/
def hex4? : List Char → Option (Nat × List Char)
  | a :: b :: c :: d :: rest => do
    let n := (((← hexValue? a) * 16 + (← hexValue? b)) * 16 + (← hexValue? c)) * 16
      + (← hexValue? d)
    some (n, rest)
  | _ => none

/-- The character of an escape by code unit; a pair of surrogates makes one character. -/
def unicodeChar? (cs : List Char) : Option (Char × List Char) := do
  let (high, rest) ← hex4? cs
  if 0xdc00 ≤ high ∧ high ≤ 0xdfff then none
  else if 0xd800 ≤ high ∧ high ≤ 0xdbff then
    match rest with
    | '\\' :: 'u' :: rest =>
      let (low, rest) ← hex4? rest
      if 0xdc00 ≤ low ∧ low ≤ 0xdfff then
        some (Char.ofNat (0x10000 + (high - 0xd800) * 0x400 + (low - 0xdc00)), rest)
      else none
    | _ => none
  else some (Char.ofNat high, rest)

/-- The character that a backslash and what follows stand for. -/
def escaped? : List Char → Option (Char × List Char)
  | '"' :: rest => some ('"', rest)
  | '\\' :: rest => some ('\\', rest)
  | '/' :: rest => some ('/', rest)
  | 'b' :: rest => some ('\x08', rest)
  | 'f' :: rest => some ('\x0c', rest)
  | 'n' :: rest => some ('\n', rest)
  | 'r' :: rest => some ('\r', rest)
  | 't' :: rest => some ('\t', rest)
  | 'u' :: rest => unicodeChar? rest
  | _ => none

/-- The rest of a string whose opening quote has been read; `done` holds the characters
read so far, the last one first. -/
def readStringBody : Nat → List Char → List Char → Except SyntaxFault (String × List Char)
  | 0, _, _ => .error "unterminated string"
  | _ + 1, _, [] => .error "unterminated string"
  | fuel + 1, done, c :: cs =>
    if c = '"' then .ok (String.ofList done.reverse, cs)
    else if c = '\\' then
      match escaped? cs with
      | some (c, cs) => readStringBody fuel (c :: done) cs
      | none => .error "invalid escape"
    else if c.toNat < 0x20 then .error "control character in string"
    else readStringBody fuel (c :: done) cs

/-- The name of a member and the colon after it. -/
def readName (cs : List Char) : Except SyntaxFault (String × List Char) :=
  match skipSpace cs with
  | '"' :: cs => do
    let (name, cs) ← readStringBody (cs.length + 1) [] cs
    match skipSpace cs with
    | ':' :: cs => return (name, cs)
    | _ => throw "expected a colon"
  | _ => .error "expected a member name"

/-- A word of the grammar at the start of a text. -/
def afterWord? (word : String) (cs : List Char) : Option (List Char) :=
  if word.toList.isPrefixOf cs then some (cs.drop word.length) else none

/-- A document that is neither an array nor an object. -/
def readAtom (cs : List Char) : Except SyntaxFault (Json × List Char) :=
  match cs with
  | '"' :: cs => do
    let (s, cs) ← readStringBody (cs.length + 1) [] cs
    return (.string s, cs)
  | 'n' :: _ => ((afterWord? "null" cs).map fun cs => (Json.null, cs)).elim
      (.error "invalid word") .ok
  | 't' :: _ => ((afterWord? "true" cs).map fun cs => (Json.boolean true, cs)).elim
      (.error "invalid word") .ok
  | 'f' :: _ => ((afterWord? "false" cs).map fun cs => (Json.boolean false, cs)).elim
      (.error "invalid word") .ok
  | cs => ((readNumber? cs).map fun (x, cs) => (Json.number x, cs)).elim
      (.error "invalid value") .ok

mutual

/-- The document at the start of a text, blanks before it skipped, with `depth` levels of
nesting left. -/
def readValue : Nat → Nat → List Char → Except SyntaxFault (Json × List Char)
  | 0, _, _ => .error "unexpected end"
  | fuel + 1, depth, cs =>
    match skipSpace cs with
    | '[' :: cs =>
      if depth = 0 then .error "nesting too deep"
      else
        match skipSpace cs with
        | ']' :: cs => .ok (.array [], cs)
        | cs => readItems fuel (depth - 1) [] cs
    | '\x7b' :: cs =>
      if depth = 0 then .error "nesting too deep"
      else
        match skipSpace cs with
        | '\x7d' :: cs => .ok (.object [], cs)
        | cs => readMembers fuel (depth - 1) OrderedMap.empty cs
    | cs => readAtom cs

/-- The items of an array up to its closing bracket, after those in `done`, the last one
first. -/
def readItems : Nat → Nat → List Json → List Char → Except SyntaxFault (Json × List Char)
  | 0, _, _, _ => .error "unexpected end"
  | fuel + 1, depth, done, cs =>
    match readValue fuel depth cs with
    | .error e => .error e
    | .ok (j, cs) =>
      match skipSpace cs with
      | ',' :: cs => readItems fuel depth (j :: done) cs
      | ']' :: cs => .ok (.array (j :: done).reverse, cs)
      | _ => .error "expected a comma or a bracket"

/-- The members of an object up to its closing brace, after those in `done`. -/
def readMembers : Nat → Nat → OrderedMap String Json → List Char →
    Except SyntaxFault (Json × List Char)
  | 0, _, _, _ => .error "unexpected end"
  | fuel + 1, depth, done, cs =>
    match readName cs with
    | .error e => .error e
    | .ok (name, cs) =>
      match readValue fuel depth cs with
      | .error e => .error e
      | .ok (j, cs) =>
        let done := done.insert name j
        match skipSpace cs with
        | ',' :: cs => readMembers fuel depth done cs
        | '\x7d' :: cs => .ok (.object done.toList, cs)
        | _ => .error "expected a comma or a brace"

end

/-- **The document that a text is.** -/
def read (text : String) : Except SyntaxFault Json := do
  let cs := text.toList
  let (j, rest) ← readValue (2 * cs.length + 2) maxDepth cs
  if (skipSpace rest).isEmpty then return j else throw "trailing characters"

end StubMachine.Json
