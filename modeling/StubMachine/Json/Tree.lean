import StubMachine.Numeral.Style

/-!
# JSON documents

A document as a tree, and its compact text: no blanks, the members of an object in
order, and in strings only the quote, the backslash and control characters escaped.
-/

namespace StubMachine

/-- A JSON document. -/
inductive Json
  | null
  | boolean (b : Bool)
  /-- A number; one that is not finite is written as `null`. -/
  | number (n : Float)
  | string (s : String)
  | array (items : List Json)
  | object (members : List (String × Json))
deriving Inhabited

namespace Json

/-- A control character as an escape of four hexadecimal digits. -/
def unicodeEscape (c : Char) : List Char :=
  let digits := Nat.toDigits 16 c.toNat
  ['\\', 'u'] ++ List.replicate (4 - digits.length) '0' ++ digits

/-- The characters that stand for one character of a string. -/
def escapeChar (c : Char) : List Char :=
  if c = '"' then ['\\', '"']
  else if c = '\\' then ['\\', '\\']
  else if c = '\x08' then ['\\', 'b']
  else if c = '\x0c' then ['\\', 'f']
  else if c = '\n' then ['\\', 'n']
  else if c = '\r' then ['\\', 'r']
  else if c = '\t' then ['\\', 't']
  else if c.toNat < 0x20 then unicodeEscape c
  else [c]

/-- A string as JSON writes it. -/
def stringText (s : String) : List Char := '"' :: s.toList.flatMap escapeChar ++ ['"']

/-- A number as JSON writes it. -/
def numberText (n : Float) : String :=
  if Binary64.isFinite n then Style.json.text n else "null"

mutual

/-- The text of a document. -/
def chars : Json → List Char
  | .null => "null".toList
  | .boolean b => (if b then "true" else "false").toList
  | .number n => (numberText n).toList
  | .string s => stringText s
  | .array items => '[' :: itemChars items ++ [']']
  | .object members => '\x7b' :: memberChars members ++ ['\x7d']

/-- The items of an array, separated by commas. -/
def itemChars : List Json → List Char
  | [] => []
  | [j] => chars j
  | j :: rest => chars j ++ ',' :: itemChars rest

/-- The members of an object, separated by commas. -/
def memberChars : List (String × Json) → List Char
  | [] => []
  | [(name, j)] => stringText name ++ ':' :: chars j
  | (name, j) :: rest => stringText name ++ ':' :: (chars j ++ ',' :: memberChars rest)

end

/-- **The compact text of a document.** -/
def text (j : Json) : String := String.ofList j.chars

end Json

end StubMachine
