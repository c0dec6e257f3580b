import StubMachine.Toml.Tree

/-!
# Texts and keys of settings documents

A text stands between quotes: double ones with escapes, single ones without.  Three
quotes enclose a text of several lines; a line end right after them does not count, all
others are kept as they are written, and up to two quotes may stand before the closing
ones.  Control characters other than the
tab have to be escaped.

A key is a sequence of names with dots between them.  A name without quotes consists of
ASCII letters, digits, underscores and hyphens.
-/

namespace StubMachine.Toml

/-- Whether a character must not stand in a text or a comment as it is. -/
def isControl (c : Char) : Bool := (c.toNat < 0x20 && c != '\t') || c.toNat == 0x7f

/-- Whether a character is a blank within a line. -/
def isBlank (c : Char) : Bool := c == ' ' || c == '\t'

/-- A text without its leading blanks. -/
def skipBlanks (cs : List Char) : List Char := cs.dropWhile isBlank

/-- What follows a line end at the start of a text. -/
def afterLineEnd? : List Char → Option (List Char)
  | '\n' :: cs => some cs
  | '\r' :: '\n' :: cs => some cs
  | _ => none

/-! ## Escapes -/

/-- The value of a hexadecimal digit. -/
def hexDigit? (c : Char) : Option Nat :=
  if c.isDigit then some (c.toNat - '0'.toNat)
  else if 'a' ≤ c.toLower ∧ c.toLower ≤ 'f' then some (c.toLower.toNat - 'a'.toNat + 10)
  else none

/-- The character whose code point is written with `width` hexadecimal digits. -/
def codePoint? (width : Nat) (cs : List Char) : Option (Char × List Char) := do
  let digits ← (cs.take width).mapM hexDigit?
  let point := digits.foldl (fun n d => 16 * n + d) 0
  if digits.length = width ∧ point.isValidChar then some (Char.ofNat point, cs.drop width) else none

/-- The character that a backslash and what follows stand for. -/
def unescape? : List Char → Option (Char × List Char)
  | 'b' :: cs => some ('\x08', cs)
  | 't' :: cs => some ('\t', cs)
  | 'n' :: cs => some ('\n', cs)
  | 'f' :: cs => some ('\x0c', cs)
  | 'r' :: cs => some ('\r', cs)
  | 'e' :: cs => some ('\x1b', cs)
  | '"' :: cs => some ('"', cs)
  | '\\' :: cs => some ('\\', cs)
  | 'x' :: cs => codePoint? 2 cs
  | 'u' :: cs => codePoint? 4 cs
  | 'U' :: cs => codePoint? 8 cs
  | _ => none

/-- A text without its leading blanks and line ends. -/
def skipLineEnds : List Char → List Char
  | '\r' :: '\n' :: cs => skipLineEnds cs
  | c :: cs => if isBlank c || c == '\n' then skipLineEnds cs else c :: cs
  | [] => []

/-- What follows the blanks and line ends after a backslash that ends its line. -/
def afterJoin? (cs : List Char) : Option (List Char) :=
  (afterLineEnd? (skipBlanks cs)).map skipLineEnds

/-! ## Texts -/

/-- The forms of a text. -/
structure Quotation where
  quote : Char
  escapes : Bool
  manyLines : Bool

/-- The rest of a text on one line; `done` holds the characters so far, the last one
first. -/
def Quotation.readLine (q : Quotation) : Nat → List Char → List Char →
    Except SyntaxFault (String × List Char)
  | 0, _, _ => .error "unterminated text"
  | _ + 1, _, [] => .error "unterminated text"
  | fuel + 1, done, c :: cs =>
    if c = q.quote then .ok (String.ofList done.reverse, cs)
    else if q.escapes && c = '\\' then
      match unescape? cs with
      | some (c, cs) => q.readLine fuel (c :: done) cs
      | none => .error "invalid escape"
    else if isControl c then .error "control character in text"
    else q.readLine fuel (c :: done) cs

/-- The rest of a text of several lines. -/
def Quotation.readLines (q : Quotation) : Nat → List Char → List Char →
    Except SyntaxFault (String × List Char)
  | 0, _, _ => .error "unterminated text"
  | _ + 1, _, [] => .error "unterminated text"
  | fuel + 1, done, c :: cs =>
    let quotes := min 5 ((c :: cs).takeWhile (· == q.quote)).length
    if 3 ≤ quotes then
      let kept := List.replicate (quotes - 3) q.quote
      .ok (String.ofList (done.reverse ++ kept), (c :: cs).drop quotes)
    else if q.escapes && c = '\\' then
      match afterJoin? cs, unescape? cs with
      | some cs, _ => q.readLines fuel done cs
      | none, some (c, cs) => q.readLines fuel (c :: done) cs
      | none, none => .error "invalid escape"
    else if isControl c && (afterLineEnd? (c :: cs)).isNone then
      .error "control character in text"
    else q.readLines fuel (c :: done) cs

/-- A text on one line whose opening quote has been read. -/
def readShortText (quote : Char) (cs : List Char) : Except SyntaxFault (String × List Char) :=
  Quotation.readLine ⟨quote, quote = '"', false⟩ (cs.length + 1) [] cs

/-- **A text** whose first opening quote has been read. -/
def readText (quote : Char) (cs : List Char) : Except SyntaxFault (String × List Char) :=
  if [quote, quote].isPrefixOf cs then
    let cs := cs.drop 2
    let cs := (afterLineEnd? cs).getD cs
    Quotation.readLines ⟨quote, quote = '"', true⟩ (cs.length + 1) [] cs
  else readShortText quote cs

/-! ## Keys -/

/-- Whether a character may stand in a name without quotes. -/
def isNameChar (c : Char) : Bool := c.isAlphanum || c == '_' || c == '-'

/-- One name of a key. -/
def readName (cs : List Char) : Except SyntaxFault (String × List Char) :=
  match cs with
  | '"' :: cs => readShortText '"' cs
  | '\'' :: cs => readShortText '\'' cs
  | cs =>
    let (name, rest) := cs.span isNameChar
    if name.isEmpty then .error "expected a key" else .ok (String.ofList name, rest)

/-- A key after the names in `path`, the last one first; the result has the last name
apart. -/
def readKeyFrom : Nat → List String → List Char →
    Except SyntaxFault ((List String × String) × List Char)
  | 0, _, _ => .error "expected a key"
  | fuel + 1, path, cs => do
    let (name, cs) ← readName (skipBlanks cs)
    match skipBlanks cs with
    | '.' :: cs => readKeyFrom fuel (name :: path) cs
    | cs => return ((path.reverse, name), cs)

/-- **A key**: the names on the way, and the last name. -/
def readKey (cs : List Char) : Except SyntaxFault ((List String × String) × List Char) :=
  readKeyFrom (cs.length + 1) [] cs

end StubMachine.Toml
