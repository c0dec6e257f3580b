import StubMachine.Toml.Scalar
import StubMachine.Toml.Text

/-!
# Reading settings documents

A document is a sequence of lines; each is empty, an entry, or a header that begins a
table, and each may end in a comment.  An entry goes into the table of the last header
before it.  Arrays and inline tables may go over several lines, with comments, wherever a
blank may stand in them but inside a key; they may have a comma after their last part, and
nest at most eighty deep.
-/

namespace StubMachine.Toml

/-- The deepest nesting of arrays and inline tables. -/
def maxDepth : Nat := 80

/-! ## Blanks between parts -/

/-- What follows a comment; the comment goes up to the end of its line. -/
def afterComment (cs : List Char) : Except SyntaxFault (List Char) :=
  let rest := cs.dropWhile fun c => !isControl c
  match rest with
  | [] => .ok []
  | rest => if (afterLineEnd? rest).isSome then .ok rest else .error "control character in comment"

/-- Skip blanks, line ends and comments. -/
def skipLines : Nat → List Char → Except SyntaxFault (List Char)
  | 0, cs => .ok cs
  | fuel + 1, cs =>
    match skipBlanks cs with
    | '#' :: cs => do skipLines fuel (← afterComment cs)
    | cs =>
      match afterLineEnd? cs with
      | some cs => skipLines fuel cs
      | none => .ok cs

/-- Skip what may stand between the parts of a collection. -/
def skipFiller (cs : List Char) : Except SyntaxFault (List Char) := skipLines (cs.length + 1) cs

/-- Go to the next line; only a comment may stand before its end. -/
def finishLine (cs : List Char) : Except SyntaxFault (List Char) := do
  let cs ← match skipBlanks cs with
    | '#' :: cs => afterComment cs
    | cs => .ok cs
  match cs with
  | [] => return []
  | cs =>
    match afterLineEnd? cs with
    | some cs => return cs
    | none => throw "expected the end of the line"

/-! ## Values -/

mutual

/-- A value, with `depth` levels of nesting left. -/
def readValue : Nat → Nat → List Char → Except SyntaxFault (Item × List Char)
  | 0, _, _ => .error "expected a value"
  | fuel + 1, depth, cs =>
    match cs with
    | '"' :: cs => do
      let (s, cs) ← readText '"' cs
      return (.text s, cs)
    | '\'' :: cs => do
      let (s, cs) ← readText '\'' cs
      return (.text s, cs)
    | '[' :: cs => if depth = 0 then .error "nesting too deep" else readItems fuel (depth - 1) [] cs
    | '\x7b' :: cs =>
      if depth = 0 then .error "nesting too deep" else readEntries fuel (depth - 1) [] cs
    | cs => do
      let (word, cs) := spanWord cs
      return (← Item.ofWord word, cs)

/-- The items of an array up to its closing bracket, after those in `done`, the last one
first. -/
def readItems : Nat → Nat → List Item → List Char → Except SyntaxFault (Item × List Char)
  | 0, _, _, _ => .error "unterminated array"
  | fuel + 1, depth, done, cs => do
    match ← skipFiller cs with
    | ']' :: cs => return (.array done.reverse, cs)
    | cs =>
      let (item, cs) ← readValue fuel depth cs
      match ← skipFiller cs with
      | ',' :: cs => readItems fuel depth (item :: done) cs
      | ']' :: cs => return (.array (item :: done).reverse, cs)
      | _ => throw "expected a comma or a bracket"

/-- The entries of an inline table up to its closing brace, after those in `done`. -/
def readEntries : Nat → Nat → Entries → List Char → Except SyntaxFault (Item × List Char)
  | 0, _, _, _ => .error "unterminated table"
  | fuel + 1, depth, done, cs => do
    match ← skipFiller cs with
    | '\x7d' :: cs => return (.inline done, cs)
    | cs =>
      let ((path, last), cs) ← readKey cs
      match ← skipFiller cs with
      | '=' :: cs =>
        let (v, cs) ← readValue fuel depth (← skipFiller cs)
        let done ← Entries.define v last path done
        match ← skipFiller cs with
        | ',' :: cs => readEntries fuel depth done cs
        | '\x7d' :: cs => return (.inline done, cs)
        | _ => throw "expected a comma or a brace"
      | _ => throw "expected an equals sign"

end

/-! ## Lines -/

/-- What has been read of a document: the path of the last header, and the root table. -/
structure Draft where
  heading : List String
  root : Entries

/-- An entry, up to the end of its value. -/
def readEntry (d : Draft) (cs : List Char) : Except SyntaxFault (Draft × List Char) := do
  let ((path, last), cs) ← readKey cs
  match cs with
  | '=' :: cs =>
    let (v, cs) ← readValue (2 * cs.length + 2) maxDepth (skipBlanks cs)
    let root ← Entries.below (Entries.define v last path) d.heading d.root
    return (⟨d.heading, root⟩, cs)
  | _ => throw "expected an equals sign"

/-- The rest of a header whose opening brackets have been read. -/
def readHeader (d : Draft) (closing : List Char)
    (begin_ : List String → String → Entries → Except SyntaxFault Entries) (cs : List Char) :
    Except SyntaxFault (Draft × List Char) := do
  let ((path, last), cs) ← readKey cs
  if closing.isPrefixOf cs then
    return (⟨path ++ [last], ← begin_ path last d.root⟩, cs.drop closing.length)
  else throw "expected a bracket"

/-- The lines of a document, after what has been read. -/
def readLines : Nat → Draft → List Char → Except SyntaxFault Entries
  | 0, d, _ => .ok d.root
  | fuel + 1, d, cs => do
    match ← skipFiller cs with
    | [] => return d.root
    | '[' :: '[' :: cs =>
      let (d, cs) ← readHeader d [']', ']'] Entries.beginElement cs
      readLines fuel d (← finishLine cs)
    | '[' :: cs =>
      let (d, cs) ← readHeader d [']'] Entries.beginTable cs
      readLines fuel d (← finishLine cs)
    | cs =>
      let (d, cs) ← readEntry d cs
      readLines fuel d (← finishLine cs)

/-- **The root table of the document that a text is.**  A byte order mark before it does
not count. -/
def read (text : String) : Except SyntaxFault Entries :=
  let cs := match text.toList with
    | '\ufeff' :: cs => cs
    | cs => cs
  readLines (cs.length + 1) ⟨[], []⟩ cs

end StubMachine.Toml
