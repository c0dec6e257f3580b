/-!
# Occurrences of a text in a text

Looking for a key, counting it, cutting a text at it and replacing it are scans from left to
right, each of its own.  Those that go on after an occurrence go on where it ended, so that
**successive occurrences never overlap**.  Positions count characters.
-/

namespace StubMachine.Text

/-! ## Looking -/

/-- Whether a key occurs; the empty key occurs everywhere. -/
def occursIn (key : List Char) : List Char → Bool
  | [] => key.isEmpty
  | c :: text => key.isPrefixOf (c :: text) || occursIn key text

/-- Whether a key occurs in a text. -/
def containsText (key text : String) : Bool := occursIn key.toList text.toList

/-- The first position at which a non-empty key occurs in a text whose first character is at
`position`. -/
def firstFrom (key : List Char) : Nat → List Char → Option Nat
  | _, [] => none
  | position, c :: text =>
    if key.isPrefixOf (c :: text) then some position else firstFrom key (position + 1) text

/-- The first position at which a non-empty key occurs, if it does. -/
def first? (key text : String) : Option Nat := firstFrom key.toList 0 text.toList

/-- The positions of the successive occurrences of `key` in a text whose first
character is at `position` and whose first `skip` characters belong to an occurrence
already reported. -/
def occurrencesFrom (key : List Char) : Nat → Nat → List Char → List Nat
  | _, _, [] => []
  | position, skip + 1, _ :: text => occurrencesFrom key (position + 1) skip text
  | position, 0, c :: text =>
    if key.isPrefixOf (c :: text) then
      position :: occurrencesFrom key (position + 1) (key.length - 1) text
    else occurrencesFrom key (position + 1) 0 text

/-- The positions at which a non-empty key occurs, from left to right and without
overlap. -/
def occurrences (key text : String) : List Nat := occurrencesFrom key.toList 0 0 text.toList

/-! ## Cutting and replacing -/

/-- The pieces between the occurrences of `key`; `piece` holds the characters of the
current piece, the last one first, and the first `skip` characters are left out. -/
def splitFrom (key : List Char) : Nat → List Char → List Char → List (List Char)
  | _, piece, [] => [piece.reverse]
  | skip + 1, piece, _ :: text => splitFrom key skip piece text
  | 0, piece, c :: text =>
    if key.isPrefixOf (c :: text) then
      piece.reverse :: splitFrom key (key.length - 1) [] text
    else splitFrom key 0 (c :: piece) text

/-- The pieces of a text between the occurrences of a non-empty token; an empty token
cuts the text into its characters. -/
def split (token text : String) : List String :=
  if token.isEmpty then text.toList.map fun c => String.ofList [c]
  else (splitFrom token.toList 0 [] text.toList).map String.ofList

/-- A text with `substitute` for every occurrence of `key`; `written` holds what has been
written so far, the last character first, and the first `skip` characters are left out. -/
def replaceFrom (key substitute : List Char) : Nat → List Char → List Char → List Char
  | _, written, [] => written.reverse
  | skip + 1, written, _ :: text => replaceFrom key substitute skip written text
  | 0, written, c :: text =>
    if key.isPrefixOf (c :: text) then
      replaceFrom key substitute (key.length - 1) (substitute.reverse ++ written) text
    else replaceFrom key substitute 0 (c :: written) text

/-- A text with every occurrence of a non-empty key replaced. -/
def replace (key substitute text : String) : String :=
  String.ofList (replaceFrom key.toList substitute.toList 0 [] text.toList)

end StubMachine.Text
