import StubMachine.Text.CaseTable

/-!
# Upper and lower case

Case conversion is character by character, with the full mappings: one character may
become two or three.  One rule looks at its surroundings: **a capital sigma that ends a
word becomes a final sigma**.  It ends a word when, characters without bearing on case
aside, a cased character comes before it and none comes after it.
-/

namespace StubMachine.Text

/-- The image of a code point under a table of shifts. -/
def Shifts.image? (table : Shifts) (n : Nat) : Option Nat :=
  (table.find? fun (first, last, step, _) => first ≤ n && n ≤ last && (n - first) % step == 0).map
    fun (_, _, _, distance) => ((n : Int) + distance).toNat

/-- The characters that a character becomes under a case mapping. -/
def mapCase (shifts : Shifts) (expands : Array (Nat × List Nat)) (c : Char) : List Char :=
  match expands.find? (·.1 == c.toNat) with
  | some (_, image) => image.map Char.ofNat
  | none =>
    match shifts.image? c.toNat with
    | some n => [Char.ofNat n]
    | none => [c]

/-- The upper-case form of a character. -/
def upperChar (c : Char) : List Char := mapCase shiftsUp expandsUp c

/-- The lower-case form of a character on its own. -/
def lowerChar (c : Char) : List Char := mapCase shiftsDown expandsDown c

/-- A text in upper case. -/
def toUpper (s : String) : String := String.ofList (s.toList.flatMap upperChar)

/-- Whether the first character that bears on case is cased. -/
def startsCased (cs : List Char) : Bool :=
  match cs.dropWhile ignorableRanges.holds with
  | c :: _ => casedRanges.holds c
  | [] => false

/-- The lower-case form of the characters `rest`, which follow those of `before`, the
nearest first. -/
def lowerAfter (before : List Char) : List Char → List Char
  | [] => []
  | c :: rest =>
    let image :=
      if c = 'Σ' then [if startsCased before && !startsCased rest then 'ς' else 'σ']
      else lowerChar c
    image ++ lowerAfter (c :: before) rest

/-- A text in lower case. -/
def toLower (s : String) : String := String.ofList (lowerAfter [] s.toList)

end StubMachine.Text
