import StubMachine.Numeral.Literal
import StubMachine.Toml.Tree

/-!
# Words of settings documents

A value that is neither a text nor a collection is one word: a truth value, an integer,
a float, or a date and time.  Integers may have a base, and the digits of all numbers may
be grouped by underscores.  Which of these a word is, and whether it is any, is decided
by looking at the word as a whole.
-/

namespace StubMachine.Toml

/-! ## Numbers -/

/-- The digits without the underscores between them. -/
def ungroup? (isDigit : Char → Bool) : List Char → Option (List Char)
  | [] => none
  | [c] => if isDigit c then some [c] else none
  | c :: '_' :: rest => if isDigit c then (ungroup? isDigit rest).map (c :: ·) else none
  | c :: rest => if isDigit c then (ungroup? isDigit rest).map (c :: ·) else none

/-- The value of a digit, in bases up to sixteen. -/
def digitValue (c : Char) : Nat :=
  if c.isDigit then c.toNat - '0'.toNat else c.toLower.toNat - 'a'.toNat + 10

/-- Whether a character is a digit of a base up to sixteen. -/
def isDigitOf (base : Nat) (c : Char) : Bool :=
  (c.isDigit || ('a' ≤ c.toLower && c.toLower ≤ 'f')) && digitValue c < base

/-- The number that digits of a base stand for. -/
def inBase? (base : Nat) (cs : List Char) : Option Nat := do
  let digits ← ungroup? (isDigitOf base) cs
  some (digits.foldl (fun n c => n * base + digitValue c) 0)

/-- Decimal digits of which the first is not a needless zero. -/
def wholeDigits? (cs : List Char) : Option (List Char) := do
  let digits ← ungroup? Char.isDigit cs
  if 1 < digits.length ∧ digits.head? = some '0' then none else some digits

/-- The integer that a word is. -/
def integer? : List Char → Option Int
  | '0' :: 'x' :: cs => (inBase? 16 cs).map Int.ofNat
  | '0' :: 'o' :: cs => (inBase? 8 cs).map Int.ofNat
  | '0' :: 'b' :: cs => (inBase? 2 cs).map Int.ofNat
  | cs => do
    let (negative, cs) := Literal.sign cs
    let n : Int := Literal.digitsValue (← wholeDigits? cs)
    some (if negative then -n else n)

/-- The digits after a point, if there is one. -/
def fraction? : List Char → Option (List Char)
  | [] => some []
  | '.' :: cs => (ungroup? Char.isDigit cs).map ('.' :: ·)
  | _ => none

/-- The exponent part, if there is one. -/
def exponent? : List Char → Option (List Char)
  | [] => some []
  | c :: cs => do
    let (negative, cs) := Literal.sign cs
    if c = 'e' ∨ c = 'E' then
      some ('e' :: (if negative then ['-'] else []) ++ (← ungroup? Char.isDigit cs))
    else none

/-- The digits of a float without sign, in the form that `Literal.read?` knows. -/
def floatDigits? (cs : List Char) : Option (List Char) := do
  let isMark := fun c => c == 'e' || c == 'E'
  let exponent ← exponent? (cs.dropWhile fun c => !isMark c)
  let mantissa := cs.takeWhile fun c => !isMark c
  let fraction ← fraction? (mantissa.dropWhile (· != '.'))
  let whole ← wholeDigits? (mantissa.takeWhile (· != '.'))
  if fraction.isEmpty && exponent.isEmpty then none else some (whole ++ fraction ++ exponent)

/-- The float that a word is; a numeral too large for any float is none. -/
def float? (cs : List Char) : Option Float := do
  let (negative, cs) := Literal.sign cs
  let magnitude ← match String.ofList cs with
    | "inf" => some (1.0 / 0.0 : Float)
    | "nan" => some (0.0 / 0.0)
    | _ => do
      let x ← Literal.read? (String.ofList (← floatDigits? cs))
      if Binary64.isFinite x then some x else none
  some (if negative then -magnitude else magnitude)

/-! ## Dates and times -/

/-- The number that exactly `width` digits stand for. -/
def fixed? (width : Nat) (cs : List Char) : Option (Nat × List Char) :=
  let front := cs.take width
  if front.length = width ∧ front.all Char.isDigit then
    some (Literal.digitsValue front, cs.drop width)
  else none

/-- A text without the character that it has to start with. -/
def after? (c : Char) : List Char → Option (List Char)
  | d :: cs => if d = c then some cs else none
  | [] => none

/-- The number of days of a month. -/
def daysOf (year month : Nat) : Nat :=
  if month = 2 then
    if year % 4 = 0 ∧ (year % 100 ≠ 0 ∨ year % 400 = 0) then 29 else 28
  else if month = 4 ∨ month = 6 ∨ month = 9 ∨ month = 11 then 30
  else 31

/-- What follows a date at the start of a word. -/
def afterDate? (cs : List Char) : Option (List Char) := do
  let (year, cs) ← fixed? 4 cs
  let (month, cs) ← fixed? 2 (← after? '-' cs)
  let (day, cs) ← fixed? 2 (← after? '-' cs)
  if 1 ≤ month ∧ month ≤ 12 ∧ 1 ≤ day ∧ day ≤ daysOf year month then some cs else none

/-- What follows the part of a second. -/
def afterSubsecond? : List Char → Option (List Char)
  | '.' :: cs =>
    if (cs.takeWhile Char.isDigit).isEmpty then none else some (cs.dropWhile Char.isDigit)
  | cs => some cs

/-- What follows a time at the start of a word; the seconds may be left out. -/
def afterTime? (cs : List Char) : Option (List Char) := do
  let (hour, cs) ← fixed? 2 cs
  let (minute, cs) ← fixed? 2 (← after? ':' cs)
  if 23 < hour ∨ 59 < minute then none
  else
    match cs with
    | ':' :: cs =>
      let (second, cs) ← fixed? 2 cs
      if 60 < second then none else afterSubsecond? cs
    | cs => some cs

/-- Whether a text is nothing or the offset of a time zone. -/
def isOffset : List Char → Bool
  | [] | ['Z'] | ['z'] => true
  | c :: cs =>
    (c == '+' || c == '-') &&
      ((do
        let (hour, cs) ← fixed? 2 cs
        let (minute, cs) ← fixed? 2 (← after? ':' cs)
        if hour ≤ 23 ∧ minute ≤ 59 ∧ cs = [] then some () else none : Option Unit)).isSome

/-- Whether a word is a date, a time, or a date with a time after it. -/
def isMoment (cs : List Char) : Bool :=
  match afterDate? cs with
  | some [] => true
  | some (c :: cs) =>
    (c == 'T' || c == 't' || c == ' ') && ((afterTime? cs).map isOffset).getD false
  | none => (afterTime? cs).map List.isEmpty |>.getD false

/-! ## Words -/

/-- Whether a character can be part of a word. -/
def isWordChar (c : Char) : Bool :=
  c.isAlphanum || c == '+' || c == '-' || c == '_' || c == '.' || c == ':'

/-- The word at the start of a text; one space may stand between a date and a time. -/
def spanWord (cs : List Char) : List Char × List Char :=
  let (word, rest) := cs.span isWordChar
  match afterDate? word, rest with
  | some [], ' ' :: c :: _ =>
    if c.isDigit then
      let (time, rest) := (rest.drop 1).span isWordChar
      (word ++ ' ' :: time, rest)
    else (word, rest)
  | _, _ => (word, rest)

/-- The largest and smallest integers that a document may hold. -/
def integerInRange (n : Int) : Bool :=
  -((Nat.pow 2 127 : Nat) : Int) ≤ n && n < (Nat.pow 2 128 : Nat)

/-- **What a word stands for.** -/
def Item.ofWord (word : List Char) : Except SyntaxFault Item :=
  match String.ofList word with
  | "true" => .ok (.boolean true)
  | "false" => .ok (.boolean false)
  | written =>
    match integer? word, float? word with
    | some n, _ => if integerInRange n then .ok (.integer n) else .error "integer out of range"
    | none, some x => .ok (.float x)
    | none, none => if isMoment word then .ok (.moment written) else .error "invalid value"

end StubMachine.Toml
