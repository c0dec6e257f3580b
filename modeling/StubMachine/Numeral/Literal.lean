import StubMachine.Numeral.Shortest

/-!
# Number literals

`Literal.read?` reads the text of a number: an optional sign, then `inf`,
`infinity` or `nan` in any case, or decimal digits with at most one point among
them and at least one digit, and an optional exponent.  The value is the binary64
number nearest to what is written, so that a numeral too large is infinite and one
too small is zero.

**An exponent stops growing**: once its digits have reached `exponentLimit`, those
that follow have to be digits but do not count.
-/

namespace StubMachine

/-- The binary64 number nearest to a decimal; a numeral far outside the range is
infinite or zero without computing its power of ten. -/
def Decimal.toFloat (d : Decimal) : Float :=
  if d.coefficient = 0 then 0.0
  else
    let point := (d.digits.length : Int) + d.exponent
    if 400 < point then 1.0 / 0.0
    else if point < -400 then 0.0
    else if d.exponent < 0 then Float.ofScientific d.coefficient true d.exponent.natAbs
    else Float.ofScientific d.coefficient false d.exponent.natAbs

namespace Literal

/-- The value of a run of decimal digits. -/
def digitsValue (cs : List Char) : Nat :=
  cs.foldl (fun n c => n * 10 + (c.toNat - '0'.toNat)) 0

/-- From here on an exponent does not grow. -/
def exponentLimit : Nat := 65536

/-- The size of an exponent that is written with decimal digits. -/
def exponentValue (cs : List Char) : Nat :=
  cs.foldl (fun n c => if n < exponentLimit then n * 10 + (c.toNat - '0'.toNat) else n) 0

/-- How many digits of a decimal are kept.  No binary64 number and no point half way
between two of them has as many, so of the digits after them it matters only whether one
is not zero. -/
def digitLimit : Nat := 800

/-- The decimal `cs * 10 ^ e`; where digits are left out, a last digit one stands for
those that are not zero. -/
def decimalOf (cs : List Char) (e : Int) : Decimal :=
  let cs := cs.dropWhile (· == '0')
  let dropped := cs.drop digitLimit
  if dropped.isEmpty then ⟨digitsValue cs, e⟩
  else
    let last := if dropped.all (· == '0') then '0' else '1'
    ⟨digitsValue (cs.take digitLimit ++ [last]), e + (dropped.length : Int) - 1⟩

/-- Split off the leading decimal digits. -/
def spanDigits (cs : List Char) : List Char × List Char :=
  cs.span Char.isDigit

/-- An optional sign; true for a minus. -/
def sign : List Char → Bool × List Char
  | '-' :: cs => (true, cs)
  | '+' :: cs => (false, cs)
  | cs => (false, cs)

/-- The exponent part that ends a numeral, or nothing. -/
def exponent? : List Char → Option Int
  | [] => some 0
  | c :: cs =>
    if c = 'e' ∨ c = 'E' then
      let (negative, cs) := sign cs
      let (digits, rest) := spanDigits cs
      if digits.isEmpty || !rest.isEmpty then none
      else
        let n : Int := exponentValue digits
        some (if negative then -n else n)
    else none

/-- A numeral without sign. -/
def decimal? (cs : List Char) : Option Decimal := do
  let (whole, rest) := spanDigits cs
  let (fraction, rest) := match rest with
    | '.' :: rest => spanDigits rest
    | _ => ([], rest)
  if whole.isEmpty && fraction.isEmpty then none
  let e ← exponent? rest
  some (decimalOf (whole ++ fraction) (e - fraction.length))

/-- The words that stand for numbers without digits. -/
def word? (cs : List Char) : Option Float :=
  match String.ofList (cs.map Char.toLower) with
  | "inf" | "infinity" => some (1.0 / 0.0)
  | "nan" => some (0.0 / 0.0)
  | _ => none

/-- **The number a text stands for**, if it is a number literal. -/
def read? (text : String) : Option Float := do
  let (negative, body) := sign text.toList
  let magnitude ← match word? body with
    | some x => some x
    | none => (decimal? body).map Decimal.toFloat
  some (if negative then -magnitude else magnitude)

end Literal

end StubMachine
