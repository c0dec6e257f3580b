import StubMachine.Numeral.Shortest

/-!
# How numbers are written

A number is written with the digits of its shortest decimal.  What is left to
decide is a tie between two such decimals and the layout, and each place that prints
numbers fixes both by one `Style`:

* `Style.canonical` is the text of a number value: whole numbers below 10^15 as
  integers, everything else with a point or an exponent;
* `Style.json` is the number syntax of encoded documents;
* `Style.plain` is what messages and listings show: every digit, never an exponent.
-/

namespace StubMachine

/-- The choices that turn the digits of a number into text. -/
structure Style where
  /-- Which of two equally near decimals is written. -/
  tie : Decimal.Tie
  /-- Whole numbers of smaller magnitude are written as integers, without the sign of
  a negative zero. -/
  integersBelow : Nat
  /-- The first and last decimal exponent that is written without an exponent part;
  `none` if all are. -/
  positional : Option (Int × Int)
  /-- Whether a whole number written without exponent ends in `.0`. -/
  pointed : Bool
  /-- Whether a positive exponent carries a sign. -/
  signedExponent : Bool
  /-- The text of infinity, after the sign. -/
  infinity : String

namespace Style

/-- The text of a number value. -/
def canonical : Style := ⟨.toEven, Nat.pow 10 15, some (-5, 15), true, false, "Infinity"⟩

/-- A number in an encoded document; such documents hold finite numbers only. -/
def json : Style := ⟨.toEven, Nat.pow 2 53, some (-5, 15), true, true, "Infinity"⟩

/-- A number in a message or a listing. -/
def plain : Style := ⟨.upward, 0, none, false, false, "inf"⟩

private def zeros (n : Int) : List Char := List.replicate n.toNat '0'

/-- Digits with the decimal point after the first `point` of them. -/
private def positionalText (s : Style) (digits : List Char) (point : Int) : List Char :=
  let n : Int := digits.length
  if n ≤ point then
    digits ++ zeros (point - n) ++ (if s.pointed then ['.', '0'] else [])
  else if 0 < point then
    digits.take point.toNat ++ '.' :: digits.drop point.toNat
  else
    '0' :: '.' :: (zeros (-point) ++ digits)

/-- Digits with the decimal point after the first one, and the exponent `e`. -/
private def exponentText (s : Style) (digits : List Char) (e : Int) : List Char :=
  let fraction := if digits.length ≤ 1 then [] else '.' :: digits.drop 1
  let sign := if e < 0 then ['-'] else if s.signedExponent then ['+'] else []
  digits.take 1 ++ fraction ++ 'e' :: (sign ++ Nat.toDigits 10 e.natAbs)

/-- The text of a magnitude given by its decimal. -/
def decimalText (s : Style) (d : Decimal) : String :=
  let digits := d.digits
  let point := digits.length + d.exponent
  let free := match s.positional with
    | none => true
    | some (lo, hi) => lo ≤ point - 1 && point - 1 ≤ hi
  String.ofList (if free then s.positionalText digits point else s.exponentText digits (point - 1))

/-- Whether a number is written as an integer. -/
def writesInteger (s : Style) (x : Float) : Bool :=
  Binary64.isIntegral x && Binary64.wholePart x < s.integersBelow

/-- **The text of a number** in a style. -/
def text (s : Style) (x : Float) : String :=
  if Binary64.isNaN x then "NaN"
  else if s.writesInteger x then toString (Binary64.truncate x)
  else
    let body := if Binary64.isFinite x then s.decimalText (Decimal.shortest s.tie x) else s.infinity
    if Binary64.isNegative x then "-" ++ body else body

end Style

end StubMachine
