import StubMachine.Numeral.Literal

/-!
# Numerals in documents

A numeral of a document is read into a **significand** of at most 64 bits and a decimal
exponent.  Digits that no longer fit are dropped; those before the point still raise the
exponent.  The value is the significand, rounded to a binary64 number, times or divided
by a power of ten, so it may miss the nearest number by a last place when the
significand or the power is large.  A value too large to be finite is refused.
-/

namespace StubMachine.Json

/-- The largest significand. -/
def maxSignificand : Nat := Nat.pow 2 64 - 1

/-- The largest exponent whose digits are still added up. -/
def maxExponent : Nat := Nat.pow 2 31 - 1

/-- A power of ten from `10 ^ 0` to `10 ^ 308`. -/
def powerOfTen (k : Nat) : Float := Float.ofScientific 1 false k

/-- Divide by `10 ^ 308` until the exponent left over is one of the powers at hand. -/
def scaleDown : Nat → Float → Nat → Float
  | 0, x, k => x / powerOfTen (min k 308)
  | fuel + 1, x, k =>
    if k ≤ 308 then x / powerOfTen k
    else if x == 0.0 then x
    else scaleDown fuel (x / powerOfTen 308) (k - 308)

/-- The number `significand * 10 ^ exponent`, unless it is too large to be finite. -/
def scaled? (significand : Nat) (exponent : Int) : Option Float :=
  let x := Float.ofNat significand
  if 0 ≤ exponent then
    if exponent ≤ 308 then
      let y := x * powerOfTen exponent.toNat
      if Binary64.isFinite y then some y else none
    else if x == 0.0 then some x
    else none
  else some (scaleDown 4 x exponent.natAbs)

/-- Digits appended to a significand as long as it stays in range, and the digits left. -/
def takeDigits : Nat → List Char → Nat × List Char
  | significand, [] => (significand, [])
  | significand, c :: cs =>
    let next := significand * 10 + (c.toNat - '0'.toNat)
    if maxSignificand < next then (significand, c :: cs) else takeDigits next cs

/-- The exponent part of a numeral, added to what the digits gave; `none` if it is
malformed or the number is too large. -/
def withExponent? (significand : Nat) (start : Int) : List Char → Option (Float × List Char)
  | c :: cs =>
    if c = 'e' ∨ c = 'E' then
      let (negative, cs) := Literal.sign cs
      let (digits, rest) := Literal.spanDigits cs
      if digits.isEmpty then none
      else
        let n := Literal.digitsValue digits
        if maxExponent < n then
          if significand ≠ 0 ∧ !negative then none else some (0.0, rest)
        else
          let e : Int := if negative then start - n else start + n
          (scaled? significand e).map fun x => (x, rest)
    else (scaled? significand start).map fun x => (x, c :: cs)
  | [] => (scaled? significand start).map fun x => (x, [])

/-- The fraction, if there is one, and the exponent; `start` counts the digits dropped
before the point. -/
def withFraction? (significand : Nat) (start : Int) : List Char → Option (Float × List Char)
  | '.' :: cs =>
    let (digits, rest) := Literal.spanDigits cs
    if digits.isEmpty then none
    else
      let (significand, dropped) := takeDigits significand digits
      withExponent? significand (start - (digits.length - dropped.length : Nat)) rest
  | cs => withExponent? significand start cs

/-- A numeral without sign: digits without a superfluous zero, a fraction, an
exponent. -/
def magnitude? (cs : List Char) : Option (Float × List Char) :=
  let (digits, rest) := Literal.spanDigits cs
  match digits with
  | [] => none
  | '0' :: _ :: _ => none
  | digits =>
    let (significand, dropped) := takeDigits 0 digits
    withFraction? significand dropped.length rest

/-- **The number at the start of a text**, and what follows it. -/
def readNumber? : List Char → Option (Float × List Char)
  | '-' :: cs => (magnitude? cs).map fun (x, rest) => (-x, rest)
  | cs => magnitude? cs

end StubMachine.Json
