import StubMachine.Numeral.Binary64

/-!
# The shortest decimal that reads back

Every positive finite number is the nearest binary64 number to a whole interval of
reals.  **Its shortest decimal** is the one with the fewest digits inside that
interval, and among those of that length the nearest to the number itself.  Which of
two equally near ones is taken is for the caller to say.

The search is exact.  The number and the ends of its interval are written as
natural numbers over a common denominator; for one digit, two digits, and so on up
to seventeen, the two neighbours of the number on the decimal grid of that length
are compared with the ends.  Seventeen digits always suffice.
-/

namespace StubMachine

/-- The decimal number `coefficient * 10 ^ exponent`. -/
structure Decimal where
  coefficient : Nat
  exponent : Int
deriving DecidableEq, Repr

namespace Decimal

/-- The decimal digits of the coefficient, most significant first. -/
def digits (d : Decimal) : List Char := Nat.toDigits 10 d.coefficient

/-- Move trailing zeros of the coefficient into the exponent, at most `fuel` of them. -/
def stripZeros : Nat → Decimal → Decimal
  | 0, d => d
  | fuel + 1, d =>
    if d.coefficient ≠ 0 ∧ d.coefficient % 10 = 0 then
      stripZeros fuel ⟨d.coefficient / 10, d.exponent + 1⟩
    else d

/-- Which of two equally near decimals stands for a number. -/
inductive Tie
  /-- The one with an even last digit. -/
  | toEven
  /-- The larger one. -/
  | upward
deriving DecidableEq, Repr

/-- Whether a tie between a coefficient and the next one goes to the next one. -/
def Tie.goesUp (tie : Tie) (c : Nat) : Bool :=
  match tie with
  | .toEven => c % 2 == 1
  | .upward => true

/-- The reals that round to one number: everything from `low` to `high`, over the
denominator `den`; `middle` is the number itself. -/
structure Interval where
  low : Nat
  middle : Nat
  high : Nat
  den : Nat
  /-- Whether the two ends belong to the interval. -/
  closed : Bool

namespace Interval

/-- The rounding interval of a positive finite number.  The gap below a power of two
is half the gap above it; the ends round to the number when its mantissa is even. -/
def ofFloat (x : Float) : Interval :=
  let m := Binary64.mantissa x
  let q := Binary64.exponent x - 2
  let below := if m = Nat.pow 2 52 ∧ 1 < Binary64.exponentField x then 1 else 2
  let up (n : Nat) : Nat := if 0 ≤ q then n <<< q.toNat else n
  { low := up (4 * m - below)
    middle := up (4 * m)
    high := up (4 * m + 2)
    den := if 0 ≤ q then 1 else 1 <<< (-q).toNat
    closed := m % 2 == 0 }

/-- The interval measured in units of `10 ^ p`. -/
def inUnits (i : Interval) (p : Int) : Interval :=
  if 0 ≤ p then { i with den := i.den * Nat.pow 10 p.toNat }
  else
    let s := Nat.pow 10 (-p).toNat
    { i with low := i.low * s, middle := i.middle * s, high := i.high * s }

/-- Whether the whole number `c` lies in the interval. -/
def holds (i : Interval) (c : Nat) : Bool :=
  let n := c * i.den
  if i.closed then i.low ≤ n && n ≤ i.high else i.low < n && n < i.high

/-- The whole number in the interval that is nearest to its middle, if the interval
holds one of the middle's two neighbours. -/
def nearest? (tie : Tie) (i : Interval) : Option Nat :=
  let c := i.middle / i.den
  let rest := i.middle % i.den
  let upFirst := i.den < 2 * rest || 2 * rest == i.den && tie.goesUp c
  let (first, second) := if upFirst then (c + 1, c) else (c, c + 1)
  if i.holds first then some first
  else if i.holds second then some second
  else none

/-- The exponent `e` with `10 ^ e ≤ middle < 10 ^ (e + 1)`. -/
def leadingExponent (i : Interval) : Int :=
  let guess := (((Nat.log2 i.middle : Int) - Nat.log2 i.den) * 30103).fdiv 100000
  let reaches (e : Int) : Bool :=
    if 0 ≤ e then Nat.pow 10 e.toNat * i.den ≤ i.middle
    else i.den ≤ i.middle * Nat.pow 10 (-e).toNat
  if reaches (guess + 1) then guess + 1 else if reaches guess then guess else guess - 1

end Interval

/-- **The shortest decimal that reads back as the number**, for the magnitude of a
finite number. -/
def shortest (tie : Tie) (x : Float) : Decimal :=
  if Binary64.mantissa x = 0 then ⟨0, 0⟩
  else
    let i := Interval.ofFloat x
    let e := i.leadingExponent
    let found := (List.range 17).findSome? fun (k : Nat) =>
      ((i.inUnits (e - (k : Int))).nearest? tie).map fun c => (⟨c, e - (k : Int)⟩ : Decimal)
    (found.getD ⟨0, 0⟩).stripZeros 17

end Decimal

end StubMachine
