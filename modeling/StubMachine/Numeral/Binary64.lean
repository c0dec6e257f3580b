/-!
# Binary64 numbers as exact values

A number of the machine is a 64-bit binary float.  Wherever its exact value
matters — truncation to an integer, the remainder of a division, the decimal
digits that stand for it — the bits are read off as a sign, a mantissa `m` and an
exponent `q`, so that the magnitude of a finite number is exactly `m * 2 ^ q`.

**Integers are reached by saturation**: a number is cut toward zero and then
clamped to the range asked for, and a number that is no number counts as zero.
-/

namespace StubMachine.Binary64

/-! ## The parts of a number -/

/-- The sign bit; set for negative zero as well. -/
def isNegative (x : Float) : Bool := x.toBits >>> 63 == 1

/-- The eleven exponent bits. -/
def exponentField (x : Float) : Nat := ((x.toBits >>> 52) &&& 0x7ff).toNat

/-- The fifty-two fraction bits. -/
def fractionField (x : Float) : Nat := (x.toBits &&& 0xfffffffffffff).toNat

/-- Neither infinite nor a NaN. -/
def isFinite (x : Float) : Bool := exponentField x != 0x7ff

/-- A NaN of either sign. -/
def isNaN (x : Float) : Bool := exponentField x == 0x7ff && fractionField x != 0

/-- The mantissa of a finite number, the hidden bit included. -/
def mantissa (x : Float) : Nat :=
  if exponentField x = 0 then fractionField x else fractionField x + Nat.pow 2 52

/-- The exponent that goes with the mantissa. -/
def exponent (x : Float) : Int :=
  if exponentField x = 0 then -1074 else (exponentField x : Int) - 1075

/-! ## Integers -/

/-- The whole part of the magnitude of a finite number. -/
def wholePart (x : Float) : Nat :=
  let q := exponent x
  if 0 ≤ q then mantissa x <<< q.toNat else mantissa x >>> (-q).toNat

/-- A finite number without a fractional part. -/
def isIntegral (x : Float) : Bool :=
  isFinite x &&
    (let q := exponent x
     0 ≤ q || mantissa x % Nat.pow 2 (-q).toNat == 0)

/-- A finite number cut toward zero. -/
def truncate (x : Float) : Int :=
  if isNegative x then -(wholePart x : Int) else wholePart x

/-- Cut toward zero and clamp to `lo .. hi`; infinities go to the ends, a NaN to zero. -/
def clampTo (lo hi : Int) (x : Float) : Int :=
  if isNaN x then 0
  else if !isFinite x then (if isNegative x then lo else hi)
  else max lo (min hi (truncate x))

/-- The unsigned integer of `bits` bits nearest to the number cut toward zero. -/
def toUnsigned (bits : Nat) (x : Float) : Nat := (clampTo 0 ((Nat.pow 2 bits : Nat) - 1) x).toNat

/-- The two's-complement integer of `bits` bits nearest to the number cut toward zero. -/
def toSigned (bits : Nat) (x : Float) : Int :=
  clampTo (-(Nat.pow 2 (bits - 1) : Nat)) ((Nat.pow 2 (bits - 1) : Nat) - 1) x

/-! ## Building numbers -/

/-- The bits of a sign, an exponent field and a fraction field. -/
def assemble (negative : Bool) (exponentBits fractionBits : Nat) : Float :=
  Float.ofBits (UInt64.ofNat
    ((if negative then Nat.pow 2 63 else 0) + exponentBits * Nat.pow 2 52 + fractionBits))

/-- The number `± m * 2 ^ q`, whenever a binary64 number has that value. -/
def ofParts (negative : Bool) (m : Nat) (q : Int) : Float :=
  if m = 0 then assemble negative 0 0
  else
    let top := (Nat.log2 m : Int) + q
    if -1022 ≤ top then
      let width := Nat.log2 m
      let scaled := if width ≤ 52 then m <<< (52 - width) else m >>> (width - 52)
      assemble negative (top + 1023).toNat (scaled - Nat.pow 2 52)
    else
      let shift := q + 1074
      assemble negative 0 (if 0 ≤ shift then m <<< shift.toNat else m >>> (-shift).toNat)

/-- The number nearest to an integer.  Up to `2 ^ 53` in magnitude it is the integer itself,
assembled bit by bit; a zero has no sign. -/
def ofInteger (n : Int) : Float :=
  if n.natAbs ≤ Nat.pow 2 53 then ofParts (decide (n < 0)) n.natAbs 0 else Float.ofInt n

/-- The remainder of a division that truncates: it has the sign of the dividend and
a magnitude below the divisor's.  It is always exact. -/
def remainder (a b : Float) : Float :=
  if isNaN a || isNaN b || !isFinite a || mantissa b == 0 && isFinite b then 0.0 / 0.0
  else if !isFinite b then a
  else
    let q := min (exponent a) (exponent b)
    let ma := mantissa a <<< (exponent a - q).toNat
    let mb := mantissa b <<< (exponent b - q).toNat
    ofParts (isNegative a) (ma % mb) q

end StubMachine.Binary64
