/-! Binary64 numbers by their bits: what a pattern denotes, and the nearest pattern to a ratio. -/

namespace Querent

/-- A binary64 number, known by its bit pattern. -/
structure Binary64 where
  bits : UInt64
deriving DecidableEq, Repr

namespace Binary64

/-- What the sign bit counts in the pattern: 2^63. -/
def signWeight : Nat := 9223372036854775808

/-- What the lowest bit of the exponent counts in the pattern: 2^52. -/
def exponentWeight : Nat := 4503599627370496

/-- Whether the sign bit is set. -/
def isNegative (x : Binary64) : Bool :=
  x.bits.toNat / signWeight == 1

/-- The eleven bits of the exponent. -/
def exponentField (x : Binary64) : Nat :=
  x.bits.toNat / exponentWeight % 2048

/-- The fifty-two bits of the fraction. -/
def fractionField (x : Binary64) : Nat :=
  x.bits.toNat % exponentWeight

/-- Whether the number is neither infinite nor a NaN. -/
def isFinite (x : Binary64) : Bool :=
  x.exponentField < 2047

/-- Whether the number is a NaN. -/
def isNaN (x : Binary64) : Bool :=
  x.exponentField == 2047 && x.fractionField != 0

/-- The integer that a power of two scales into the magnitude of a finite number. -/
def significand (x : Binary64) : Nat :=
  if x.exponentField = 0 then x.fractionField else exponentWeight + x.fractionField

/-- The power of two that scales the significand. -/
def scale (x : Binary64) : Int :=
  (max 1 x.exponentField : Nat) - 1075

/-- Whether the magnitude is zero. -/
def isZero (x : Binary64) : Bool :=
  x.isFinite && x.significand == 0

/-- The pattern with a given sign and magnitude bits. -/
def ofFields (negative : Bool) (magnitude : Nat) : Binary64 :=
  ⟨UInt64.ofNat ((if negative then signWeight else 0) + magnitude)⟩

/-- Infinity of a given sign. -/
def infinity (negative : Bool) : Binary64 :=
  ofFields negative (2047 * exponentWeight)

/-- A power with an integer exponent, as a numerator and a denominator. -/
def powerRatio (base : Nat) (exponent : Int) : Nat × Nat :=
  (Nat.pow base exponent.toNat, Nat.pow base (-exponent).toNat)

/-- The integer nearest to a ratio, the even one of two equally near. -/
def roundEven (num den : Nat) : Nat :=
  let below := num / den
  let twice := 2 * (num % den)
  if twice < den then below
  else if den < twice then below + 1
  else below + below % 2

/-- The binary64 number nearest to a ratio, the one with an even significand of two equally near. -/
def ofRatio (negative : Bool) (num den : Nat) : Binary64 :=
  if num = 0 then ofFields negative 0
  else
    let estimate : Int := (num.log2 : Int) - den.log2
    -- The leading bit of the quotient is at the estimate or one place below it.
    let (up, down) := powerRatio 2 estimate
    let leading := if num * down < den * up then estimate - 1 else estimate
    let power := max (leading - 52) (-1074)
    let (up, down) := powerRatio 2 power
    let rounded := roundEven (num * down) (den * up)
    -- A significand of 2^52 or more carries into the exponent field by plain addition.
    let magnitude := (power + 1074).toNat * exponentWeight + rounded
    if 2047 * exponentWeight ≤ magnitude then infinity negative else ofFields negative magnitude

/-- The magnitude of a finite number, as a ratio. -/
def ratio (x : Binary64) : Nat × Nat :=
  let (up, down) := powerRatio 2 x.scale
  (x.significand * up, down)

/-- The number nearest to a natural number. -/
def ofNat (n : Nat) : Binary64 :=
  ofRatio false n 1

/-- The product of two finite numbers, rounded once. -/
def times (x y : Binary64) : Binary64 :=
  ofRatio (x.isNegative != y.isNegative) (x.ratio.1 * y.ratio.1) (x.ratio.2 * y.ratio.2)

/-- The quotient of two finite numbers, the second not zero, rounded once. -/
def dividedBy (x y : Binary64) : Binary64 :=
  ofRatio (x.isNegative != y.isNegative) (x.ratio.1 * y.ratio.2) (x.ratio.2 * y.ratio.1)

/-- The number of the other sign. -/
def negate (x : Binary64) : Binary64 :=
  ofFields (!x.isNegative) (x.bits.toNat % signWeight)

end Binary64

end Querent
