import Querent.Number.Binary64

/-! The shortest decimal that reads back as a given binary64 number. -/

namespace Querent

/-- Which of two equally near neighbours is taken. -/
inductive Tie
  | toEven
  | upward
deriving DecidableEq, Repr

/-- A natural number scaled by a power of ten. -/
structure Decimal where
  digits : Nat
  exponent : Int
deriving DecidableEq, Repr

namespace Binary64

/-- The reals that round to a positive finite number, in quarters of its significand's unit. -/
structure Basin where
  low : Nat
  high : Nat
  /-- Whether the two ends round to the number too. -/
  closed : Bool

/-- The basin of a number reaches halfway to both neighbours; below a power of two they are closer.
-/
def basin (x : Binary64) : Basin where
  low := 4 * x.significand - (if x.fractionField = 0 && 1 < x.exponentField then 1 else 2)
  high := 4 * x.significand + 2
  closed := x.significand % 2 == 0

/-- The point nearest to a number on the grid of a power of ten, if a neighbour on it reads back. -/
def onGrid? (tie : Tie) (x : Binary64) (exponent : Int) : Option Decimal :=
  let (up, down) := powerRatio 2 (x.scale - 2)
  let (tenUp, tenDown) := powerRatio 10 exponent
  -- Grid points and quarters are compared over the common denominator of both units.
  let step := tenUp * down
  let quarter := up * tenDown
  let middle := 4 * x.significand * quarter
  let inside (point : Nat) : Bool :=
    let low := x.basin.low * quarter
    let high := x.basin.high * quarter
    if x.basin.closed then low ≤ point * step && point * step ≤ high
    else low < point * step && point * step < high
  let below := middle / step
  let above := below + 1
  match inside below, inside above with
  | false, false => none
  | true, false => some ⟨below, exponent⟩
  | false, true => some ⟨above, exponent⟩
  | true, true =>
    let twice := 2 * (middle % step)
    if twice < step then some ⟨below, exponent⟩
    else if step < twice then some ⟨above, exponent⟩
    else match tie with
      | .upward => some ⟨above, exponent⟩
      | .toEven => some ⟨below + below % 2, exponent⟩

/-- The first hit among grids from a coarse one downward. -/
def shortestFrom (tie : Tie) (x : Binary64) : Nat → Int → Decimal
  | 0, _ => ⟨0, 0⟩
  | grids + 1, exponent =>
    (x.onGrid? tie exponent).getD (shortestFrom tie x grids (exponent - 1))

/-- Drops the zeros at the end of a natural number's digits, at most a given number of them. -/
def dropZeros : Nat → Decimal → Decimal
  | 0, decimal => decimal
  | bound + 1, decimal =>
    if decimal.digits % 10 = 0 && decimal.digits != 0 then
      dropZeros bound ⟨decimal.digits / 10, decimal.exponent + 1⟩
    else decimal

/-- A power of ten above a positive number, from its leading bit by a rational near log 2. -/
def coarseExponent (x : Binary64) : Int :=
  ((x.significand.log2 : Int) + x.scale) * 1233 / 4096 + 2

/-- The fewest digits that read back as a positive finite number, and of those the nearest. -/
def shortest (tie : Tie) (x : Binary64) : Decimal :=
  -- Seventeen significant digits always read back, so twenty grids from above the number suffice.
  dropZeros 20 (shortestFrom tie x 20 x.coarseExponent)

end Binary64

end Querent
