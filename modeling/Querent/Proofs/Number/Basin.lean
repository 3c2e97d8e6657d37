import Mathlib.Algebra.Order.Field.Power
import Mathlib.Algebra.Order.Ring.Rat
import Mathlib.Tactic.FieldSimp
import Mathlib.Tactic.Linarith
import Mathlib.Tactic.Ring
import Querent.Number.Shortest

/-! No rational lies in the basins of two binary64 numbers of different magnitude. -/

namespace Querent.Binary64

/-- The bits of a number without its sign. -/
def magnitude (x : Binary64) : Nat :=
  x.bits.toNat % signWeight

/-- The significand that magnitude bits spell. -/
def significandAt (m : Nat) : Nat :=
  if m / exponentWeight = 0 then m % exponentWeight else exponentWeight + m % exponentWeight

/-- The power of two that scales the significand. -/
def scaleAt (m : Nat) : Int :=
  (max 1 (m / exponentWeight) : Nat) - 1075

/-- How far the basin reaches below, in quarters of the significand's unit. -/
def reachAt (m : Nat) : Nat :=
  if m % exponentWeight = 0 ∧ 1 < m / exponentWeight then 1 else 2

/-- The lower end of the basin that belongs to magnitude bits. -/
def lowAt (m : Nat) : ℚ :=
  (4 * significandAt m - reachAt m : ℚ) * 2 ^ (scaleAt m - 2)

/-- The upper end of the basin that belongs to magnitude bits. -/
def highAt (m : Nat) : ℚ :=
  (4 * significandAt m + 2 : ℚ) * 2 ^ (scaleAt m - 2)

/-- A basin has its lower end below its upper end. -/
theorem lowAt_lt_highAt (m : Nat) : lowAt m < highAt m := by
  -- Both ends have the same unit, and the lower one takes something off where the other adds.
  have unit : (0 : ℚ) < 2 ^ (scaleAt m - 2) := by positivity
  refine mul_lt_mul_of_pos_right ?_ unit
  have reach : (0 : ℚ) ≤ reachAt m := Nat.cast_nonneg _
  linarith

/-- The next magnitude has the next significand, or half of it with the next power of two. -/
theorem significandAt_succ (m : Nat) :
    (significandAt (m + 1) = significandAt m + 1 ∧ reachAt (m + 1) = 2 ∧
        scaleAt (m + 1) = scaleAt m) ∨
      (2 * significandAt (m + 1) = significandAt m + 1 ∧ reachAt (m + 1) = 1 ∧
        scaleAt (m + 1) = scaleAt m + 1) := by
  -- The fraction grows by one, unless it is full and carries into the exponent.
  unfold significandAt reachAt scaleAt exponentWeight
  by_cases full : m % 4503599627370496 = 4503599627370495
  · -- A full fraction becomes empty, and the exponent grows.
    have carried : (m + 1) % 4503599627370496 = 0 := by omega
    have next : (m + 1) / 4503599627370496 = m / 4503599627370496 + 1 := by omega
    rw [carried, next, full]
    by_cases first : m / 4503599627370496 = 0
    · -- The least normal numbers have the unit of the subnormal ones.
      left
      simp [first]
    · -- Normal numbers get a unit twice as large.
      right
      have positive : 1 < m / 4503599627370496 + 1 := by omega
      refine ⟨by simp [first], by simp [positive], ?_⟩
      omega
  · -- Below that the exponent stays what it is.
    left
    have grown : (m + 1) % 4503599627370496 = m % 4503599627370496 + 1 := by omega
    have same : (m + 1) / 4503599627370496 = m / 4503599627370496 := by omega
    rw [grown, same]
    refine ⟨by split <;> omega, by simp, rfl⟩

/-- Neighbouring basins meet. -/
theorem highAt_eq_lowAt_succ (m : Nat) : highAt m = lowAt (m + 1) := by
  unfold highAt lowAt
  rcases significandAt_succ m with ⟨next, reach, scale⟩ | ⟨next, reach, scale⟩
  · -- With the same unit, the lower end of the next basin is two quarters below its number.
    rw [next, reach, scale]
    push_cast
    ring
  · -- Half as many units of twice the size make the same number.
    have half : (significandAt m : ℚ) = 2 * significandAt (m + 1) - 1 := by
      rw [eq_sub_iff_add_eq]
      exact_mod_cast next.symm
    rw [half, reach, scale, show scaleAt m + 1 - 2 = scaleAt m - 2 + 1 by ring,
      zpow_add_one₀ (by norm_num)]
    push_cast
    ring

/-- A basin ends where that of a greater magnitude has not begun yet. -/
theorem highAt_le_lowAt {m n : Nat} (less : m < n) : highAt m ≤ lowAt n := by
  -- The basins from one to the other meet one by one.
  induction n, less using Nat.le_induction with
  | base => exact (highAt_eq_lowAt_succ m).le
  | succ n _ ih =>
    rw [← highAt_eq_lowAt_succ n]
    exact ih.trans (lowAt_lt_highAt n).le

/-- The significand is even exactly where the magnitude bits are. -/
theorem significandAt_mod_two (m : Nat) : significandAt m % 2 = m % 2 := by
  -- Only an even number is added to the fraction.
  unfold significandAt exponentWeight
  split <;> omega

/-- Whether a rational reads back as the number that magnitude bits spell. -/
def ReadsBack (m : Nat) (q : ℚ) : Prop :=
  if m % 2 = 0 then lowAt m ≤ q ∧ q ≤ highAt m else lowAt m < q ∧ q < highAt m

/-- What reads back as a number is between the ends of its basin. -/
theorem ReadsBack.bounds {m : Nat} {q : ℚ} (within : ReadsBack m q) :
    lowAt m ≤ q ∧ q ≤ highAt m := by
  -- The ends belong to the basin for even bits only.
  unfold ReadsBack at within
  split at within
  · exact within
  · exact ⟨within.1.le, within.2.le⟩

/-- What reads back as the number of odd magnitude bits is at neither end of its basin. -/
theorem ReadsBack.strict {m : Nat} {q : ℚ} (within : ReadsBack m q) (odd : m % 2 = 1) :
    lowAt m < q ∧ q < highAt m := by
  -- Odd bits leave out both ends.
  rwa [ReadsBack, if_neg (by omega)] at within

/-- A rational reads back as one magnitude at most. -/
theorem ReadsBack.unique {m n : Nat} {q : ℚ} (within : ReadsBack m q) (within' : ReadsBack n q) :
    m = n := by
  -- Of two magnitudes, the lower one would have to end where the higher one begins.
  have ordered : ∀ {m n : Nat}, ReadsBack m q → ReadsBack n q → ¬m < n := by
    intro m n within within' less
    have upper := within.bounds.2
    have lower := within'.bounds.1
    rcases Nat.lt_or_ge (m + 1) n with far | near
    · -- A whole basin lies between them.
      have gap := highAt_le_lowAt far
      rw [highAt_eq_lowAt_succ m] at upper
      have width := lowAt_lt_highAt (m + 1)
      linarith
    · -- Of two neighbours one has odd bits and leaves the common end to the other.
      obtain rfl : n = m + 1 := by omega
      rw [← highAt_eq_lowAt_succ m] at lower
      rcases Nat.mod_two_eq_zero_or_one m with even | odd
      · -- The upper neighbour is odd and does not have its lower end.
        have inside := (within'.strict (by omega)).1
        rw [← highAt_eq_lowAt_succ m] at inside
        linarith
      · -- The lower neighbour is odd and does not have its upper end.
        have inside := (within.strict odd).2
        linarith
  -- Neither is below the other, so they are the same.
  exact Nat.le_antisymm (not_lt.mp (ordered within' within)) (not_lt.mp (ordered within within'))

/-- What reads back as a number that is not zero is positive. -/
theorem ReadsBack.pos {m : Nat} {q : ℚ} (within : ReadsBack m q) (some : significandAt m ≠ 0) :
    0 < q := by
  -- The basin reaches two quarters down at most, and a significand has four.
  have unit : (0 : ℚ) < 2 ^ (scaleAt m - 2) := by positivity
  have least : (1 : ℚ) ≤ significandAt m := by exact_mod_cast Nat.pos_of_ne_zero some
  have reach : (reachAt m : ℚ) ≤ 2 := by
    unfold reachAt
    split <;> norm_num
  have low : 0 < lowAt m := mul_pos (by linarith) unit
  exact low.trans_le within.bounds.1

variable (x : Binary64)

/-- The exponent is the upper part of the magnitude. -/
theorem exponentField_eq : x.exponentField = x.magnitude / exponentWeight := by
  -- Taking the sign bit off leaves the bits below it as they are.
  unfold exponentField magnitude exponentWeight signWeight
  omega

/-- The fraction is the lower part of the magnitude. -/
theorem fractionField_eq : x.fractionField = x.magnitude % exponentWeight := by
  -- The same holds of the lowest bits.
  unfold fractionField magnitude exponentWeight signWeight
  omega

/-- The significand is told by the magnitude. -/
theorem significand_eq : x.significand = significandAt x.magnitude := by
  rw [significand, significandAt, exponentField_eq, fractionField_eq]

/-- The unit of the significand is told by the magnitude. -/
theorem scale_eq : x.scale = scaleAt x.magnitude := by
  rw [scale, scaleAt, exponentField_eq]

/-- Sign and magnitude together are the number. -/
theorem eq_of_sign_magnitude {x y : Binary64} (sign : x.isNegative = y.isNegative)
    (same : x.magnitude = y.magnitude) : x = y := by
  -- The sign is the one bit that the magnitude leaves out.
  have boundX := x.bits.toNat_lt
  have boundY := y.bits.toNat_lt
  have signs : x.bits.toNat / signWeight = 1 ↔ y.bits.toNat / signWeight = 1 := by
    simpa [isNegative] using congrArg (· = true) sign
  have bits : x.bits = y.bits := by
    apply UInt64.toNat_inj.mp
    unfold magnitude at same
    unfold signWeight at same signs
    omega
  cases x
  cases y
  simpa using bits

/-- The lower end of the basin of a number that is not zero. -/
theorem basin_low (some : x.significand ≠ 0) :
    (x.basin.low : ℚ) * 2 ^ (x.scale - 2) = lowAt x.magnitude := by
  -- A significand of one at least leaves room for the whole reach.
  have reach : (if x.fractionField = 0 && decide (1 < x.exponentField) then 1 else 2) =
      reachAt x.magnitude := by
    rw [reachAt, exponentField_eq, fractionField_eq]
    simp
  have room : reachAt x.magnitude ≤ 4 * x.significand := by
    unfold reachAt
    split <;> omega
  rw [lowAt, scale_eq, ← significand_eq, basin, reach, Nat.cast_sub room]
  push_cast
  rfl

/-- The upper end of the basin of a number. -/
theorem basin_high : (x.basin.high : ℚ) * 2 ^ (x.scale - 2) = highAt x.magnitude := by
  -- Both are four significands and two quarters, in one unit.
  rw [highAt, scale_eq, ← significand_eq, basin]
  push_cast
  rfl

/-- A basin holds its ends where the magnitude bits are even. -/
theorem basin_closed : x.basin.closed = (x.magnitude % 2 == 0) := by
  -- Four times anything is even, so the significand decides.
  rw [basin, significand_eq, significandAt_mod_two]

end Querent.Binary64
