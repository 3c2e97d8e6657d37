import Querent.Proofs.Number.Basin

/-! The shortest decimal of a binary64 number reads back as that number. -/

namespace Querent

/-- The rational that a decimal stands for. -/
def Decimal.value (decimal : Decimal) : ℚ :=
  decimal.digits * 10 ^ decimal.exponent

namespace Binary64

/-- A power as a ratio has the value of the power. -/
theorem powerRatio_div (base : Nat) (exponent : Int) :
    ((powerRatio base exponent).1 : ℚ) / (powerRatio base exponent).2 = (base : ℚ) ^ exponent := by
  -- One of the two parts is a power to zero, which is one.
  unfold powerRatio
  rcases Int.le_total 0 exponent with up | down
  · obtain ⟨n, rfl⟩ := Int.eq_ofNat_of_zero_le up
    simp
  · obtain ⟨n, down⟩ := Int.eq_ofNat_of_zero_le (Int.neg_nonneg_of_nonpos down)
    obtain rfl : exponent = -(n : Int) := by omega
    simp

/-- Both parts of a power as a ratio are positive. -/
theorem powerRatio_pos (base : Nat) (some : 0 < base) (exponent : Int) :
    0 < (powerRatio base exponent).1 ∧ 0 < (powerRatio base exponent).2 :=
  ⟨Nat.pow_pos some, Nat.pow_pos some⟩

variable (x : Binary64)

/-- The distance of grid points, over the common denominator of grid and quarters. -/
def gridStep (exponent : Int) : Nat :=
  (powerRatio 10 exponent).1 * (powerRatio 2 (x.scale - 2)).2

/-- A quarter of the significand's unit, over the common denominator of grid and quarters. -/
def gridQuarter (exponent : Int) : Nat :=
  (powerRatio 2 (x.scale - 2)).1 * (powerRatio 10 exponent).2

/-- Whether a grid point is in the basin of a number. -/
def inBasin (exponent : Int) (point : Nat) : Bool :=
  if x.basin.closed then
    x.basin.low * x.gridQuarter exponent ≤ point * x.gridStep exponent &&
      point * x.gridStep exponent ≤ x.basin.high * x.gridQuarter exponent
  else
    x.basin.low * x.gridQuarter exponent < point * x.gridStep exponent &&
      point * x.gridStep exponent < x.basin.high * x.gridQuarter exponent

/-- The grid point at or below a number. -/
def gridBelow (exponent : Int) : Nat :=
  4 * x.significand * x.gridQuarter exponent / x.gridStep exponent

/-- What a grid gives, by whether its points below and above a number are in the basin. -/
def ofNeighbours (below above : Bool) (lower upper : Decimal) (both : Option Decimal) :
    Option Decimal :=
  match below, above with
  | false, false => none
  | true, false => some lower
  | false, true => some upper
  | true, true => both

/-- A grid gives a point in the basin, unless the point above the number is outside. -/
theorem onGrid?_cases (tie : Tie) (exponent : Int) :
    (∃ point, x.onGrid? tie exponent = some ⟨point, exponent⟩ ∧ x.inBasin exponent point = true) ∨
      x.onGrid? tie exponent = none ∧ x.inBasin exponent (x.gridBelow exponent + 1) = false := by
  -- Both neighbours are tested, and a tie takes one of two that passed.
  generalize result : x.onGrid? tie exponent = given
  change ofNeighbours (x.inBasin exponent (x.gridBelow exponent))
    (x.inBasin exponent (x.gridBelow exponent + 1)) ⟨x.gridBelow exponent, exponent⟩
    ⟨x.gridBelow exponent + 1, exponent⟩ _ = given at result
  cases below : x.inBasin exponent (x.gridBelow exponent) <;>
    cases above : x.inBasin exponent (x.gridBelow exponent + 1) <;>
    simp only [below, above, ofNeighbours] at result
  · -- Neither point is in the basin, nor the one above in particular.
    exact .inr ⟨result.symm, rfl⟩
  · -- Only the point above is in the basin.
    exact .inl ⟨_, result.symm, above⟩
  · -- Only the point below is in the basin.
    exact .inl ⟨_, result.symm, below⟩
  · -- Both are, and one of them is taken.
    left
    split at result
    · -- The point below is the nearer one.
      exact ⟨_, result.symm, below⟩
    · split at result
      · -- The point above is the nearer one.
        exact ⟨_, result.symm, above⟩
      · cases tie with
        | upward => exact ⟨_, result.symm, above⟩
        | toEven =>
          refine ⟨_, result.symm, ?_⟩
          -- In the middle the even one of the two is taken.
          change x.inBasin exponent (x.gridBelow exponent + x.gridBelow exponent % 2) = true
          rcases Nat.mod_two_eq_zero_or_one (x.gridBelow exponent) with even | odd
          · rwa [even]
          · rwa [odd]

/-- The common denominator of grid and quarters. -/
def gridUnit (exponent : Int) : ℚ :=
  (powerRatio 2 (x.scale - 2)).2 * (powerRatio 10 exponent).2

/-- The common denominator is positive. -/
theorem gridUnit_pos (exponent : Int) : 0 < x.gridUnit exponent := by
  -- A product of two positive denominators is positive.
  have two := (powerRatio_pos 2 (by decide) (x.scale - 2)).2
  have ten := (powerRatio_pos 10 (by decide) exponent).2
  unfold gridUnit
  positivity

/-- What a quarter of the significand's unit comes to. -/
theorem gridQuarter_eq (exponent : Int) :
    (x.gridQuarter exponent : ℚ) = 2 ^ (x.scale - 2) * x.gridUnit exponent := by
  -- The denominator of the power of two cancels out.
  have down := (powerRatio_pos 2 (by decide) (x.scale - 2)).2
  have ratio : _ = (2 : ℚ) ^ (x.scale - 2) := powerRatio_div 2 (x.scale - 2)
  rw [← ratio, gridQuarter, gridUnit]
  push_cast
  field_simp

/-- What the distance of grid points comes to. -/
theorem gridStep_eq (exponent : Int) :
    (x.gridStep exponent : ℚ) = 10 ^ exponent * x.gridUnit exponent := by
  -- The denominator of the power of ten cancels out.
  have down := (powerRatio_pos 10 (by decide) exponent).2
  have ratio : _ = (10 : ℚ) ^ exponent := powerRatio_div 10 exponent
  rw [← ratio, gridStep, gridUnit]
  push_cast
  field_simp

/-- A number of quarters is below a grid point as the rationals are that they stand for. -/
theorem quarters_le_iff (exponent : Int) (quarters point : Nat) :
    quarters * x.gridQuarter exponent ≤ point * x.gridStep exponent ↔
      (quarters : ℚ) * 2 ^ (x.scale - 2) ≤ point * 10 ^ exponent := by
  -- Both sides are over the common denominator, which may go.
  rw [← Nat.cast_le (α := ℚ)]
  push_cast
  rw [gridQuarter_eq, gridStep_eq, ← mul_assoc, ← mul_assoc,
    mul_le_mul_iff_left₀ (x.gridUnit_pos exponent)]

/-- A grid point is below a number of quarters as the rationals are that they stand for. -/
theorem le_quarters_iff (exponent : Int) (quarters point : Nat) :
    point * x.gridStep exponent ≤ quarters * x.gridQuarter exponent ↔
      (point : ℚ) * 10 ^ exponent ≤ quarters * 2 ^ (x.scale - 2) := by
  -- As before, the common denominator may go.
  rw [← Nat.cast_le (α := ℚ)]
  push_cast
  rw [gridQuarter_eq, gridStep_eq, ← mul_assoc, ← mul_assoc,
    mul_le_mul_iff_left₀ (x.gridUnit_pos exponent)]

/-- A grid point is in the basin exactly where the rational it stands for reads back. -/
theorem inBasin_iff {x : Binary64} (some : x.significand ≠ 0) (exponent : Int) (point : Nat) :
    x.inBasin exponent point = true ↔ ReadsBack x.magnitude (point * 10 ^ exponent) := by
  unfold inBasin ReadsBack
  -- The two kinds of basin are compared each with its own comparison.
  rw [basin_closed, ← x.basin_low some, ← x.basin_high]
  simp only [beq_iff_eq, ← not_le]
  split <;> rw [Bool.and_eq_true, decide_eq_true_iff, decide_eq_true_iff, quarters_le_iff,
    le_quarters_iff]

/-- What lies between the ends of a basin reads back. -/
theorem readsBack_of_strict {m : Nat} {q : ℚ} (low : lowAt m < q) (high : q < highAt m) :
    ReadsBack m q := by
  unfold ReadsBack
  -- Whether the ends belong to the basin does not matter strictly between them.
  split
  · exact ⟨low.le, high.le⟩
  · exact ⟨low, high⟩

/-- On a grid finer than half a unit of the significand, the point above a number reads back. -/
theorem inBasin_of_fine {x : Binary64} (some : x.significand ≠ 0) {exponent : Int}
    (fine : (10 : ℚ) ^ exponent < 2 ^ (x.scale - 1)) :
    x.inBasin exponent (x.gridBelow exponent + 1) = true := by
  rw [inBasin_iff some]
  -- The number itself is four quarters for each of its units, between two grid points.
  have unit : (0 : ℚ) < 2 ^ (x.scale - 2) := by positivity
  have double : (2 : ℚ) ^ (x.scale - 1) = 2 * 2 ^ (x.scale - 2) := by
    rw [show x.scale - 1 = x.scale - 2 + 1 by ring, zpow_add_one₀ (by norm_num), mul_comm]
  have below : (x.gridBelow exponent : ℚ) * 10 ^ exponent ≤
      (4 * x.significand : Nat) * 2 ^ (x.scale - 2) := by
    rw [← le_quarters_iff]
    exact Nat.div_mul_le_self _ _
  have above : ((4 * x.significand : Nat) : ℚ) * 2 ^ (x.scale - 2) <
      (x.gridBelow exponent + 1 : Nat) * 10 ^ exponent := by
    rw [← not_le, ← le_quarters_iff, not_le, mul_comm _ (x.gridStep exponent)]
    exact Nat.lt_mul_div_succ _ (Nat.mul_pos (powerRatio_pos 10 (by decide) _).1
      (powerRatio_pos 2 (by decide) _).2)
  push_cast at below above
  refine readsBack_of_strict ?_ ?_
  · -- The basin reaches some way below the number.
    have reach : (1 : ℚ) ≤ reachAt x.magnitude := by
      unfold reachAt
      split <;> norm_num
    rw [lowAt, ← significand_eq, ← scale_eq]
    have lower : (4 * x.significand - reachAt x.magnitude : ℚ) * 2 ^ (x.scale - 2) ≤
        4 * x.significand * 2 ^ (x.scale - 2) :=
      mul_le_mul_of_nonneg_right (by linarith) unit.le
    push_cast
    linarith
  · -- The basin reaches half a unit up, and the next grid point is closer than that.
    rw [highAt, ← significand_eq, ← scale_eq]
    push_cast
    linarith

/-- The rational near the logarithm of two is not far from it: its power of ten is in between. -/
theorem ten_pow_between : 2 ^ (4096 - 1) ≤ 10 ^ 1233 ∧ 10 ^ 1233 ≤ 2 ^ 4096 := by
  decide +kernel

/-- A fraction of an exponent that is good for two powers is good for all powers in its range. -/
theorem ten_zpow_div_le {n d : Nat} (some : 0 < d) (near : 2 ^ (d - 1) ≤ 10 ^ n ∧ 10 ^ n ≤ 2 ^ d)
    {power : Int} (bounded : -d ≤ power) : (10 : ℚ) ^ (power * n / d) ≤ 2 ^ (power + 1) := by
  have lower : (2 : ℚ) ^ (d - 1) ≤ 10 ^ n := by exact_mod_cast near.1
  have upper : (10 : ℚ) ^ n ≤ 2 ^ d := by exact_mod_cast near.2
  -- Both sides are compared by their powers to the denominator, and the sign tells the bound.
  have whole : (10 : ℚ) ^ (n * power) ≤ 2 ^ (d * (power + 1)) := by
    rcases Int.le_total 0 power with up | down
    · -- A power upward is bounded by the upper bound for ten.
      obtain ⟨k, rfl⟩ := Int.eq_ofNat_of_zero_le up
      calc (10 : ℚ) ^ ((n : Int) * k) = (10 ^ n) ^ k := by
            rw [zpow_mul, zpow_natCast, zpow_natCast]
        _ ≤ (2 ^ d) ^ k := pow_le_pow_left₀ (by positivity) upper k
        _ = 2 ^ ((d : Int) * k) := by rw [zpow_mul, zpow_natCast, zpow_natCast]
        _ ≤ 2 ^ ((d : Int) * (k + 1)) := zpow_le_zpow_right₀ (by norm_num) (by nlinarith)
    · -- A power downward is bounded by the lower bound for ten.
      obtain ⟨k, down⟩ := Int.eq_ofNat_of_zero_le (Int.neg_nonneg_of_nonpos down)
      obtain rfl : power = -(k : Int) := by omega
      calc (10 : ℚ) ^ ((n : Int) * -(k : Int)) = ((10 ^ n) ^ k)⁻¹ := by
            rw [zpow_mul, zpow_neg, zpow_natCast, zpow_natCast]
        _ ≤ ((2 ^ (d - 1)) ^ k)⁻¹ :=
            inv_anti₀ (by positivity) (pow_le_pow_left₀ (by positivity) lower k)
        _ = 2 ^ (((d - 1 : Nat) : Int) * -(k : Int)) := by
            rw [zpow_mul, zpow_neg, zpow_natCast, zpow_natCast]
        _ ≤ 2 ^ ((d : Int) * (-(k : Int) + 1)) := by
            refine zpow_le_zpow_right₀ (by norm_num) ?_
            rw [Nat.cast_sub some]
            push_cast
            nlinarith
  -- A positive power keeps the order, so it may be taken on both sides.
  rw [← pow_le_pow_iff_left₀ (by positivity) (by positivity) (Nat.pos_iff_ne_zero.mp some)]
  calc ((10 : ℚ) ^ (power * n / d)) ^ d = 10 ^ (power * n / d * d) := by
        rw [zpow_mul, zpow_natCast]
    _ ≤ 10 ^ (n * power) := by
        refine zpow_le_zpow_right₀ (by norm_num) ?_
        rw [mul_comm (n : Int)]
        exact Int.ediv_mul_le _ (by omega)
    _ ≤ 2 ^ (d * (power + 1)) := whole
    _ = (2 ^ (power + 1)) ^ d := by rw [mul_comm, zpow_mul, zpow_natCast]

/-- The leading bit of a significand stands for 2^52 at most. -/
theorem log2_significand_le : x.significand.log2 ≤ 52 := by
  -- The fraction is below 2^52, and the leading bit of a normal number adds as much once more.
  have bound : x.significand < 2 ^ 53 := by
    unfold significand fractionField exponentWeight
    split <;> omega
  by_cases zero : x.significand = 0
  · rw [zero]
    decide
  · have exact := (Nat.log2_lt zero).mpr bound
    omega

/-- Nineteen grids below the coarse one, grid points are closer than half a unit. -/
theorem ten_zpow_fine : (10 : ℚ) ^ (x.coarseExponent - 19) < 2 ^ (x.scale - 1) := by
  -- Seventeen powers of ten are more than the fifty-four bits from the leading one down.
  have bits := x.log2_significand_le
  have least : -1074 ≤ x.scale := by
    unfold scale
    omega
  have near := ten_zpow_div_le (n := 1233) (d := 4096) (by decide) ten_pow_between
    (show -((4096 : Nat) : Int) ≤ x.significand.log2 + x.scale by omega)
  have expand : (10 : ℚ) ^ (x.coarseExponent - 19) =
      10 ^ ((x.significand.log2 + x.scale) * 1233 / 4096) * 10 ^ (-17 : Int) := by
    rw [← zpow_add₀ (by norm_num), coarseExponent]
    congr 1
    omega
  calc (10 : ℚ) ^ (x.coarseExponent - 19)
      = 10 ^ ((x.significand.log2 + x.scale) * 1233 / 4096) * 10 ^ (-17 : Int) := expand
    _ ≤ 2 ^ (x.significand.log2 + x.scale + 1) * 10 ^ (-17 : Int) :=
        mul_le_mul_of_nonneg_right near (by positivity)
    _ ≤ 2 ^ (x.scale + 53) * 10 ^ (-17 : Int) := by
        refine mul_le_mul_of_nonneg_right ?_ (by positivity)
        exact zpow_le_zpow_right₀ (by norm_num) (by omega)
    _ < 2 ^ (x.scale + 53) * 2 ^ (-54 : Int) := by
        refine mul_lt_mul_of_pos_left ?_ (by positivity)
        norm_num
    _ = 2 ^ (x.scale - 1) := by
        rw [← zpow_add₀ (by norm_num)]
        congr 1
        omega

variable {x}

/-- Grids from a coarse one down to a fine enough one have a point that reads back. -/
theorem shortestFrom_readsBack (tie : Tie) (some : x.significand ≠ 0) (grids : Nat)
    (exponent : Int) (fine : (10 : ℚ) ^ (exponent - grids) < 2 ^ (x.scale - 1)) :
    ReadsBack x.magnitude (shortestFrom tie x (grids + 1) exponent).value := by
  -- The last grid cannot fail, and each one before it leaves the rest to the next.
  induction grids generalizing exponent with
  | zero =>
    rw [Nat.cast_zero, Int.sub_zero] at fine
    rcases x.onGrid?_cases tie exponent with ⟨point, found, inside⟩ | ⟨-, outside⟩
    · -- A point that is found is in the basin.
      rw [shortestFrom, found]
      exact (inBasin_iff some exponent point).mp inside
    · -- On a grid this fine the point above the number is in the basin.
      rw [inBasin_of_fine some fine] at outside
      cases outside
  | succ grids ih =>
    rw [shortestFrom]
    rcases x.onGrid?_cases tie exponent with ⟨point, found, inside⟩ | ⟨none, -⟩
    · -- The first grid with a point settles it.
      rw [found]
      exact (inBasin_iff some exponent point).mp inside
    · -- The next grid is finer by one power of ten.
      rw [none]
      refine ih (exponent - 1) ?_
      rwa [show exponent - 1 - (grids : Int) = exponent - (grids + 1 : Nat) by omega]

/-- Without zeros at its end a decimal stands for the same rational. -/
theorem dropZeros_value (bound : Nat) (decimal : Decimal) :
    (dropZeros bound decimal).value = decimal.value := by
  -- Each zero that goes is a factor of ten that the exponent takes over.
  induction bound generalizing decimal with
  | zero => rfl
  | succ bound ih =>
    rw [dropZeros]
    split
    · next zero =>
      -- The digits end in a zero, so the division leaves no rest.
      have tens : decimal.digits = decimal.digits / 10 * 10 := by
        simp only [Bool.and_eq_true, decide_eq_true_eq] at zero
        omega
      rw [ih, Decimal.value, Decimal.value, zpow_add_one₀ (by norm_num)]
      conv_rhs => rw [tens]
      push_cast
      ring
    · rfl

/-- The shortest decimal of a number that is not zero reads back as that number. -/
theorem shortest_readsBack (tie : Tie) (some : x.significand ≠ 0) :
    ReadsBack x.magnitude (x.shortest tie).value := by
  -- The search begins at a coarse grid, and twenty grids reach a fine one.
  rw [shortest, dropZeros_value]
  exact shortestFrom_readsBack tie some 19 _ x.ten_zpow_fine

end Binary64

end Querent
