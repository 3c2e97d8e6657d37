import Querent.Proofs.Number.Shortest

/-! Rounding to a binary64 number: what stays below the greatest number is rounded to a finite one.
-/

namespace Querent

namespace Binary64

/-- The next power of two is twice as much. -/
theorem two_zpow_succ (power : Int) : (2 : ℚ) ^ (power + 1) = 2 * 2 ^ power := by
  rw [zpow_add_one₀ (by norm_num), mul_comm]

/-- The least rational that is rounded to an infinity: half a unit above the greatest number. -/
def overflow : ℚ :=
  (2 ^ 54 - 1) * 2 ^ (970 : Int)

/-- The limit is below the next power of two. -/
theorem overflow_lt_pow : overflow < 2 ^ (1024 : Int) := by
  rw [overflow, show (1024 : Int) = 54 + 970 by norm_num, zpow_add₀ (by norm_num)]
  refine mul_lt_mul_of_pos_right ?_ (by positivity)
  norm_num

/-- The magnitude of a finite number. -/
def value (x : Binary64) : ℚ :=
  x.significand * 2 ^ x.scale

/-- A magnitude is no negative number. -/
theorem value_nonneg (x : Binary64) : 0 ≤ x.value := by
  unfold value
  positivity

/-- The denominator of a magnitude is positive. -/
theorem ratio_pos (x : Binary64) : 0 < x.ratio.2 :=
  (powerRatio_pos 2 (by decide) x.scale).2

/-- The ratio of a number comes to its magnitude. -/
theorem ratio_div (x : Binary64) : (x.ratio.1 : ℚ) / x.ratio.2 = x.value := by
  have unit : _ = (2 : ℚ) ^ x.scale := powerRatio_div 2 x.scale
  show ((x.significand * (powerRatio 2 x.scale).1 : Nat) : ℚ) / (powerRatio 2 x.scale).2 = x.value
  rw [Nat.cast_mul, mul_div_assoc, unit, value]

/-- The magnitude of a number is told by its magnitude bits. -/
theorem value_eq (x : Binary64) :
    x.value = significandAt x.magnitude * 2 ^ scaleAt x.magnitude := by
  rw [value, significand_eq, scale_eq]

/-- A pattern has the magnitude bits that it is made of. -/
theorem magnitude_ofFields (negative : Bool) {m : Nat} (bits : m < signWeight) :
    (ofFields negative m).magnitude = m := by
  -- The sign bit is above them.
  unfold magnitude ofFields signWeight at *
  rw [UInt64.toNat_ofNat']
  split <;> omega

/-- Sign and magnitude bits make up a number. -/
theorem ofFields_eq (x : Binary64) : ofFields x.isNegative x.magnitude = x := by
  -- The sign bit is the highest one, and the magnitude bits are all others.
  have bound := x.bits.toNat_lt
  have bits : (if x.isNegative = true then signWeight else 0) + x.magnitude = x.bits.toNat := by
    unfold isNegative magnitude signWeight
    simp only [beq_iff_eq]
    split <;> omega
  rw [ofFields, bits, UInt64.ofNat_toNat]

/-- A significand of fifty-three places, or the number above all of them, is added to the bits of
its unit. -/
theorem value_of_bits {field units : Nat} (full : 2 ^ 52 ≤ units) (places : units ≤ 2 ^ 53) :
    (significandAt (field * exponentWeight + units) : ℚ) *
      2 ^ scaleAt (field * exponentWeight + units) = units * 2 ^ ((field : Int) - 1074) := by
  unfold significandAt scaleAt exponentWeight
  rcases Nat.lt_or_eq_of_le places with within | carried
  · -- The leading bit carries into the exponent, which counts from one below.
    have exponent : (field * 4503599627370496 + units) / 4503599627370496 = field + 1 := by omega
    have fraction : 4503599627370496 + (field * 4503599627370496 + units) % 4503599627370496 =
        units := by omega
    rw [exponent, if_neg (Nat.succ_ne_zero field), fraction]
    congr 2
    omega
  · -- The number above all places is half as many units of twice the size.
    have exponent : (field * 4503599627370496 + units) / 4503599627370496 = field + 2 := by omega
    have fraction : (field * 4503599627370496 + units) % 4503599627370496 = 0 := by omega
    have scale : (max 1 (field + 2) : Nat) - (1075 : Int) = 1 + (field - 1074) := by omega
    rw [exponent, if_neg (Nat.succ_ne_zero _), fraction, scale, zpow_add₀ (by norm_num), carried]
    push_cast
    ring

/-- A number is finite as long as its magnitude bits have not reached those of the infinities. -/
theorem isFinite_iff (x : Binary64) : x.isFinite = true ↔ x.magnitude < 2047 * exponentWeight := by
  -- The exponent is the magnitude, counted in units of its lowest bit.
  rw [isFinite, decide_eq_true_iff, exponentField_eq]
  unfold exponentWeight
  omega

/-- Rounding a ratio to an integer moves it by half at most. -/
theorem roundEven_near (num : Nat) {den : Nat} (some : 0 < den) :
    (roundEven num den : ℚ) ≤ num / den + 1 / 2 ∧ (num / den : ℚ) ≤ roundEven num den + 1 / 2 := by
  have exact := Nat.div_add_mod num den
  have rest := Nat.mod_lt num some
  -- The rest of the division decides which of the two integers around the ratio is taken.
  have bounds : 2 * (roundEven num den * den) ≤ 2 * num + den ∧
      2 * num ≤ 2 * (roundEven num den * den) + den := by
    rw [Nat.mul_comm den] at exact
    unfold roundEven
    dsimp only
    split
    · omega
    · split
      · rw [Nat.add_mul]
        omega
      · -- In the middle either integer will do.
        rcases Nat.mod_two_eq_zero_or_one (num / den) with even | odd
        · rw [even, Nat.add_zero]
          omega
        · rw [odd, Nat.add_mul]
          omega
  obtain ⟨above, below⟩ := bounds
  have den' : (0 : ℚ) < den := by exact_mod_cast some
  have above' : 2 * ((roundEven num den : ℚ) * den) ≤ 2 * num + den := by exact_mod_cast above
  have below' : 2 * (num : ℚ) ≤ 2 * (roundEven num den * den) + den := by exact_mod_cast below
  constructor
  · rw [← sub_le_iff_le_add, le_div_iff₀ den']
    linarith
  · rw [div_le_iff₀ den']
    linarith

/-- The power of two that the leading bit of a ratio stands for. -/
def leadingPower (num den : Nat) : Int :=
  let estimate : Int := (num.log2 : Int) - den.log2
  let (up, down) := powerRatio 2 estimate
  if num * down < den * up then estimate - 1 else estimate

/-- A ratio in units of a power of two, as an integer. -/
def inUnits (num den : Nat) (power : Int) : Nat :=
  roundEven (num * (powerRatio 2 power).2) (den * (powerRatio 2 power).1)

/-- The power of two that is the unit of a ratio once it is rounded. -/
def unitPower (num den : Nat) : Int :=
  max (leadingPower num den - 52) (-1074)

/-- The magnitude bits that a ratio is rounded to. -/
def roundedBits (num den : Nat) : Nat :=
  (unitPower num den + 1074).toNat * exponentWeight + inUnits num den (unitPower num den)

/-- A ratio is rounded to its magnitude bits, unless these reach those of the infinities. -/
theorem ofRatio_eq (negative : Bool) {num : Nat} (some : num ≠ 0) (den : Nat) :
    ofRatio negative num den =
      if 2047 * exponentWeight ≤ roundedBits num den then infinity negative
      else ofFields negative (roundedBits num den) := by
  rw [ofRatio, if_neg some]
  rfl

variable {num den : Nat}

/-- A positive number is between the power of its leading bit and the next one. -/
theorem log2_bounds {n : Nat} (some : 0 < n) :
    (2 : ℚ) ^ n.log2 ≤ n ∧ (n : ℚ) < 2 ^ (n.log2 + 1) := by
  constructor
  · exact_mod_cast Nat.log2_self_le (Nat.pos_iff_ne_zero.mp some)
  · exact_mod_cast Nat.lt_log2_self

/-- A ratio is compared with a power of two by the products across. -/
theorem ratio_lt_iff (num : Nat) (some : 0 < den) (power : Int) :
    num * (powerRatio 2 power).2 < den * (powerRatio 2 power).1 ↔ (num / den : ℚ) < 2 ^ power := by
  have den' : (0 : ℚ) < den := by exact_mod_cast some
  have down : (0 : ℚ) < (powerRatio 2 power).2 := by
    exact_mod_cast (powerRatio_pos 2 (by decide) power).2
  have ratio : _ = (2 : ℚ) ^ power := powerRatio_div 2 power
  rw [← ratio, div_lt_div_iff₀ den' down, mul_comm _ (den : ℚ), ← Nat.cast_lt (α := ℚ)]
  push_cast
  rfl

/-- A positive ratio is between the power of its leading bit and the next one. -/
theorem leadingPower_bounds (some : 0 < num) (some' : 0 < den) :
    (2 : ℚ) ^ leadingPower num den ≤ num / den ∧
      (num / den : ℚ) < 2 ^ (leadingPower num den + 1) := by
  obtain ⟨low, high⟩ := log2_bounds some
  obtain ⟨low', high'⟩ := log2_bounds some'
  have den' : (0 : ℚ) < den := by exact_mod_cast some'
  have two : (2 : ℚ) ≠ 0 := by norm_num
  -- The leading bits of numerator and denominator leave two places for that of the quotient.
  have lower : (2 : ℚ) ^ ((num.log2 : Int) - den.log2 - 1) ≤ num / den := by
    rw [le_div_iff₀ den']
    calc (2 : ℚ) ^ ((num.log2 : Int) - den.log2 - 1) * den
        ≤ 2 ^ ((num.log2 : Int) - den.log2 - 1) * 2 ^ (den.log2 + 1) :=
          mul_le_mul_of_nonneg_left high'.le (by positivity)
      _ = 2 ^ num.log2 := by
          rw [← zpow_natCast, ← zpow_natCast, ← zpow_add₀ two]
          congr 1
          push_cast
          ring
      _ ≤ num := low
  have upper : (num / den : ℚ) < 2 ^ ((num.log2 : Int) - den.log2 + 1) := by
    rw [div_lt_iff₀ den']
    calc (num : ℚ) < 2 ^ (num.log2 + 1) := high
      _ = 2 ^ ((num.log2 : Int) - den.log2 + 1) * 2 ^ den.log2 := by
          rw [← zpow_natCast, ← zpow_natCast, ← zpow_add₀ two]
          congr 1
          push_cast
          ring
      _ ≤ 2 ^ ((num.log2 : Int) - den.log2 + 1) * den :=
          mul_le_mul_of_nonneg_left low' (by positivity)
  -- The upper place is taken unless the quotient is below its power.
  have compared := ratio_lt_iff num some' ((num.log2 : Int) - den.log2)
  unfold leadingPower
  dsimp only
  split
  · next less =>
    rw [sub_add_cancel]
    exact ⟨lower, compared.mp less⟩
  · next more => exact ⟨not_lt.mp (mt compared.mpr more), upper⟩

/-- A ratio in units of a power of two is not far from the integer that it is rounded to. -/
theorem inUnits_near (num : Nat) (some : 0 < den) (power : Int) :
    (inUnits num den power : ℚ) * 2 ^ power ≤ num / den + 2 ^ power / 2 ∧
      (num / den : ℚ) ≤ inUnits num den power * 2 ^ power + 2 ^ power / 2 := by
  obtain ⟨up, down⟩ := powerRatio_pos 2 (by decide) power
  have unit : (0 : ℚ) < 2 ^ power := by positivity
  have ratio : _ = (2 : ℚ) ^ power := powerRatio_div 2 power
  obtain ⟨above, below⟩ := roundEven_near (num * (powerRatio 2 power).2) (Nat.mul_pos some up)
  -- In terms of the unit, the ratio is what the integer is near to.
  have scaled : ((num * (powerRatio 2 power).2 : Nat) : ℚ) / (den * (powerRatio 2 power).1 : Nat) =
      num / den / 2 ^ power := by
    rw [← ratio]
    push_cast
    field_simp
  rw [scaled] at above below
  constructor
  · have stretched := mul_le_mul_of_nonneg_right above unit.le
    rw [add_mul, div_mul_cancel₀ _ unit.ne'] at stretched
    rw [inUnits]
    linarith
  · have stretched := mul_le_mul_of_nonneg_right below unit.le
    rw [add_mul, div_mul_cancel₀ _ unit.ne'] at stretched
    rw [inUnits]
    linarith

section

variable (some : 0 < num) (some' : 0 < den)

include some some'

/-- A ratio takes at most fifty-three places in its unit, and the last one if all are ones. -/
theorem inUnits_le : inUnits num den (unitPower num den) ≤ 2 ^ 53 := by
  have unit : (0 : ℚ) < 2 ^ unitPower num den := by positivity
  have near := (inUnits_near num some' (unitPower num den)).1
  have leading := (leadingPower_bounds some some').2
  have places : (2 : ℚ) ^ (leadingPower num den + 1) ≤ 2 ^ 53 * 2 ^ unitPower num den := by
    rw [← zpow_natCast, ← zpow_add₀ (by norm_num)]
    refine zpow_le_zpow_right₀ (by norm_num) ?_
    unfold unitPower
    push_cast
    omega
  -- The ratio is below 2^53 units, and rounding adds half a unit at most.
  have less : (inUnits num den (unitPower num den) : ℚ) < 2 ^ 53 + 1 := by
    rw [← mul_lt_mul_iff_left₀ unit]
    linarith
  exact Nat.le_of_lt_succ (by exact_mod_cast less)

/-- What is not rounded to an infinity has no bit above the place of 2^1023. -/
theorem leadingPower_le (below : (num / den : ℚ) < overflow) : leadingPower num den ≤ 1023 := by
  have leading := (leadingPower_bounds some some').1
  have less : (2 : ℚ) ^ leadingPower num den < 2 ^ (1024 : Int) :=
    (leading.trans_lt below).trans overflow_lt_pow
  have := (zpow_lt_zpow_iff_right₀ (by norm_num : (1 : ℚ) < 2)).mp less
  omega

/-- Below half a unit above the greatest number, the bits do not reach those of the infinities. -/
theorem roundedBits_lt (below : (num / den : ℚ) < overflow) :
    roundedBits num den < 2047 * exponentWeight := by
  have leading := leadingPower_le some some' below
  have places := inUnits_le some some'
  unfold roundedBits exponentWeight
  by_cases top : leadingPower num den = 1023
  · -- With the greatest unit there is room for one bit less than 2^53.
    have unit : unitPower num den = 971 := by
      unfold unitPower
      omega
    have near := (inUnits_near num some' (unitPower num den)).1
    rw [unit] at near places ⊢
    have double : (2 : ℚ) ^ (971 : Int) = 2 * 2 ^ (970 : Int) := two_zpow_succ 970
    have positive : (0 : ℚ) < 2 ^ (971 : Int) := by positivity
    have less : (inUnits num den 971 : ℚ) < 2 ^ 53 := by
      rw [← mul_lt_mul_iff_left₀ positive]
      unfold overflow at below
      rw [double] at near ⊢
      generalize (2 : ℚ) ^ (970 : Int) = half at near below ⊢
      linarith
    have less : inUnits num den 971 < 2 ^ 53 := by exact_mod_cast less
    omega
  · -- With a smaller unit there is room for all of 2^53.
    have unit : unitPower num den ≤ 970 := by
      unfold unitPower
      omega
    omega

/-- Below half a unit above the greatest number, a ratio is rounded to a finite number. -/
theorem ofRatio_eq_ofFields (negative : Bool) (below : (num / den : ℚ) < overflow) :
    ofRatio negative num den = ofFields negative (roundedBits num den) := by
  have bits := roundedBits_lt some some' below
  rw [ofRatio_eq negative (Nat.pos_iff_ne_zero.mp some), if_neg (Nat.not_le.mpr bits)]

section

variable (normal : 1 ≤ (num / den : ℚ))

include normal

/-- From one on, the unit is fifty-two places below the leading bit. -/
theorem unitPower_of_normal : unitPower num den = leadingPower num den - 52 := by
  -- The leading bit stands for one at least.
  have high := (leadingPower_bounds some some').2
  have less : (2 : ℚ) ^ (0 : Int) < 2 ^ (leadingPower num den + 1) := by
    rw [zpow_zero]
    exact normal.trans_lt high
  have leading := (zpow_lt_zpow_iff_right₀ (by norm_num : (1 : ℚ) < 2)).mp less
  unfold unitPower
  omega

/-- The leading bit of a ratio from one on is that many units. -/
theorem zpow_leadingPower :
    (2 : ℚ) ^ leadingPower num den = 2 ^ 52 * 2 ^ unitPower num den := by
  rw [unitPower_of_normal some some' normal, ← zpow_natCast, ← zpow_add₀ (by norm_num)]
  congr 1
  push_cast
  ring

/-- From one on, the leading one of fifty-three places is taken. -/
theorem le_inUnits : 2 ^ 52 ≤ inUnits num den (unitPower num den) := by
  have unit : (0 : ℚ) < 2 ^ unitPower num den := by positivity
  have near := (inUnits_near num some' (unitPower num den)).2
  have leading := (leadingPower_bounds some some').1
  rw [zpow_leadingPower some some' normal] at leading
  -- The ratio is 2^52 units at least, and rounding takes half a unit at most.
  have more : (2 : ℚ) ^ 52 < inUnits num den (unitPower num den) + 1 := by
    rw [← mul_lt_mul_iff_left₀ unit]
    linarith
  exact Nat.le_of_lt_succ (by exact_mod_cast more)

/-- From one on and below half a unit above the greatest number, a ratio is rounded to a number that
is greater by one part in 2^53 at most. -/
theorem value_ofRatio_le (negative : Bool) (below : (num / den : ℚ) < overflow) :
    (ofRatio negative num den).value ≤ num / den * (1 + 1 / 2 ^ 53) := by
  have bits := roundedBits_lt some some' below
  -- With all places taken, the number is the integer that the ratio is rounded to, in its unit.
  have value : (ofRatio negative num den).value =
      inUnits num den (unitPower num den) * 2 ^ unitPower num den := by
    have room : roundedBits num den < signWeight := Nat.lt_trans bits (by decide)
    have field : (((unitPower num den + 1074).toNat : Nat) : Int) - 1074 = unitPower num den := by
      unfold unitPower
      omega
    rw [ofRatio_eq_ofFields some some' negative below, value_eq, magnitude_ofFields negative room,
      roundedBits, value_of_bits (le_inUnits some some' normal) (inUnits_le some some'), field]
  -- It is half a unit off at most, and the ratio is 2^52 units at least.
  have near := (inUnits_near num some' (unitPower num den)).1
  have leading := (leadingPower_bounds some some').1
  rw [zpow_leadingPower some some' normal] at leading
  rw [value]
  linarith

end

end

/-- A natural number below the limit is rounded to one that is greater by one part in 2^53 at most.
-/
theorem value_ofNat_le {n : Nat} (below : (n : ℚ) < overflow) :
    (ofNat n).value ≤ n * (1 + 1 / 2 ^ 53) := by
  rcases Nat.eq_zero_or_pos n with rfl | pos
  · -- Zero is exact.
    have zero : (ofNat 0).significand = 0 := by decide
    rw [value, zero]
    norm_num
  · have least : (1 : ℚ) ≤ n := by exact_mod_cast pos
    have rounded := value_ofRatio_le pos Nat.one_pos (by simpa using least) false
      (by simpa using below)
    rw [Nat.cast_one, div_one] at rounded
    exact rounded

/-- A product is finite if it is so before it is rounded. -/
theorem times_isFinite {x y : Binary64} (below : x.value * y.value < overflow) :
    (x.times y).isFinite = true := by
  have down := Nat.mul_pos x.ratio_pos y.ratio_pos
  rw [isFinite_iff, times]
  rcases Nat.eq_zero_or_pos (x.ratio.1 * y.ratio.1) with none | some
  · -- A product that is zero has no bit but its sign.
    rw [none, ofRatio, if_pos rfl, magnitude_ofFields _ (by decide)]
    decide
  · have product : ((x.ratio.1 * y.ratio.1 : Nat) : ℚ) / (x.ratio.2 * y.ratio.2 : Nat) =
        x.value * y.value := by
      rw [← ratio_div, ← ratio_div]
      push_cast
      rw [div_mul_div_comm]
    rw [← product] at below
    have bits := roundedBits_lt some down below
    rw [ofRatio_eq_ofFields some down _ below, magnitude_ofFields _ (Nat.lt_trans bits (by decide))]
    exact bits

end Binary64

end Querent
