import Querent.Proofs.Json.Quantity
import Querent.Proofs.Number.Layout
import Querent.Proofs.Number.Rounding

/-! A finite float that is written in JSON is read as a number. -/

namespace Querent

/-- Each digit behind a number makes it ten times as great at least. -/
theorem pow_mul_le_ofDigitChars (digits : List Char) (start : Nat) :
    10 ^ digits.length * start ≤ Nat.ofDigitChars 10 digits start := by
  -- The digits add what they spell by themselves.
  rw [Nat.ofDigitChars_eq_ofDigitChars_zero]
  exact Nat.le_add_right _ _

/-- A number of digits is below the power of ten with as many zeros. -/
theorem ofDigitChars_lt {digits : List Char} (all : ∀ c ∈ digits, c.isDigit = true) (start : Nat) :
    Nat.ofDigitChars 10 digits start < (start + 1) * 10 ^ digits.length := by
  induction digits generalizing start with
  | nil =>
    rw [Nat.ofDigitChars_nil]
    simp
  | cons digit digits ih =>
    obtain ⟨first, others⟩ := List.forall_mem_cons.mp all
    -- A digit is nine at most.
    have nine : digit.toNat - '0'.toNat ≤ 9 := by
      simp only [Char.isDigit, Bool.and_eq_true, decide_eq_true_eq, ge_iff_le,
    UInt32.le_iff_toNat_le] at first
      have high : digit.toNat ≤ 57 := first.2
      have zero : '0'.toNat = 48 := rfl
      omega
    rw [Nat.ofDigitChars_cons, List.length_cons]
    calc Nat.ofDigitChars 10 digits (10 * start + (digit.toNat - '0'.toNat))
        < (10 * start + (digit.toNat - '0'.toNat) + 1) * 10 ^ digits.length := ih others _
      _ ≤ ((start + 1) * 10) * 10 ^ digits.length := Nat.mul_le_mul_right _ (by omega)
      _ = (start + 1) * 10 ^ (digits.length + 1) := by
          rw [Nat.pow_succ, Nat.mul_assoc, Nat.mul_comm 10]

namespace Gathered

/-- What gathered digits stand for. -/
def value (gathered : Gathered) : ℚ :=
  gathered.word * 10 ^ gathered.power

/-- Digits behind the point are gathered in a word, and none of them counts for more than it is. -/
theorem fraction_bounds (gathered : Gathered) (digits : List Char)
    (small : gathered.word < UInt64.size) :
    (gathered.fraction digits).word < UInt64.size ∧
      (gathered.fraction digits).value ≤
        Nat.ofDigitChars 10 digits gathered.word * 10 ^ (gathered.power - digits.length) := by
  have ten : (10 : ℚ) ≠ 0 := by norm_num
  induction digits generalizing gathered with
  | nil =>
    refine ⟨small, le_of_eq ?_⟩
    rw [fraction, value, List.length_nil, Nat.cast_zero, sub_zero]
    rfl
  | cons digit digits ih =>
    rw [fraction]
    split
    · next fits =>
      -- A digit that fits takes the next place.
      have next : gathered.word * 10 + digitValue digit =
          10 * gathered.word + (digit.toNat - '0'.toNat) := by
        rw [digitValue, Nat.mul_comm]
      obtain ⟨small', less⟩ := ih ⟨gathered.word * 10 + digitValue digit, gathered.power - 1⟩
        (of_decide_eq_true fits)
      refine ⟨small', less.trans (le_of_eq ?_)⟩
      rw [next, Nat.ofDigitChars_cons, List.length_cons]
      congr 2
      push_cast
      ring
    · -- From the first that does not fit on, all are dropped.
      refine ⟨small, ?_⟩
      have places : (10 : ℚ) ^ gathered.power =
          10 ^ (digit :: digits).length * 10 ^ (gathered.power - (digit :: digits).length) := by
        rw [← zpow_natCast, ← zpow_add₀ ten]
        congr 1
        ring
      have less : (10 : ℚ) ^ (digit :: digits).length * gathered.word ≤
          Nat.ofDigitChars 10 (digit :: digits) gathered.word := by
        exact_mod_cast pow_mul_le_ofDigitChars (digit :: digits) gathered.word
      rw [value, places, ← mul_assoc, mul_comm (gathered.word : ℚ)]
      exact mul_le_mul_of_nonneg_right less (by positivity)

end Gathered

namespace Binary64

/-- A magnitude that three roundings keep from the infinities. -/
def ceiling : ℚ :=
  (2 ^ 55 - 14) * 2 ^ (969 : Int)

/-- What two roundings add to a magnitude up to that one leaves it finite for the third. -/
theorem ceiling_mul_lt : ceiling * ((1 + 1 / 2 ^ 53) * (1 + 1 / 2 ^ 53)) < overflow := by
  have unit : (0 : ℚ) < 2 ^ (969 : Int) := by positivity
  have double : (2 : ℚ) ^ (970 : Int) = 2 * 2 ^ (969 : Int) := two_zpow_succ 969
  rw [ceiling, overflow, double]
  generalize (2 : ℚ) ^ (969 : Int) = half at unit ⊢
  linarith

/-- All but the three greatest magnitudes read back from nothing above that one. -/
theorem highAt_le_ceiling {m : Nat} (less : m ≤ 2047 * exponentWeight - 4) :
    highAt m ≤ ceiling := by
  -- The fourth greatest magnitude has 2^53 less four for its significand.
  have last : highAt (2047 * exponentWeight - 4) = ceiling := by
    have significand : significandAt (2047 * exponentWeight - 4) = 2 ^ 53 - 4 := by decide
    have scale : scaleAt (2047 * exponentWeight - 4) = 971 := by decide
    rw [highAt, significand, scale, ceiling]
    congr 1
    norm_num
  rcases Nat.eq_or_lt_of_le less with rfl | lower
  · exact last.le
  · -- A lower basin ends where the last one begins at the latest.
    rw [← last]
    exact (highAt_le_lowAt lower).trans (lowAt_lt_highAt _).le

/-- That magnitude has no more than 309 digits. -/
theorem ceiling_lt_pow : ceiling < 10 ^ 309 := by
  have positive : (0 : ℚ) < ceiling := mul_pos (by norm_num) (by positivity)
  have grown : ceiling ≤ ceiling * ((1 + 1 / 2 ^ 53) * (1 + 1 / 2 ^ 53)) :=
    le_mul_of_one_le_right positive.le (by norm_num)
  have powers : 2 ^ 1024 ≤ 10 ^ 309 := by decide +kernel
  have limit : (2 : ℚ) ^ (1024 : Int) ≤ 10 ^ 309 := by exact_mod_cast powers
  exact ((grown.trans_lt ceiling_mul_lt).trans overflow_lt_pow).trans_le limit

/-- Natural numbers up to ten to the power of 308 are not rounded to infinities. -/
theorem cast_lt_overflow {n : Nat} (small : n ≤ 10 ^ 308) : (n : ℚ) < overflow := by
  have powers : 10 ^ 308 < (2 ^ 54 - 1) * 2 ^ 970 := by decide +kernel
  have limit : overflow = (((2 ^ 54 - 1) * 2 ^ 970 : Nat) : ℚ) := by
    rw [overflow, Nat.cast_mul, Nat.cast_pow 2 970, show (970 : Int) = (970 : Nat) from rfl,
      zpow_natCast]
    congr 1
    norm_num
  rw [limit]
  exact Nat.cast_lt.mpr (Nat.lt_of_le_of_lt small powers)

variable {word places : Nat} (below : (word : ℚ) * 10 ^ places ≤ ceiling)

include below

/-- Behind a word that is not zero there is no place for more than 308 zeros. -/
theorem eq_zero_of_le_ceiling (far : 308 < places) : word = 0 := by
  by_contra some
  have least : (1 : ℚ) ≤ word := by exact_mod_cast Nat.pos_of_ne_zero some
  have beyond : ceiling < word * 10 ^ places := by
    calc ceiling < (10 : ℚ) ^ 309 := ceiling_lt_pow
      _ ≤ 10 ^ places := pow_le_pow_right₀ (by norm_num) far
      _ ≤ word * 10 ^ places := le_mul_of_one_le_left (by positivity) least
  exact absurd below (not_le.mpr beyond)

/-- A word and a power of ten, each of them rounded, have a finite product. -/
theorem times_pow_isFinite (small : word < UInt64.size) (near : places ≤ 308) :
    ((ofNat word).times (ofNat (Nat.pow 10 places))).isFinite = true := by
  have one : (0 : ℚ) ≤ 1 + 1 / 2 ^ 53 := by norm_num
  -- Both factors are natural numbers that are not rounded to infinities.
  have size : UInt64.size ≤ 10 ^ 308 := by decide +kernel
  have word' := cast_lt_overflow (Nat.le_of_lt (Nat.lt_of_lt_of_le small size))
  have scale : Nat.pow 10 places ≤ 10 ^ 308 := by
    rw [Nat.pow_eq]
    gcongr
    decide
  have scale' := cast_lt_overflow scale
  apply times_isFinite
  calc (ofNat word).value * (ofNat (Nat.pow 10 places)).value
      ≤ word * (1 + 1 / 2 ^ 53) * ((Nat.pow 10 places : Nat) * (1 + 1 / 2 ^ 53)) :=
        mul_le_mul (value_ofNat_le word') (value_ofNat_le scale') (value_nonneg _)
          (mul_nonneg (Nat.cast_nonneg word) one)
    _ = word * 10 ^ places * ((1 + 1 / 2 ^ 53) * (1 + 1 / 2 ^ 53)) := by
        rw [Nat.pow_eq, Nat.cast_pow]
        push_cast
        ring
    _ ≤ ceiling * ((1 + 1 / 2 ^ 53) * (1 + 1 / 2 ^ 53)) :=
        mul_le_mul_of_nonneg_right below (mul_nonneg one one)
    _ < overflow := ceiling_mul_lt

end Binary64

namespace Gathered

/-- Gathered digits are a number if they stand for no more than three roundings allow for. -/
theorem isSome_magnitude? {gathered : Gathered} (small : gathered.word < UInt64.size)
    (below : gathered.value ≤ Binary64.ceiling) : gathered.magnitude?.isSome = true := by
  obtain ⟨word, power⟩ := gathered
  unfold magnitude?
  dsimp only at small ⊢
  split
  · next up =>
    obtain ⟨places, rfl⟩ := Int.eq_ofNat_of_zero_le up
    rw [value, zpow_natCast] at below
    dsimp only at below
    split
    · next far =>
      -- So many zeros are behind a zero only, which is a number.
      rw [Binary64.eq_zero_of_le_ceiling below (by omega)]
      decide
    · next near =>
      -- The product of word and power is what may be refused.
      have finite := Binary64.times_pow_isFinite below small (by omega)
      rw [Int.toNat_natCast, if_pos finite]
      rfl
  · -- A negative power makes the word smaller, and nothing is refused.
    rfl

end Gathered

namespace Numeral

/-- The digits of a numeral, gathered. -/
def gathered (numeral : Numeral) : Gathered :=
  (Gathered.whole ⟨0, 0⟩ numeral.whole).fraction (numeral.fraction.getD [])

/-- A numeral with an exponent is read by its gathered digits, alike with a fraction and without. -/
theorem quantity?_of_exponent {numeral : Numeral} {down : Bool} {power : List Char}
    (marked : numeral.exponent = some (down, power)) :
    numeral.quantity? =
      if 2147483648 ≤ digitsValue power then
        if numeral.gathered.word = 0 || down then some (numeral.signed (.ofNat 0)) else none
      else (Gathered.magnitude? ⟨numeral.gathered.word, numeral.gathered.power +
          if down then -(digitsValue power : Int) else digitsValue power⟩).map
        numeral.signed := by
  obtain ⟨negative, digits, fraction, exponent⟩ := numeral
  cases marked
  cases fraction <;> rfl

section

variable {numeral : Numeral} (small : Nat.ofDigitChars 10 numeral.whole 0 < UInt64.size)

include small

/-- If the digits before the point make a word, all digits make one that counts for no more than
the numeral. -/
theorem gathered_bounds : numeral.gathered.word < UInt64.size ∧
    Gathered.value ⟨numeral.gathered.word, numeral.gathered.power + powerOf numeral.exponent⟩ ≤
      numeral.magnitude := by
  -- All digits before the point are gathered, and behind it some may be dropped.
  have whole := Gathered.whole_of_lt 0 small
  obtain ⟨word, less⟩ := Gathered.fraction_bounds ⟨Nat.ofDigitChars 10 numeral.whole 0, 0⟩
    (numeral.fraction.getD []) small
  rw [← whole, ← gathered] at word less
  refine ⟨word, ?_⟩
  have ten : (10 : ℚ) ≠ 0 := by norm_num
  have scaled := mul_le_mul_of_nonneg_right less
    (show (0 : ℚ) ≤ 10 ^ powerOf numeral.exponent by positivity)
  rw [Gathered.value, mul_assoc, mul_assoc, ← zpow_add₀ ten, ← zpow_add₀ ten, whole] at scaled
  rw [Gathered.value, magnitude]
  dsimp only at scaled ⊢
  rw [Nat.ofDigitChars_append]
  refine scaled.trans (le_of_eq ?_)
  congr 2
  ring

/-- A numeral is a number if also its exponent is a half word, and it stands for no more than three
roundings allow for. -/
theorem isSome_quantity? (near : powerOf numeral.exponent < 2147483648)
    (below : numeral.magnitude ≤ Binary64.ceiling) : numeral.quantity?.isSome = true := by
  have whole := Gathered.whole_of_lt 0 small
  obtain ⟨word, less⟩ := gathered_bounds small
  have found : (Gathered.magnitude? ⟨numeral.gathered.word,
      numeral.gathered.power + powerOf numeral.exponent⟩).isSome = true :=
    Gathered.isSome_magnitude? word (less.trans below)
  cases marked : numeral.exponent with
  | none =>
    rw [marked, powerOf, Int.add_zero] at found
    obtain ⟨negative, digits, fraction, exponent⟩ := numeral
    cases marked
    cases fraction with
    | none =>
      -- What is no integer of 64 bits is read as a float.
      have float : (Gathered.magnitude? (Gathered.whole ⟨0, 0⟩ digits)).isSome = true := found
      unfold quantity?
      dsimp only
      repeat' split
      all_goals first | rfl | rwa [Option.isSome_map]
    | some places =>
      unfold quantity?
      dsimp only
      rw [Option.isSome_map]
      exact found
  | some sign =>
    obtain ⟨down, power⟩ := sign
    rw [marked, powerOf, ← digitsValue_eq] at near found
    rw [quantity?_of_exponent marked]
    split
    · -- An exponent out of range is one downward, and leaves nothing.
      cases down with
      | true =>
        rw [if_pos (by simp)]
        rfl
      | false =>
        rw [if_neg Bool.false_ne_true] at near
        omega
    · rw [Option.isSome_map]
      exact found

end

variable (negative : Bool) (digits : List Char)

/-- As many digits stand before the point as are said to. -/
theorem length_whole_pointed (before : Nat) (wholeEnd : Option (List Char))
    (exponent : Option (Bool × List Char)) :
    (pointed negative digits before wholeEnd exponent).whole.length = before := by
  unfold pointed
  split
  · rw [List.length_append, List.length_replicate]
    omega
  · rw [List.length_take]
    omega

/-- No more than sixteen digits stand before the point. -/
theorem length_whole_placed (power : Int) : (placed negative digits power).whole.length ≤ 16 := by
  unfold placed
  split
  · next positional =>
    split
    · exact (by decide : 1 ≤ 16)
    · -- The point is behind the digit of ones.
      have places : -5 ≤ power ∧ power < 16 := by simpa [jsonFloat] using positional
      rw [length_whole_pointed]
      omega
  · rw [length_whole_pointed]
    decide

/-- An exponent is the power that the leading digit stands for. -/
theorem powerOf_placed (power : Int) :
    powerOf (placed negative digits power).exponent ≤ max 0 power := by
  have kept : ∀ before wholeEnd exponent,
      (pointed negative digits before wholeEnd exponent).exponent = exponent := by
    intro before wholeEnd exponent
    unfold pointed
    split <;> rfl
  unfold placed
  split
  · split
    · exact Int.le_max_left 0 power
    · rw [kept]
      exact Int.le_max_left 0 power
  · rw [kept, powerOf, Nat.ofDigitChars_ten_toDigits]
    simp only [decide_eq_true_eq]
    split <;> omega

/-- The digits of every number are laid out by the power of the leading one. -/
theorem exists_placed (x : Binary64) :
    ∃ digits power, ofFloat x = placed x.isNegative digits power := by
  unfold ofFloat
  split
  · exact ⟨_, _, rfl⟩
  · exact ⟨_, _, rfl⟩

/-- The numerals of the three greatest numbers are read, and those of their negatives. -/
theorem isSome_quantity?_of_greatest : ∀ negative : Bool, ∀ less < 3,
    (ofFloat (.ofFields negative (2047 * Binary64.exponentWeight - 1 - less))).quantity?.isSome =
      true := by
  decide +kernel

/-- The numeral of zero is read, with its sign and without. -/
theorem isSome_quantity?_of_zero : ∀ negative : Bool,
    (placed negative ['0'] 0).quantity?.isSome = true := by
  decide +kernel

variable {x : Binary64} (finite : x.isFinite = true)

include finite

/-- The digits of a finite number before the point make a word. -/
theorem whole_lt_size : Nat.ofDigitChars 10 (ofFloat x).whole 0 < UInt64.size := by
  have digits := (ofFloat_wellFormed finite).whole.all
  obtain ⟨given, power, placed⟩ := exists_placed x
  have short : (ofFloat x).whole.length ≤ 16 := by
    rw [placed]
    exact length_whole_placed x.isNegative given power
  calc Nat.ofDigitChars 10 (ofFloat x).whole 0
      < (0 + 1) * 10 ^ (ofFloat x).whole.length := ofDigitChars_lt digits 0
    _ = 10 ^ (ofFloat x).whole.length := by rw [Nat.zero_add, Nat.one_mul]
    _ ≤ 10 ^ 16 := Nat.pow_le_pow_right (by decide) short
    _ < UInt64.size := by decide

/-- The exponent of a number that is not zero stands for no more than the number, or is none. -/
theorem pow_exponent_le (some : x.isZero = false) :
    powerOf (ofFloat x).exponent ≤ 0 ∨
      (10 : ℚ) ^ powerOf (ofFloat x).exponent ≤ (ofFloat x).magnitude := by
  have digits := Binary64.shortest_digits_pos finite some
  rw [magnitude_ofFloat some, ofFloat, if_neg (by simp [some]), Decimal.value]
  generalize x.shortest jsonFloat.tie = decimal at digits ⊢
  have laid := powerOf_placed x.isNegative (Nat.toDigits 10 decimal.digits)
    (decimal.exponent + (Nat.toDigits 10 decimal.digits).length - 1)
  rcases Int.le_total (decimal.exponent + (Nat.toDigits 10 decimal.digits).length - 1) 0 with
    down | up
  · left
    exact laid.trans (max_le le_rfl down)
  · right
    rw [max_eq_right up] at laid
    -- The leading digit has as many digits behind it, and is one at least.
    obtain ⟨more, places⟩ := Nat.exists_eq_add_one_of_ne_zero
      (Nat.pos_iff_ne_zero.mp (Nat.length_toDigits_pos (b := 10) (n := decimal.digits)))
    have least : 10 ^ more ≤ decimal.digits := by
      by_contra less
      rcases Nat.eq_zero_or_pos more with rfl | pos
      · omega
      · have short := (Nat.length_toDigits_le_iff (by decide) pos).mpr (Nat.not_le.mp less)
        omega
    calc (10 : ℚ) ^ _ ≤ 10 ^ (decimal.exponent + (Nat.toDigits 10 decimal.digits).length - 1) :=
          zpow_le_zpow_right₀ (by norm_num) laid
      _ = 10 ^ more * 10 ^ decimal.exponent := by
          rw [places, ← zpow_natCast, ← zpow_add₀ (by norm_num)]
          congr 1
          push_cast
          ring
      _ ≤ decimal.digits * 10 ^ decimal.exponent :=
          mul_le_mul_of_nonneg_right (by exact_mod_cast least) (by positivity)

/-- The numeral of a number up to the limit is read. -/
theorem isSome_quantity?_of_le (some : x.isZero = false)
    (near : (ofFloat x).magnitude ≤ Binary64.ceiling) : (ofFloat x).quantity?.isSome = true := by
  refine isSome_quantity? (whole_lt_size finite) ?_ near
  rcases pow_exponent_le finite some with down | up
  · omega
  · -- A power of ten up to the limit has a small exponent.
    have power := up.trans_lt (near.trans_lt Binary64.ceiling_lt_pow)
    rw [← zpow_natCast, zpow_lt_zpow_iff_right₀ (by norm_num)] at power
    omega

/-- The numeral of every finite number is read. -/
theorem isSome_quantity?_ofFloat : (ofFloat x).quantity?.isSome = true := by
  cases zero : x.isZero with
  | true =>
    rw [ofFloat, if_pos zero]
    exact isSome_quantity?_of_zero x.isNegative
  | false =>
    have bits := (Binary64.isFinite_iff x).mp finite
    by_cases top : 2047 * Binary64.exponentWeight - 4 < x.magnitude
    · -- The numerals of the greatest numbers come too close to the limit, and are tried.
      obtain ⟨less, small, rest⟩ : ∃ less < 3,
          x.magnitude = 2047 * Binary64.exponentWeight - 1 - less :=
        ⟨2047 * Binary64.exponentWeight - 1 - x.magnitude, by omega, by omega⟩
      have same := x.ofFields_eq
      rw [rest] at same
      rw [← same]
      exact isSome_quantity?_of_greatest x.isNegative less small
    · -- The numerals of all others keep far enough from it.
      apply isSome_quantity?_of_le finite zero
      exact (Binary64.readsBack_ofFloat finite zero).bounds.2.trans
        (Binary64.highAt_le_ceiling (Nat.not_lt.mp top))

end Numeral

end Querent
