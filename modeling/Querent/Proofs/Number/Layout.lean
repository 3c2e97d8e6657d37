import Querent.Number.Layout
import Querent.Proofs.Json.Numeral
import Querent.Proofs.Number.Shortest

/-! The JSON text of a binary64 number is a numeral, and no two finite numbers have the same one. -/

namespace Querent

namespace Numeral

/-- The power of ten that an exponent spells. -/
def powerOf : Option (Bool × List Char) → Int
  | none => 0
  | some (negative, digits) =>
    let power := Nat.ofDigitChars 10 digits 0
    if negative then -power else power

/-- The magnitude that a numeral stands for. -/
def magnitude (numeral : Numeral) : ℚ :=
  let fraction := numeral.fraction.getD []
  Nat.ofDigitChars 10 (numeral.whole ++ fraction) 0 *
    10 ^ (powerOf numeral.exponent - fraction.length)

/-- A sign on digits with a point behind the leading ones. -/
def pointed (negative : Bool) (digits : List Char) (before : Nat) (wholeEnd : Option (List Char))
    (exponent : Option (Bool × List Char)) : Numeral :=
  if digits.length ≤ before then
    ⟨negative, digits ++ List.replicate (before - digits.length) '0', wholeEnd, exponent⟩
  else ⟨negative, digits.take before, some (digits.drop before), exponent⟩

/-- A sign on digits whose leading one stands for a given power of ten, as JSON lays them out. -/
def placed (negative : Bool) (digits : List Char) (power : Int) : Numeral :=
  if jsonFloat.positional power then
    if power < 0 then
      ⟨negative, ['0'], some (List.replicate (-power - 1).toNat '0' ++ digits), none⟩
    else pointed negative digits (power + 1).toNat (some ['0']) none
  else pointed negative digits 1 none (some (power < 0, Nat.toDigits 10 power.natAbs))

/-- The numeral of a finite binary64 number. -/
def ofFloat (x : Binary64) : Numeral :=
  if x.isZero then placed x.isNegative ['0'] 0
  else
    let decimal := x.shortest jsonFloat.tie
    let digits := Nat.toDigits 10 decimal.digits
    placed x.isNegative digits (decimal.exponent + digits.length - 1)

variable (negative : Bool) (digits : List Char)

/-- A point between digits is laid out as the numeral with that point. -/
theorem print_pointed (before : Nat) (wholeEnd : Option (List Char))
    (exponent : Option (Bool × List Char)) :
    (pointed negative digits before wholeEnd exponent).print =
      (if negative then ['-'] else []) ++
        (Querent.pointed digits before (String.ofList (printFraction wholeEnd))).toList ++
          printExponent exponent := by
  -- Either zeros fill up to the point, or the digits are cut at it.
  unfold pointed Querent.pointed
  split <;> simp [print, printFraction, zeros]

/-- The layout of JSON spells the numeral. -/
theorem print_placed (power : Int) :
    (placed negative digits power).print =
      (if negative then ['-'] else []) ++ (jsonFloat.place digits power).toList := by
  unfold placed FloatLayout.place
  split
  · -- Without an exponent the point is behind zeros, or among the digits.
    split
    · simp [print, printFraction, printExponent, zeros]
    · rw [print_pointed, printExponent, List.append_nil]
      rfl
  · -- With an exponent the point is behind the first digit.
    rw [print_pointed]
    by_cases down : power < 0 <;> simp [printFraction, printExponent, down]

/-- The text of a finite number is its numeral. -/
theorem print_ofFloat {x : Binary64} (finite : x.isFinite = true) :
    (ofFloat x).print = (jsonFloat.text x).toList := by
  -- Finite numbers have an exponent field below that of the others.
  have number : x.isNaN = false := by
    simp only [Binary64.isFinite, decide_eq_true_eq] at finite
    simp only [Binary64.isNaN, Bool.and_eq_false_iff, beq_eq_false_iff_ne]
    left
    omega
  -- Zero has a text of its own, and all others are laid out from their digits.
  unfold ofFloat FloatLayout.text
  split <;> cases sign : x.isNegative <;> simp_all [print_placed]

/-- Zeros behind digits scale what they spell. -/
theorem ofDigitChars_zeros (count : Nat) :
    Nat.ofDigitChars 10 (digits ++ List.replicate count '0') 0 =
      Nat.ofDigitChars 10 digits 0 * 10 ^ count := by
  -- A zero behind a digit counts as a factor of ten.
  rw [Nat.ofDigitChars_append, Nat.ofDigitChars_replicate_zero, Nat.mul_comm]

/-- Wherever the point is put, digits keep what they spell, scaled by where the point is. -/
theorem magnitude_pointed (before : Nat) {wholeEnd : Option (List Char)}
    (zeroEnd : wholeEnd = none ∨ wholeEnd = some ['0']) (exponent : Option (Bool × List Char)) :
    (pointed negative digits before wholeEnd exponent).magnitude =
      Nat.ofDigitChars 10 digits 0 * 10 ^ (powerOf exponent + before - digits.length) := by
  have ten : (10 : ℚ) ≠ 0 := by norm_num
  unfold pointed magnitude
  split
  · next short =>
    -- The zeros that fill up to the point scale the digits, and so does one behind the point.
    have filled : (10 : ℚ) ^ (powerOf exponent + before - digits.length) =
        10 ^ (before - digits.length) * 10 ^ powerOf exponent := by
      rw [← zpow_natCast, ← zpow_add₀ ten]
      congr 1
      omega
    rcases zeroEnd with rfl | rfl
    · -- Nothing stands behind the point.
      simp only [Option.getD_none, List.append_nil, ofDigitChars_zeros, filled]
      push_cast
      simp [mul_assoc]
    · -- A zero behind the point is a further digit, for which the exponent makes up.
      have one : (10 : ℚ) ^ (powerOf exponent) = 10 * 10 ^ (powerOf exponent - 1) := by
        rw [← zpow_one_add₀ ten]
        congr 1
        omega
      have ended : Nat.ofDigitChars 10
          (digits ++ List.replicate (before - digits.length) '0' ++ ['0']) 0 =
            Nat.ofDigitChars 10 digits 0 * 10 ^ (before - digits.length) * 10 := by
        rw [Nat.ofDigitChars_append, ofDigitChars_zeros]
        simp [Nat.ofDigitChars_cons, Nat.mul_comm]
      simp only [Option.getD_some, ended, filled, one]
      push_cast
      simp [mul_assoc]
  · next long =>
    -- The digits are all there, and those behind the point count as the fraction.
    simp only [Option.getD_some, List.take_append_drop, List.length_drop]
    congr 2
    omega

/-- Digits are laid out with the leading one standing for the given power. -/
theorem magnitude_placed (power : Int) :
    (placed negative digits power).magnitude =
      Nat.ofDigitChars 10 digits 0 * 10 ^ (power + 1 - digits.length) := by
  unfold placed
  split
  · split
    · next down =>
      -- The zeros in front spell nothing, but are places behind the point.
      simp only [magnitude, powerOf, Option.getD_some, List.length_append, List.length_replicate]
      rw [Nat.ofDigitChars_append, Nat.ofDigitChars_append, Nat.ofDigitChars_replicate_zero]
      have places : (0 : Int) - ((-power - 1).toNat + digits.length : Nat) =
          power + 1 - digits.length := by omega
      rw [places]
      simp [Nat.ofDigitChars_cons]
    · -- The point stands behind or among the digits.
      rw [magnitude_pointed _ _ _ (.inr rfl), powerOf]
      congr 2
      omega
  · -- The exponent says how far the leading digit is from the point.
    rw [magnitude_pointed _ _ _ (.inl rfl)]
    congr 2
    simp only [powerOf, Nat.ofDigitChars_ten_toDigits, decide_eq_true_eq]
    split <;> omega

/-- The numeral of a number that is not zero stands for its shortest decimal. -/
theorem magnitude_ofFloat {x : Binary64} (some : x.isZero = false) :
    (ofFloat x).magnitude = (x.shortest jsonFloat.tie).value := by
  -- The exponent of the decimal belongs to its last digit.
  rw [ofFloat, if_neg (by simp [some]), magnitude_placed, Nat.ofDigitChars_ten_toDigits,
    Decimal.value]
  congr 2
  omega

/-- The sign of a numeral is that of the number. -/
theorem negative_ofFloat (x : Binary64) : (ofFloat x).negative = x.isNegative := by
  -- The sign is set in every layout alike.
  have kept : ∀ digits power, (placed x.isNegative digits power).negative = x.isNegative := by
    intro digits power
    unfold placed pointed
    repeat' split
    all_goals rfl
  unfold ofFloat
  split <;> exact kept _ _

/-- Where a zero in front stands alone, a point leaves it alone. -/
theorem pointed_wellFormed {digits : List Char} (run : DigitRun digits) {before : Nat}
    (some : 0 < before) (lead : digits.head? = .some '0' → digits = ['0'] ∧ before = 1)
    {wholeEnd : Option (List Char)} (ending : ∀ digits ∈ wholeEnd, DigitRun digits)
    {exponent : Option (Bool × List Char)} (power : ∀ sign ∈ exponent, DigitRun sign.2) :
    (pointed negative digits before wholeEnd exponent).WellFormed := by
  obtain ⟨digit, digits, rfl⟩ := List.exists_cons_of_ne_nil run.some
  unfold pointed
  split
  · next short =>
    refine ⟨run.append ?_, ?_, ending, power⟩
    · intro c mem
      rw [List.eq_of_mem_replicate mem]
      decide
    · -- A zero in front is the only digit, and the point is right behind it.
      intro zero
      obtain ⟨alone, rfl⟩ := lead (by simpa using zero)
      simp_all
  · next long =>
    -- Digits stand on both sides of the point.
    obtain ⟨places, rfl⟩ := Nat.exists_eq_add_one.mpr some
    -- Both parts are parts of the run of digits.
    refine ⟨⟨by simp, fun c mem => run.all c (List.mem_of_mem_take mem)⟩, ?_, ?_, power⟩
    · intro zero
      obtain ⟨alone, -⟩ := lead (by simpa using zero)
      simp_all
    · rintro _ ⟨⟩
      refine ⟨?_, fun c mem => run.all c (List.mem_of_mem_drop mem)⟩
      simpa using long

/-- Digits without a zero in front are laid out as JSON asks, and so is zero. -/
theorem placed_wellFormed {digits : List Char} (run : DigitRun digits) {power : Int}
    (lead : digits.head? = some '0' → digits = ['0'] ∧ power = 0) :
    (placed negative digits power).WellFormed := by
  unfold placed
  split
  · split
    · next down =>
      -- A zero stands in front of the point, and behind it only digits do.
      refine ⟨⟨by simp, by simp [Char.isDigit]⟩, fun _ => rfl, ?_, by simp⟩
      rintro _ ⟨⟩
      refine ⟨by simp [run.some], ?_⟩
      intro c mem
      rcases List.mem_append.mp mem with zero | digit
      · rw [List.eq_of_mem_replicate zero]
        decide
      · exact run.all c digit
    · -- Digits in front of the point are there as many as the power says.
      refine pointed_wellFormed negative run (by omega) ?_ ?_ (by simp)
      · intro zero
        obtain ⟨alone, rfl⟩ := lead zero
        exact ⟨alone, rfl⟩
      · -- The zero behind the point is a digit.
        rintro _ ⟨⟩
        exact ⟨by simp, by simp [Char.isDigit]⟩
  · next far =>
    refine pointed_wellFormed negative run (by omega) ?_ (by simp) ?_
    · -- Zero has no exponent.
      intro zero
      obtain ⟨-, rfl⟩ := lead zero
      exact absurd (by decide) far
    · -- The exponent is written in digits.
      rintro _ ⟨⟩
      exact .ofNat power.natAbs

end Numeral

namespace Binary64

/-- A finite number is zero exactly where its magnitude has no bit. -/
theorem isZero_iff {x : Binary64} (finite : x.isFinite = true) :
    x.isZero = true ↔ x.magnitude = 0 := by
  -- The significand of magnitude bits is zero for no bit only.
  rw [isZero, finite, Bool.true_and, beq_iff_eq, significand_eq, significandAt]
  unfold exponentWeight
  constructor
  · split <;> omega
  · intro none
    simp [none]

variable {x : Binary64} (finite : x.isFinite = true) (some : x.isZero = false)

include finite some

/-- The numeral of a finite number that is not zero reads back as that number. -/
theorem readsBack_ofFloat : ReadsBack x.magnitude (Numeral.ofFloat x).magnitude := by
  -- The numeral stands for the shortest decimal, which reads back.
  rw [Numeral.magnitude_ofFloat some]
  refine shortest_readsBack _ ?_
  simpa [isZero, finite] using some

/-- The numeral of a finite number that is not zero stands for no zero either. -/
theorem magnitude_ofFloat_pos : 0 < (Numeral.ofFloat x).magnitude := by
  -- What reads back as a number that is not zero is positive.
  refine (readsBack_ofFloat finite some).pos ?_
  rw [← significand_eq]
  simpa [isZero, finite] using some

/-- The shortest decimal of a finite number that is not zero has digits. -/
theorem shortest_digits_pos : 0 < (x.shortest jsonFloat.tie).digits := by
  -- Without a digit the decimal would be zero.
  have pos := magnitude_ofFloat_pos finite some
  rw [Numeral.magnitude_ofFloat some, Decimal.value] at pos
  rcases Nat.eq_zero_or_pos (x.shortest jsonFloat.tie).digits with none | digits
  · rw [none] at pos
    simp at pos
  · exact digits

end Binary64

/-- The numeral of a finite number is well-formed. -/
theorem Numeral.ofFloat_wellFormed {x : Binary64} (finite : x.isFinite = true) :
    (ofFloat x).WellFormed := by
  unfold ofFloat
  split
  · -- The digit zero is the only one, at the place of ones.
    exact placed_wellFormed _ ⟨by simp, by simp [Char.isDigit]⟩ fun _ => ⟨rfl, rfl⟩
  · next some =>
    -- The digits of a positive number have no zero in front.
    have digits := Binary64.shortest_digits_pos finite (by simpa using some)
    exact placed_wellFormed _ (.ofNat _) fun zero => absurd zero (head?_toDigits digits)

/-- No two finite numbers have the same numeral. -/
theorem Numeral.ofFloat_injective {x y : Binary64} (finite : x.isFinite = true)
    (finite' : y.isFinite = true) (same : ofFloat x = ofFloat y) : x = y := by
  -- The sign is read off the numeral.
  have sign : x.isNegative = y.isNegative := by
    rw [← negative_ofFloat, same, negative_ofFloat]
  refine Binary64.eq_of_sign_magnitude sign ?_
  -- What the numeral stands for tells zero from the others, and each of the others from the rest.
  have zero : ∀ {z : Binary64}, z.isZero = true → (ofFloat z).magnitude = 0 := by
    intro z zero
    rw [ofFloat, if_pos zero, magnitude_placed]
    simp [Nat.ofDigitChars_cons]
  cases isZero : x.isZero <;> cases isZero' : y.isZero
  · -- Both numbers are what the same rational reads back as.
    have within := Binary64.readsBack_ofFloat finite isZero
    rw [same] at within
    exact within.unique (Binary64.readsBack_ofFloat finite' isZero')
  · -- Only one of them is zero, but the numeral stands for one rational.
    have pos := Binary64.magnitude_ofFloat_pos finite isZero
    rw [same, zero isZero'] at pos
    exact absurd pos (lt_irrefl 0)
  · have pos := Binary64.magnitude_ofFloat_pos finite' isZero'
    rw [← same, zero isZero] at pos
    exact absurd pos (lt_irrefl 0)
  · -- Zero has no bit but its sign.
    rw [(Binary64.isZero_iff finite).mp isZero, (Binary64.isZero_iff finite').mp isZero']

/-- The numeral of a finite number is none of an integer: it has a fraction or an exponent. -/
theorem Numeral.ofFloat_ne_ofInt (x : Binary64) (n : Int) : ofFloat x ≠ ofInt n := by
  -- In every layout there is a point or an exponent.
  have marked : ∀ digits power, (placed x.isNegative digits power).fraction ≠ none ∨
      (placed x.isNegative digits power).exponent ≠ none := by
    intro digits power
    unfold placed pointed
    repeat' split
    all_goals simp
  intro same
  -- An integer has neither.
  have plain : (ofFloat x).fraction = none ∧ (ofFloat x).exponent = none := by
    rw [same]
    exact ⟨rfl, rfl⟩
  unfold ofFloat at plain
  split at plain
  all_goals
    rcases marked _ _ with fraction | exponent
    · exact fraction plain.1
    · exact exponent plain.2

end Querent
