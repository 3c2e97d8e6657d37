import Querent.Json.Numeral
import Querent.Proofs.Json.Numeral

/-! An integer that is written in JSON is read as that integer. -/

namespace Querent

/-- The value of digits is what they spell to base ten. -/
theorem digitsValue_eq (digits : List Char) :
    digitsValue digits = Nat.ofDigitChars 10 digits 0 := by
  -- Both take up the digits from the left.
  simp [digitsValue, Nat.ofDigitChars, digitValue, Nat.mul_comm]

/-- Digits behind a number never make it smaller. -/
theorem le_ofDigitChars (digits : List Char) (start : Nat) :
    start ≤ Nat.ofDigitChars 10 digits start := by
  induction digits generalizing start with
  | nil => exact Nat.le_refl start
  | cons digit digits ih =>
    -- One digit multiplies by ten, and the others follow.
    have one : start ≤ 10 * start + (digit.toNat - '0'.toNat) := by omega
    rw [Nat.ofDigitChars_cons]
    exact Nat.le_trans one (ih _)

/-- Digits whose number is a word are gathered one by one. -/
theorem Gathered.whole_of_lt {digits : List Char} {word : Nat} (power : Int)
    (small : Nat.ofDigitChars 10 digits word < UInt64.size) :
    whole ⟨word, power⟩ digits = ⟨Nat.ofDigitChars 10 digits word, power⟩ := by
  induction digits generalizing word with
  | nil => rfl
  | cons digit digits ih =>
    -- What is gathered so far is no greater than the whole number, so the digit fits.
    rw [Nat.ofDigitChars_cons] at small ⊢
    have next : word * 10 + digitValue digit = 10 * word + (digit.toNat - '0'.toNat) := by
      rw [digitValue, Nat.mul_comm]
    have reach := le_ofDigitChars digits (10 * word + (digit.toNat - '0'.toNat))
    have fits : fits ⟨word, power⟩ digit = true := by
      simp only [Gathered.fits, next, decide_eq_true_eq]
      omega
    rw [whole, if_pos fits]
    show whole ⟨word * 10 + digitValue digit, power⟩ digits = _
    rw [next]
    exact ih small

/-- The numeral of an integer stands for that integer. -/
theorem Numeral.quantity?_ofInt (number : Whole) :
    (ofInt number.value).quantity? = some (.whole number) := by
  obtain ⟨value, low, high⟩ := number
  -- The magnitude is a word, whose digits are all gathered.
  have word : Nat.ofDigitChars 10 (Nat.toDigits 10 value.natAbs) 0 = value.natAbs :=
    Nat.ofDigitChars_ten_toDigits
  have size : UInt64.size = 18446744073709551616 := rfl
  have small : Nat.ofDigitChars 10 (Nat.toDigits 10 value.natAbs) 0 < UInt64.size := by
    rw [word]
    omega
  have gathered := Gathered.whole_of_lt 0 small
  rw [word] at gathered
  -- Its sign gives the integer back.
  have signed : (if value < 0 then -(value.natAbs : Int) else (value.natAbs : Int)) = value := by
    split <;> omega
  have zero : (decide (value < 0) && value.natAbs == 0) = false := by
    simp only [Bool.and_eq_false_iff, decide_eq_false_iff_not, beq_eq_false_iff_ne]
    omega
  simp only [ofInt, quantity?, gathered, decide_eq_true_eq, signed, true_and]
  rw [dif_pos ⟨low, high⟩, zero]
  rfl

end Querent
