import Mathlib.Data.List.TakeDrop
import Querent.Json.Document

/-! Numbers in JSON text: a numeral that is written reads back as itself. -/

namespace Querent

/-- A run of decimal digits, of which there is at least one. -/
structure DigitRun (digits : List Char) : Prop where
  some : digits ≠ []
  all : ∀ c ∈ digits, c.isDigit = true

/-- The digits of a natural number are a run. -/
theorem DigitRun.ofNat (n : Nat) : DigitRun (Nat.toDigits 10 n) where
  some := Nat.toDigits_ne_nil
  all _ mem := Nat.isDigit_of_mem_toDigits (by decide) (by decide) mem

/-- Two runs, one behind the other, are a run. -/
theorem DigitRun.append {digits more : List Char} (run : DigitRun digits)
    (all : ∀ c ∈ more, c.isDigit = true) : DigitRun (digits ++ more) where
  some := by simp [run.some]
  all c mem := (List.mem_append.mp mem).elim (run.all c) (all c)

/-- The digits of a positive number do not begin with a zero. -/
theorem head?_toDigits {n : Nat} (pos : 0 < n) : (Nat.toDigits 10 n).head? ≠ some '0' := by
  -- All digits but the last are those of the number without its last digit.
  induction n using Nat.strongRecOn with
  | ind n ih =>
    by_cases small : n < 10
    · -- A single digit of a positive number is no zero.
      rw [Nat.toDigits_of_lt_base small]
      have lead : ∀ m < 10, 0 < m → ([m.digitChar].head? : Option Char) ≠ some '0' := by decide
      exact lead n small pos
    · -- The front of a longer number is itself the digits of a positive number.
      have front := ih (n / 10) (by omega) (by omega)
      obtain ⟨digit, digits, shown⟩ := List.exists_cons_of_ne_nil (Nat.toDigits_ne_nil (b := 10)
        (n := n / 10))
      rw [Nat.toDigits_of_base_le (by decide) (by omega), shown]
      rwa [shown] at front

namespace Numeral

/-- The characters of a fraction. -/
def printFraction : Option (List Char) → List Char
  | none => []
  | some digits => '.' :: digits

/-- The characters of an exponent, which always has a sign. -/
def printExponent : Option (Bool × List Char) → List Char
  | none => []
  | some (negative, digits) => 'e' :: (if negative then '-' else '+') :: digits

/-- The characters of a numeral. -/
def print (numeral : Numeral) : List Char :=
  (if numeral.negative then ['-'] else []) ++ numeral.whole ++ printFraction numeral.fraction ++
    printExponent numeral.exponent

/-- What JSON asks of a numeral. -/
structure WellFormed (numeral : Numeral) : Prop where
  whole : DigitRun numeral.whole
  /-- A zero stands alone before the point. -/
  lead : numeral.whole.head? = some '0' → numeral.whole.length = 1
  fraction : ∀ digits ∈ numeral.fraction, DigitRun digits
  exponent : ∀ sign ∈ numeral.exponent, DigitRun sign.2

/-- Whether a text goes on with no character that could be part of a number. -/
def Stops (rest : List Char) : Prop :=
  ∀ c ∈ rest.head?, c.isDigit = false ∧ c ≠ '.' ∧ c ≠ 'e' ∧ c ≠ 'E'

/-- A reader of digits takes a run that no further digit follows. -/
theorem readDigits_append {digits rest : List Char} (run : DigitRun digits)
    (stop : ∀ c ∈ rest.head?, c.isDigit = false) :
    readDigits (digits ++ rest) = some (digits, rest) := by
  -- The span of digits is the whole run, since what comes first behind it is none.
  have taken : (digits ++ rest).span Char.isDigit = (digits, rest) := by
    rw [List.span_eq_takeWhile_dropWhile, List.takeWhile_append_of_pos run.all,
      List.dropWhile_append_of_pos run.all]
    cases rest with
    | nil => simp
    | cons c rest =>
      have other := stop c rfl
      simp [other]
  -- A run has a digit, so the reader does not fail.
  unfold readDigits
  rw [taken]
  cases digits with
  | nil => exact absurd rfl run.some
  | cons c digits => rfl

/-- A reader of fractions takes one that is written. -/
theorem readFraction_print {fraction : Option (List Char)}
    (run : ∀ digits ∈ fraction, DigitRun digits) {rest : List Char}
    (stop : ∀ c ∈ rest.head?, c.isDigit = false ∧ c ≠ '.') :
    readFraction (printFraction fraction ++ rest) = some (fraction, rest) := by
  cases fraction with
  | none =>
    -- Nothing is written, and what follows has no point.
    rw [printFraction, List.nil_append]
    unfold readFraction
    split
    · next rest => exact absurd rfl (stop '.' rfl).2
    · rfl
  | some digits =>
    -- Behind the point the digits are a run.
    rw [printFraction, List.cons_append, readFraction,
      readDigits_append (run digits rfl) fun c head => (stop c head).1]
    rfl

/-- A reader of exponents takes one that is written. -/
theorem readExponent_print {exponent : Option (Bool × List Char)}
    (run : ∀ sign ∈ exponent, DigitRun sign.2) {rest : List Char}
    (stop : ∀ c ∈ rest.head?, c.isDigit = false ∧ c ≠ 'e' ∧ c ≠ 'E') :
    readExponent (printExponent exponent ++ rest) = some (exponent, rest) := by
  cases exponent with
  | none =>
    -- Nothing is written, and what follows has no letter of an exponent.
    rw [printExponent, List.nil_append]
    cases rest with
    | nil => rfl
    | cons c rest =>
      have other := stop c rfl
      simp [readExponent, other.2.1, other.2.2]
  | some sign =>
    -- The sign is always there, and the digits behind it are a run.
    obtain ⟨negative, digits⟩ := sign
    have taken := readDigits_append (run (negative, digits) rfl) fun c head => (stop c head).1
    cases negative <;> simp [printExponent, readExponent, taken]

/-- What follows the digits before the point is no digit. -/
theorem head?_tail_not_digit (fraction : Option (List Char)) (exponent : Option (Bool × List Char))
    {rest : List Char} (stop : ∀ c ∈ rest.head?, c.isDigit = false) :
    ∀ c ∈ (printFraction fraction ++ (printExponent exponent ++ rest)).head?,
      c.isDigit = false := by
  -- It is a point, or else the letter of an exponent, or else what follows the number.
  intro c head
  cases fraction with
  -- A fraction begins with its point.
  | some digits =>
    obtain rfl : '.' = c := by simpa [printFraction] using head
    decide
  | none =>
    cases exponent with
    -- An exponent begins with its letter.
    | some sign =>
      obtain rfl : 'e' = c := by simpa [printFraction, printExponent] using head
      decide
    | none => exact stop c head

/-- A reader of numbers takes a numeral that is written. -/
theorem readNumber_print {numeral : Numeral} (formed : numeral.WellFormed) {rest : List Char}
    (stop : Stops rest) : readNumber (numeral.print ++ rest) = some (numeral, rest) := by
  obtain ⟨negative, whole, fraction, exponent⟩ := numeral
  -- The readers of the parts take one part each.
  have takenWhole :
      readDigits (whole ++ (printFraction fraction ++ (printExponent exponent ++ rest))) =
      some (whole, printFraction fraction ++ (printExponent exponent ++ rest)) :=
    readDigits_append formed.whole
      (head?_tail_not_digit fraction exponent fun c head => (stop c head).1)
  have takenFraction : readFraction (printFraction fraction ++ (printExponent exponent ++ rest)) =
      some (fraction, printExponent exponent ++ rest) := by
    -- Behind the fraction comes the letter of an exponent, or what follows the number.
    refine readFraction_print formed.fraction ?_
    intro c head
    cases exponent with
    | none => exact ⟨(stop c head).1, (stop c head).2.1⟩
    | some sign =>
      obtain rfl : 'e' = c := by simpa [printExponent] using head
      decide
  have takenExponent : readExponent (printExponent exponent ++ rest) = some (exponent, rest) :=
    readExponent_print formed.exponent fun c head =>
      ⟨(stop c head).1, (stop c head).2.2⟩
  -- A zero in front stands alone, which is what the reader asks for.
  obtain ⟨digit, digits, rfl⟩ := List.exists_cons_of_ne_nil formed.whole.some
  have alone : digit = '0' → digits = [] := fun zero => by simpa [zero] using formed.lead
  simp only [List.cons_append] at takenWhole
  cases negative with
  | true => simpa [print, readNumber, takenWhole, takenFraction, takenExponent] using alone
  | false =>
    -- Without a sign the text begins with a digit, which is no minus.
    have unsigned : digit ≠ '-' := by
      rintro rfl
      exact absurd (formed.whole.all '-' (by simp)) (by decide)
    simpa [print, readNumber, unsigned, takenWhole, takenFraction, takenExponent] using alone

/-- The numeral of an integer. -/
def ofInt (n : Int) : Numeral :=
  ⟨n < 0, Nat.toDigits 10 n.natAbs, none, none⟩

/-- The numeral of an integer is well-formed. -/
theorem ofInt_wellFormed (n : Int) : (ofInt n).WellFormed where
  whole := .ofNat n.natAbs
  lead zero := by
    -- Only the digits of zero itself begin with a zero.
    rcases Nat.eq_zero_or_pos n.natAbs with none | pos
    · simp [ofInt, none]
    · exact absurd zero (head?_toDigits pos)
  fraction _ mem := by cases mem
  exponent _ mem := by cases mem

/-- An integer is shown as its numeral. -/
theorem print_ofInt (n : Int) : (ofInt n).print = (toString n).toList := by
  -- The sign is written in front of the digits of the magnitude.
  rw [Int.toString_eq_repr, Int.repr_eq_if]
  by_cases negative : n < 0
  · have magnitude : n.natAbs = (-n).toNat := by omega
    simp [ofInt, print, printFraction, printExponent, negative, magnitude, Int.not_le.mpr negative]
  · have magnitude : n.natAbs = n.toNat := by omega
    simp [ofInt, print, printFraction, printExponent, negative, magnitude, Int.not_lt.mp negative]

/-- No two integers have the same numeral. -/
theorem ofInt_injective : Function.Injective ofInt := by
  intro m n same
  simp only [ofInt, mk.injEq, decide_eq_decide, and_true] at same
  -- The digits spell the magnitude, and what is left is the sign.
  have magnitude : m.natAbs = n.natAbs := by
    rw [← Nat.ofDigitChars_ten_toDigits (n := m.natAbs), same.2, Nat.ofDigitChars_ten_toDigits]
  omega

end Numeral

end Querent
