import Mathlib.Data.List.TakeWhile
import Mathlib.Tactic.NormNum
import Querent.Proofs.Json.Quantity
import Querent.Proofs.Text.Blank
import Querent.Time.Reader

/-! A timestamp that is written in stored data is read as that timestamp. -/

namespace Querent

/-- No blank stands in front of digits. -/
theorem trimFront_digits {digits : List Char} (run : DigitRun digits) (rest : List Char) :
    trimFront (digits ++ rest) = digits ++ rest := by
  -- The first digit stops the search for blanks.
  obtain ⟨digit, digits, rfl⟩ := List.exists_cons_of_ne_nil run.some
  have first : isBlank digit = false := isBlank_of_isDigit (run.all digit (by simp))
  simp [trimFront, first]

/-- What begins with a run of digits begins with a digit. -/
theorem DigitRun.isDigit_of_append {digits rest tail : List Char} {c : Char} (run : DigitRun digits)
    (same : digits ++ rest = c :: tail) : c.isDigit = true := by
  obtain ⟨digit, digits, rfl⟩ := List.exists_cons_of_ne_nil run.some
  have first : digit = c := (List.cons.inj same).1
  exact first ▸ run.all digit (by simp)

/-- Zeros in front of digits leave a run of digits. -/
theorem DigitRun.padded (width n : Nat) : DigitRun (padded width n) where
  some := by simp [Querent.padded, (ofNat n).some]
  all := by
    intro c mem
    rcases List.mem_append.mp mem with zero | digit
    · rw [List.eq_of_mem_replicate zero]
      decide
    · exact (ofNat n).all c digit

/-- Zeros in front of digits do not change their value. -/
theorem digitsValue_padded (width n : Nat) : digitsValue (padded width n) = n := by
  -- The zeros spell nothing, and the digits spell the number.
  rw [digitsValue_eq, padded, Nat.ofDigitChars_append, Nat.ofDigitChars_replicate_zero,
    Nat.mul_zero, Nat.ofDigitChars_ten_toDigits]

/-- A number that a width is enough for is written with exactly that width. -/
theorem length_padded {width n : Nat} (some : 0 < width) (fits : n < 10 ^ width) :
    (padded width n).length = width := by
  have short : (Nat.toDigits 10 n).length ≤ width :=
    (Nat.length_toDigits_le_iff (by decide) some).mpr fits
  simp only [padded, List.length_append, List.length_replicate]
  omega

/-- A reader of digits takes a padded number, where it must stop behind it. -/
theorem readDecimal_padded {width n limit : Nat} {rest : List Char}
    (room : (padded width n).length ≤ limit)
    (stop : (padded width n).length = limit ∨ ∀ c ∈ rest.head?, c.isDigit = false) :
    readDecimal limit (padded width n ++ rest) = some (n, rest) := by
  have run := DigitRun.padded width n
  -- Either the limit is reached, or the next character is no digit.
  have taken : ((padded width n ++ rest).take limit).takeWhile Char.isDigit = padded width n := by
    rw [List.take_append, List.take_of_length_le room, List.takeWhile_append_of_pos run.all]
    rcases stop with full | other
    · simp [full]
    · cases rest with
      | nil => simp
      | cons c rest =>
        have plain : c.isDigit = false := other c rfl
        cases limit - (padded width n).length <;> simp [plain]
  have nonempty : (padded width n).isEmpty = false := by simp [run.some]
  simp only [readDecimal, taken, nonempty, digitsValue_padded, List.drop_left]
  rfl

/-- A reader of two digits takes a number of at most two digits, whatever follows it. -/
theorem readPart_padded {n : Nat} (small : n < 100) (rest : List Char) :
    readPart (padded 2 n ++ rest) = some (n, rest) := by
  have width : (padded 2 n).length = 2 := length_padded (by decide) small
  rw [readPart, trimFront_digits (.padded 2 n)]
  exact readDecimal_padded (Nat.le_of_eq width) (.inl width)

/-- A reader of marks takes a mark that is no blank. -/
theorem readMark_cons {mark : Char} (solid : isBlank mark = false) (rest : List Char) :
    readMark mark (mark :: rest) = some rest := by
  simp [readMark, trimFront, solid]

/-- A reader of years takes a year, when no digit follows it. -/
theorem readYear_yearText (year : Int) {rest : List Char}
    (stop : ∀ c ∈ rest.head?, c.isDigit = false) :
    readYear (yearText year ++ rest) = some (year, rest) := by
  have signed : readDecimal (padded 4 year.natAbs ++ rest).length (padded 4 year.natAbs ++ rest) =
      some (year.natAbs, rest) :=
    readDecimal_padded (by simp) (.inr stop)
  unfold yearText
  split
  · next before =>
    -- A year before year 0 has a minus in front.
    have minus : isBlank '-' = false := by decide
    have back : -(year.natAbs : Int) = year := by omega
    simp only [readYear, List.cons_append, trimFront, List.dropWhile_cons, minus,
      Bool.false_eq_true, if_false, signed, Option.map_some, back]
  · split
    · next late =>
      -- A year of more than four digits has a plus in front.
      have plus : isBlank '+' = false := by decide
      have back : (year.natAbs : Int) = year := by omega
      simp only [readYear, List.cons_append, trimFront, List.dropWhile_cons, plus,
        Bool.false_eq_true, if_false, signed, Option.map_some, back]
    · next early =>
      -- Any other year is four digits.
      have back : (year.natAbs : Int) = year := by omega
      have width : (padded 4 year.natAbs).length = 4 := by
        apply length_padded (by decide)
        have bound : (10 : Nat) ^ 4 = 10000 := rfl
        omega
      have taken : readDecimal 4 (padded 4 year.natAbs ++ rest) = some (year.natAbs, rest) :=
        readDecimal_padded (Nat.le_of_eq width) (.inl width)
      have run := DigitRun.padded 4 year.natAbs
      unfold readYear
      rw [trimFront_digits run]
      -- No digit is a sign.
      split
      · next same => exact absurd (run.isDigit_of_append same) (by decide)
      · next same => exact absurd (run.isDigit_of_append same) (by decide)
      · rw [taken]
        simp only [Option.map_some, back]

/-- A reader of fractions takes one that is written with a given number of digits. -/
theorem readFractionOfSecond_padded {width n : Nat} (some : 0 < width) (most : width ≤ 9)
    (fits : n < 10 ^ width) :
    readFractionOfSecond ('.' :: padded width n) = .some (n * 10 ^ (9 - width), []) := by
  have size : (padded width n).length = width := length_padded some fits
  have run := DigitRun.padded width n
  have taken : ((padded width n).take 9).takeWhile Char.isDigit = padded width n := by
    rw [List.take_of_length_le (by omega), List.takeWhile_eq_self_iff]
    exact run.all
  have dropped : (padded width n).dropWhile Char.isDigit = [] :=
    List.dropWhile_eq_nil_iff.mpr run.all
  have nonempty : (padded width n).isEmpty = false := by simp [run.some]
  simp only [readFractionOfSecond, taken, dropped, nonempty, digitsValue_padded, size]
  rfl

/-- A reader of fractions takes one that is written with as many digits as it needs. -/
theorem readFractionOfSecond_fractionText {nanosecond : Nat} (small : nanosecond < 1000000000) :
    readFractionOfSecond (fractionText nanosecond) = some (nanosecond, []) := by
  unfold fractionText
  split
  · next zero =>
    rw [zero]
    rfl
  · split
    · -- Three digits are the milliseconds.
      have milliseconds : nanosecond / 1000000 * 10 ^ (9 - 3) = nanosecond := by norm_num; omega
      rw [readFractionOfSecond_padded (by decide) (by decide) (by omega), milliseconds]
    · split
      · -- Six digits are the microseconds.
        have microseconds : nanosecond / 1000 * 10 ^ (9 - 6) = nanosecond := by norm_num; omega
        rw [readFractionOfSecond_padded (by decide) (by decide) (by omega), microseconds]
      · have nanoseconds : nanosecond * 10 ^ (9 - 9) = nanosecond := by norm_num
        rw [readFractionOfSecond_padded (by decide) (by decide) (by omega), nanoseconds]

/-- The days of a month are written with two digits. -/
theorem daysIn_lt (year : Int) (month : Nat) : daysIn year month < 100 := by
  unfold daysIn
  repeat' split
  all_goals decide

/-- A moment that is real is read from what is written of it, where a leap second follows second 59.
-/
theorem readMoment_print {moment : Moment} (real : moment.Real) (leap : moment.Regular) :
    readMoment (moment.print 'T') = some moment := by
  obtain ⟨year, month, day, hour, minute, second, nanosecond⟩ := moment
  -- Every part has two digits at most, the second with a leap second among them too.
  obtain ⟨-, ⟨-, lastMonth⟩, ⟨-, lastDay⟩, lastHour, lastMinute, lastSecond, last⟩ := real
  dsimp only [Moment.Regular] at lastMonth lastDay lastHour lastMinute lastSecond last leap
  have days := daysIn_lt year month
  have monthPart := readPart_padded (n := month) (by omega)
  have dayPart := readPart_padded (n := day) (by omega)
  have hourPart := readPart_padded (n := hour) (by omega)
  have minutePart := readPart_padded (n := minute) (by omega)
  have secondPart := readPart_padded (n := second + nanosecond / 1000000000) (by omega)
  have fraction := readFractionOfSecond_fractionText (Nat.mod_lt nanosecond
    (show 0 < 1000000000 by decide))
  -- The marks between the parts are no blanks, and none of them goes on with the year.
  have dash : ∀ rest, readMark '-' ('-' :: rest) = some rest := readMark_cons (by decide)
  have letter : ∀ rest, readMark 'T' ('T' :: rest) = some rest := readMark_cons (by decide)
  have colon : ∀ rest, readMark ':' (':' :: rest) = some rest := readMark_cons (by decide)
  have yearPart : ∀ rest, readYear (yearText year ++ '-' :: rest) = some (year, '-' :: rest) := by
    intro rest
    apply readYear_yearText
    intro c head
    cases head
    decide
  simp only [Moment.print, List.append_assoc, List.cons_append, readMoment, yearPart, dash,
    monthPart, dayPart, letter, hourPart, colon, minutePart, secondPart, fraction, bind,
    Option.bind]
  simp only [trimFront, List.dropWhile_nil, List.isEmpty_nil, if_true]
  -- A leap second is written as second 60, and no other second is.
  by_cases begun : 1000000000 ≤ nanosecond
  · have sixty : second + nanosecond / 1000000000 = 60 := by omega
    have back : nanosecond % 1000000000 + 1000000000 = nanosecond := by omega
    rw [if_pos sixty, back, ← leap begun]
  · have usual : second + nanosecond / 1000000000 = second := by omega
    have back : nanosecond % 1000000000 = nanosecond := by omega
    rw [usual, back, if_neg (by omega)]

/-- The moment that the text of a moment tells: a leap second is written as the next second, and
only behind second 59 is that a leap second again. -/
def Moment.settled (moment : Moment) : Moment :=
  if moment.Regular then moment
  else { moment with second := moment.second + 1, nanosecond := moment.nanosecond - 1000000000 }

/-- A moment that is told by its own text has no leap second behind another second than 59. -/
theorem Moment.settled_eq_self_iff {moment : Moment} :
    moment.settled = moment ↔ moment.Regular := by
  refine ⟨fun same => ?_, fun regular => if_pos regular⟩
  -- Otherwise the second would be another one.
  by_contra irregular
  rw [settled, if_neg irregular] at same
  have second : moment.second + 1 = moment.second := congrArg Moment.second same
  omega

/-- A moment that is told has no leap second behind another second than 59. -/
theorem Moment.regular_settled {moment : Moment} (real : moment.Real) : moment.settled.Regular := by
  unfold settled
  split
  · assumption
  · -- What is left of the nanoseconds is less than a second.
    intro begun
    have last := real.nanosecond
    dsimp only at begun
    omega

/-- The calendar has the moment that is told. -/
theorem Moment.Real.settled {moment : Moment} (real : moment.Real) : moment.settled.Real := by
  unfold Moment.settled
  split
  · exact real
  · rename_i irregular
    rw [Regular, Classical.not_imp] at irregular
    have lastSecond := real.second
    have last := real.nanosecond
    -- The second was not the last one of its minute.
    refine ⟨real.year, real.month, real.day, real.hour, real.minute, ?_, ?_⟩ <;>
      dsimp only <;> omega

/-- A moment has the text of the one that is told. -/
theorem Moment.print_settled {moment : Moment} (real : moment.Real) (mark : Char) :
    moment.settled.print mark = moment.print mark := by
  unfold settled
  split
  · rfl
  · rename_i irregular
    rw [Regular, Classical.not_imp] at irregular
    have last := real.nanosecond
    -- The second that the nanoseconds are past is written in either case.
    have second : moment.second + 1 + (moment.nanosecond - 1000000000) / 1000000000 =
        moment.second + moment.nanosecond / 1000000000 := by omega
    have fraction : (moment.nanosecond - 1000000000) % 1000000000 =
        moment.nanosecond % 1000000000 := by omega
    simp only [print, second, fraction]

/-- The timestamp that the text of a timestamp tells. -/
def Timestamp.settled (timestamp : Timestamp) : Timestamp :=
  ⟨timestamp.moment.settled, timestamp.real.settled⟩

/-- A timestamp is told by its own text exactly if no leap second of it follows another second than
59. -/
theorem Timestamp.settled_eq_self_iff {timestamp : Timestamp} :
    timestamp.settled = timestamp ↔ timestamp.moment.Regular := by
  -- A timestamp is its moment.
  obtain ⟨moment, real⟩ := timestamp
  rw [settled, mk.injEq, Moment.settled_eq_self_iff]

/-- The stored text of a timestamp is read as the timestamp that it tells. -/
theorem Timestamp.parse?_isoText (timestamp : Timestamp) :
    Timestamp.parse? timestamp.isoText = some timestamp.settled := by
  -- The moment that is told has the same text, is read back, and is one that the calendar has.
  have regular := Moment.regular_settled timestamp.real
  rw [parse?, isoText, String.toList_ofList, ← Moment.print_settled timestamp.real,
    readMoment_print timestamp.real.settled regular, Option.bind_some, ofMoment?,
    dif_pos ⟨timestamp.real.settled, regular⟩]
  rfl

end Querent
