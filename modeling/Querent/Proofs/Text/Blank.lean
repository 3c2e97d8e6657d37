import Mathlib.Data.List.DropRight
import Mathlib.Data.List.TakeWhile
import Querent.Text.Blank

/-! Trimming a text takes its blanks at both ends, once and for all. -/

namespace Querent

/-- A digit is no blank. -/
theorem isBlank_of_isDigit {c : Char} (digit : c.isDigit = true) : isBlank c = false := by
  -- The digits are one run of characters, which meets no run of blanks.
  simp only [Char.isDigit, Bool.and_eq_true, decide_eq_true_eq, ge_iff_le,
    UInt32.le_iff_toNat_le] at digit
  have low : 48 ≤ c.toNat := digit.1
  have high : c.toNat ≤ 57 := digit.2
  clear digit
  simp only [isBlank, blankRuns, List.any_cons, List.any_nil, Bool.or_eq_false_iff,
    Bool.and_eq_false_iff, decide_eq_false_iff_not, and_true]
  omega

/-- What is trimmed is dropped from the front and then from the back. -/
theorem trimEnds_eq (text : List Char) : trimEnds text = (trimFront text).rdropWhile isBlank :=
  rfl

/-- A trimmed text is a part of the text. -/
theorem trimEnds_within (text : List Char) : trimEnds text <:+: text := by
  -- What is left behind the front is a suffix, and what is left before the back is a prefix of it.
  have front : trimFront text <:+ text := List.dropWhile_suffix isBlank
  have back : trimEnds text <+: trimFront text := List.rdropWhile_prefix isBlank (trimFront text)
  exact back.isInfix.trans front.isInfix

/-- What trimming drops at the two ends is blank. -/
theorem exists_trimEnds (text : List Char) :
    ∃ front back, text = front ++ (trimEnds text ++ back) ∧ (∀ c ∈ front, isBlank c = true) ∧
      ∀ c ∈ back, isBlank c = true := by
  refine ⟨text.takeWhile isBlank, (trimFront text).rtakeWhile isBlank, ?_,
    fun c mem => List.mem_takeWhile_imp mem, fun c mem => List.mem_rtakeWhile_imp mem⟩
  rw [trimEnds_eq, List.rdropWhile_append_rtakeWhile, trimFront, List.takeWhile_append_dropWhile]

/-- A trimmed text does not begin with a blank. -/
theorem trimFront_trimEnds (text : List Char) : trimFront (trimEnds text) = trimEnds text := by
  have back : trimEnds text <+: trimFront text := List.rdropWhile_prefix isBlank (trimFront text)
  cases trimmed : trimEnds text with
  | nil => rfl
  | cons c rest =>
    -- Its first character is the first one that is not dropped from the text.
    obtain ⟨tail, shown⟩ := back
    rw [trimmed] at shown
    have first := List.head?_dropWhile_not isBlank text
    rw [← trimFront, ← shown] at first
    have solid : isBlank c = false := by simpa using first
    simp [trimFront, solid]

/-- Trimming again changes nothing. -/
theorem trimEnds_trimEnds (text : List Char) : trimEnds (trimEnds text) = trimEnds text := by
  rw [trimEnds_eq, trimFront_trimEnds, trimEnds_eq]
  exact List.rdropWhile_idempotent isBlank (trimFront text)

/-- A text is as it is trimmed if it neither begins nor ends with a blank. -/
theorem trimEnds_eq_self_iff (text : List Char) : trimEnds text = text ↔
    (text.map isBlank).head? ≠ some true ∧ (text.map isBlank).getLast? ≠ some true := by
  have front : trimFront text = text ↔ (text.map isBlank).head? ≠ some true := by
    cases text <;> simp [trimFront, List.dropWhile_eq_self_iff]
  have back : text.rdropWhile isBlank = text ↔ (text.map isBlank).getLast? ≠ some true := by
    rcases List.eq_nil_or_concat' text with rfl | ⟨init, c, rfl⟩ <;>
      simp [List.rdropWhile_eq_self_iff]
  rw [trimEnds_eq]
  constructor
  · intro whole
    have begins : trimFront text = text := by
      have trimmed := trimFront_trimEnds text
      rwa [trimEnds_eq, whole] at trimmed
    rw [begins] at whole
    exact ⟨front.mp begins, back.mp whole⟩
  · rintro ⟨first, last⟩
    rw [front.mpr first, back.mpr last]

/-- Trimming a text again changes nothing. -/
theorem trim_trim (text : String) : trim (trim text) = trim text := by
  simp [trim, trimEnds_trimEnds]

end Querent
