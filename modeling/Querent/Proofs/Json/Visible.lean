import Querent.Proofs.Json.Reading

/-! Printed JSON has no control characters, whatever its strings hold. -/

namespace Querent

/-- Whether a character is no control character. -/
def Visible (c : Char) : Prop :=
  0x20 ≤ c.toNat

instance (c : Char) : Decidable (Visible c) :=
  inferInstanceAs (Decidable (0x20 ≤ c.toNat))

/-- Digits are visible. -/
theorem DigitRun.visible {digits : List Char} (run : DigitRun digits) :
    ∀ c ∈ digits, Visible c := by
  intro c mem
  -- The code of a digit is that of zero at least.
  have digit := run.all c mem
  simp only [Char.isDigit, Bool.and_eq_true, decide_eq_true_eq] at digit
  exact Nat.le_trans (by decide) (UInt32.le_iff_toNat_le.mp digit.1)

/-- A well-formed numeral has no control character. -/
theorem Numeral.print_visible {numeral : Numeral} (formed : numeral.WellFormed) :
    ∀ c ∈ numeral.print, Visible c := by
  -- A numeral is a sign, digits, a point with digits, and an exponent with digits.
  obtain ⟨negative, whole, fraction, exponent⟩ := numeral
  have digits := formed.whole.visible
  intro c mem
  simp only [print, List.mem_append] at mem
  rcases mem with ((sign | mem) | mem) | mem
  · cases negative <;> simp at sign
    subst sign
    decide
  · exact digits c mem
  · cases fraction with
    | none => cases mem
    | some fraction =>
      rcases List.mem_cons.mp mem with rfl | mem
      · decide
      · exact (formed.fraction fraction rfl).visible c mem
  · cases exponent with
    | none => cases mem
    | some sign =>
      rcases List.mem_cons.mp mem with rfl | mem
      · decide
      · rcases List.mem_cons.mp mem with rfl | mem
        · cases sign.1 <;> decide
        · exact (formed.exponent sign rfl).visible c mem

namespace Json

/-- An escape has no control character. -/
theorem escape_visible (c : Char) : ∀ d ∈ escape c, Visible d := by
  -- The sixteen digits of hexadecimal numbers are seen one by one.
  have hex : ∀ n, Visible (hexDigit n) := by
    intro n
    have least : ∀ m < 16, Visible (hexDigit m) := by decide
    have same : hexDigit n = hexDigit (n % 16) := by simp [hexDigit]
    rw [same]
    exact least _ (Nat.mod_lt _ (by decide))
  unfold escape
  repeat' split
  case isFalse.isFalse.isFalse.isFalse.isFalse.isFalse.isFalse.isTrue =>
    -- A control character is written as four such digits behind a backslash.
    intro d mem
    simp only [List.mem_cons, List.not_mem_nil, or_false] at mem
    rcases mem with rfl | rfl | rfl | rfl | rfl | rfl
    any_goals exact hex _
    all_goals decide
  case isFalse.isFalse.isFalse.isFalse.isFalse.isFalse.isFalse.isFalse plain =>
    -- Any other character stands for itself, and is no control character.
    intro d mem
    rw [List.mem_singleton.mp mem]
    exact Nat.not_lt.mp plain
  all_goals simp [Visible]

/-- A quoted text has no control character. -/
theorem quote_visible (text : String) : ∀ c ∈ quote text, Visible c := by
  -- Between the quotes there are only escapes.
  intro c mem
  simp only [quote, List.cons_append, List.mem_cons, List.mem_append, List.mem_flatMap,
    List.not_mem_nil, or_false] at mem
  rcases mem with rfl | ⟨d, -, mem⟩ | rfl
  · decide
  · exact escape_visible d c mem
  · decide

mutual

/-- A printed value has no control character. -/
theorem print_visible (value : Json) : ∀ c ∈ value.print, Visible c := by
  match value with
  | null | bool true | bool false => simp [print, Visible]
  | whole number =>
    -- An integer is written as its numeral.
    rw [print, ← Numeral.print_ofInt]
    exact Numeral.print_visible (Numeral.ofInt_wellFormed _)
  | float number =>
    rw [print]
    -- A float that is not finite is written as null.
    cases finite : number.isFinite with
    | false => simp [text_of_not_finite finite, Visible]
    | true =>
      rw [← Numeral.print_ofFloat finite]
      exact Numeral.print_visible (Numeral.ofFloat_wellFormed finite)
  | text content => exact quote_visible content
  | array items =>
    -- Brackets and commas are visible, and so are the items between them.
    have inside := printItems_visible items
    simpa [print, Visible, or_imp, forall_and] using inside
  | object members =>
    have inside := printMembers_visible members
    simpa [print, Visible, or_imp, forall_and] using inside

/-- Printed items have no control character. -/
theorem printItems_visible (items : List Json) : ∀ c ∈ printItems items, Visible c := by
  match items with
  | [] => simp [printItems]
  | [item] => exact item.print_visible
  -- A comma stands between two items.
  | item :: next :: items =>
    have first := item.print_visible
    have others := printItems_visible (next :: items)
    simpa [printItems, Visible, or_imp, forall_and] using ⟨first, others⟩

/-- Printed members have no control character. -/
theorem printMembers_visible (members : List (String × Json)) :
    ∀ c ∈ printMembers members, Visible c := by
  match members with
  | [] => simp [printMembers]
  | [(name, value)] =>
    have label := quote_visible name
    have first := value.print_visible
    simpa [printMembers, Visible, or_imp, forall_and] using ⟨label, first⟩
  -- A colon stands behind each name, and a comma between two members.
  | (name, value) :: next :: members =>
    have label := quote_visible name
    have first := value.print_visible
    have others := printMembers_visible (next :: members)
    simpa [printMembers, Visible, or_imp, forall_and] using ⟨label, first, others⟩

end

end Json

end Querent
