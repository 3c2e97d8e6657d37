import Mathlib.Data.List.Infix
import Querent.Proofs.Text.Blank
import Querent.Text.Search

/-! Words in a text: trimming leaves them, and a text that is joined with a space has those of both
parts, and perhaps one across the space. -/

namespace Querent

/-- A run of characters occurs in a text exactly if it is a part of it. -/
theorem occursIn_iff (run text : List Char) : occursIn run text = true ↔ run <:+: text := by
  induction text with
  | nil => cases run <;> simp [occursIn]
  | cons c rest ih =>
    rw [occursIn, Bool.or_eq_true, List.isPrefixOf_iff_prefix, ih, List.infix_cons_iff]

/-- A text holds another one exactly if that is a part of it. -/
theorem holds_iff (text run : String) : holds text run = true ↔ run.toList <:+: text.toList :=
  occursIn_iff run.toList text.toList

/-- A word that begins with no blank does not begin in the blanks before a text. -/
theorem infix_behind_blanks {word front : List Char} (first : ∀ c ∈ word.head?, isBlank c = false)
    (blank : ∀ c ∈ front, isBlank c = true) (text : List Char) :
    word <:+: front ++ text ↔ word <:+: text := by
  induction front with
  | nil => rfl
  | cons c front ih =>
    obtain ⟨own, others⟩ := List.forall_mem_cons.mp blank
    rw [List.cons_append, List.infix_cons_iff, ih others, or_iff_right_iff_imp]
    intro begins
    -- The word would have the blank as its first character.
    cases word with
    | nil => exact List.nil_infix
    | cons d word =>
      obtain rfl : d = c := (List.cons_prefix_cons.mp begins).1
      rw [first d rfl] at own
      cases own

/-- Trimming a text leaves the words that neither begin nor end with a blank. -/
theorem infix_trimEnds_iff {word : List Char} (first : ∀ c ∈ word.head?, isBlank c = false)
    (last : ∀ c ∈ word.getLast?, isBlank c = false) (text : List Char) :
    word <:+: trimEnds text ↔ word <:+: text := by
  obtain ⟨front, back, shape, frontBlank, backBlank⟩ := exists_trimEnds text
  -- Read from its end, the text has the blanks of its back in front.
  have reversed : word <:+: trimEnds text ++ back ↔ word <:+: trimEnds text := by
    rw [← List.reverse_infix, List.reverse_append, infix_behind_blanks (by simpa using last)
      (by simpa using backBlank), List.reverse_infix]
  conv_rhs => rw [shape]
  rw [infix_behind_blanks first frontBlank, reversed]

/-- A text is split at the last place of a character in one way only. -/
theorem last_split_unique {c : Char} {front front' back back' : List Char} (absent : c ∉ back)
    (absent' : c ∉ back') (same : front ++ c :: back = front' ++ c :: back') :
    front = front' ∧ back = back' := by
  -- Of two places, the earlier one would have the later one in its back.
  rcases List.append_eq_append_iff.mp same with ⟨between, rfl, split⟩ | ⟨between, rfl, split⟩
  · cases between with
    | nil => simpa using split
    | cons d between =>
      rw [(List.cons.inj split).2] at absent
      simp at absent
  · -- Neither is the second one the earlier.
    cases between with
    | nil => simpa using split.symm
    | cons d between =>
      rw [(List.cons.inj split).2] at absent'
      simp at absent'

/-- A word in a text that is joined by a character stands in one of the parts, or across that
character. -/
theorem infix_append_cons_iff (word front back : List Char) (c : Char) :
    word <:+: front ++ c :: back ↔ word <:+: front ∨ word <:+: back ∨
      ∃ left right, word = left ++ c :: right ∧ left <:+ front ∧ right <+: back := by
  constructor
  · rintro ⟨before, behind, shape⟩
    rcases List.append_eq_append_iff.mp shape with ⟨rest, split, -⟩ | ⟨rest, split, others⟩
    · exact .inl ⟨before, rest, split.symm⟩
    · cases rest with
      | nil => exact .inl ⟨before, [], by simpa using split⟩
      | cons d rest =>
        -- The word ends behind the character.
        obtain ⟨rfl, rfl⟩ := List.cons.inj others
        rcases List.append_eq_append_iff.mp split with ⟨left, own, across⟩ | ⟨left, own, inside⟩
        · exact .inr (.inr ⟨left, rest, across, ⟨before, own.symm⟩, List.prefix_append ..⟩)
        · cases left with
          | nil =>
            exact .inr (.inr ⟨[], rest, inside.symm, List.nil_suffix, List.prefix_append ..⟩)
          | cons e left =>
            obtain ⟨-, rfl⟩ := List.cons.inj inside
            exact .inr (.inl ⟨left, behind, rfl⟩)
  · rintro (inside | inside | ⟨left, right, rfl, ⟨before, rfl⟩, ⟨behind, rfl⟩⟩)
    · exact inside.trans (List.prefix_append ..).isInfix
    · exact inside.trans ((List.suffix_cons ..).trans (List.suffix_append ..)).isInfix
    · exact ⟨before, behind, by simp⟩

/-- A word without a certain character stands in one of the parts of a text that is joined by that
character. -/
theorem infix_append_solid_iff {word : List Char} {c : Char} (solid : c ∉ word)
    (front back : List Char) :
    word <:+: front ++ c :: back ↔ word <:+: front ∨ word <:+: back := by
  rw [infix_append_cons_iff]
  refine or_congr_right (or_iff_left ?_)
  rintro ⟨left, right, rfl, -⟩
  exact solid (List.mem_append_right _ (List.mem_cons_self ..))

/-- Where a word without a certain character stands in a text that is joined by that character, it
stands in one of the parts. -/
theorem split_of_solid {word front back before behind : List Char} {c : Char} (solid : c ∉ word)
    (some : word ≠ []) (shape : front ++ c :: back = before ++ (word ++ behind)) :
    (∃ rest, front = before ++ (word ++ rest)) ∨
      ∃ rest, before = front ++ c :: rest ∧ back = rest ++ (word ++ behind) := by
  rcases List.append_eq_append_iff.mp shape with ⟨rest, split, others⟩ | ⟨rest, split, others⟩
  · cases rest with
    | nil =>
      -- The word would begin with the character.
      cases word with
      | nil => exact absurd rfl some
      | cons d word =>
        obtain rfl : c = d := (List.cons.inj others).1
        exact absurd (List.mem_cons_self ..) solid
    | cons d rest =>
      obtain ⟨rfl, inside⟩ := List.cons.inj others
      exact .inr ⟨rest, split, inside⟩
  · rcases List.append_eq_append_iff.mp others with ⟨rest', own, -⟩ | ⟨rest', own, others⟩
    · exact .inl ⟨rest', by rw [split, own]⟩
    · cases rest' with
      | nil => exact .inl ⟨[], by rw [split, own, List.append_nil, List.append_nil]⟩
      | cons d rest' =>
        -- The word would go on to the character.
        obtain ⟨rfl, -⟩ := List.cons.inj others
        exact absurd (own ▸ List.mem_append_right _ (List.mem_cons_self ..)) solid

end Querent
