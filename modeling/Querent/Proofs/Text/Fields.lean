import Querent.Proofs.Text.Search

/-! Texts joined by two spaces: the fields of the whole are the texts again, and a word of the whole
stands in one of them. -/

namespace Querent

/-- Whether no two spaces stand side by side in a text. -/
def SingleSpaced (text : List Char) : Prop :=
  ¬[' ', ' '] <:+: text

instance (text : List Char) : Decidable (SingleSpaced text) :=
  inferInstanceAs (Decidable (¬_))

/-- Spaces stand alone behind a first character if they do so in the rest, and the rest does not
begin with a space behind another one. -/
theorem singleSpaced_cons_iff (c : Char) (text : List Char) :
    SingleSpaced (c :: text) ↔ (c = ' ' → text.head? ≠ some ' ') ∧ SingleSpaced text := by
  have begins : [' ', ' '] <+: c :: text ↔ c = ' ' ∧ text.head? = some ' ' := by
    cases text <;> simp [List.cons_prefix_cons, eq_comm]
  rw [SingleSpaced, List.infix_cons_iff, begins, not_or, SingleSpaced, not_and]

/-- A space behind a text stands alone if the text does not end with another one. -/
theorem singleSpaced_concat_iff (text : List Char) :
    SingleSpaced (text ++ [' ']) ↔ text.getLast? ≠ some ' ' ∧ SingleSpaced text := by
  -- Read from its end, the text has the space in front.
  have reversed : ∀ text : List Char, SingleSpaced text.reverse ↔ SingleSpaced text := fun text =>
    not_congr (@List.reverse_infix _ [' ', ' '] _)
  rw [← reversed, List.reverse_concat, singleSpaced_cons_iff, reversed, List.head?_reverse]
  simp

/-- What comes behind the space of a single-spaced text begins with none. -/
theorem fields_cons {c : Char} {text field : List Char} {others : List (List Char)}
    (apart : c = ' ' → text.head? ≠ some ' ') (split : fields text = field :: others) :
    fields (c :: text) = (c :: field) :: others := by
  rw [fields, split]
  -- Two spaces in front would be a separator.
  rintro rest rfl rfl
  exact apart rfl rfl

/-- A single-spaced text is one field. -/
theorem fields_singleSpaced {text : List Char} (single : SingleSpaced text) :
    fields text = [text] := by
  induction text with
  | nil => rfl
  | cons c text ih =>
    obtain ⟨apart, rest⟩ := (singleSpaced_cons_iff c text).mp single
    exact fields_cons apart (ih rest)

/-- A text that stays single-spaced before a space is the first field in front of two of them. -/
theorem fields_append {text : List Char} (single : SingleSpaced (text ++ [' ']))
    (rest : List Char) : fields (text ++ ' ' :: ' ' :: rest) = text :: fields rest := by
  induction text with
  | nil => rfl
  | cons c text ih =>
    obtain ⟨apart, behind⟩ := (singleSpaced_cons_iff c (text ++ [' '])).mp single
    refine fields_cons ?_ (ih behind)
    -- The next character is the one that stands before the single space.
    cases text with
    | nil => exact apart
    | cons d text => exact apart

/-- The characters of texts that two spaces join. -/
theorem joined_toList (text next : String) (texts : List String) :
    (joinWith "  " (text :: next :: texts)).toList =
      text.toList ++ ' ' :: ' ' :: (joinWith "  " (next :: texts)).toList := by
  simp [joinWith]

/-- Texts that stay single-spaced before a space are the fields of what two spaces join them to. -/
theorem fields_joinWith {texts : List String} (some : texts ≠ [])
    (single : ∀ text ∈ texts, SingleSpaced (text.toList ++ [' '])) :
    fields (joinWith "  " texts).toList = texts.map String.toList := by
  induction texts with
  | nil => exact absurd rfl some
  | cons text texts ih =>
    obtain ⟨own, others⟩ := List.forall_mem_cons.mp single
    cases texts with
    | nil => exact fields_singleSpaced ((singleSpaced_concat_iff _).mp own).2
    | cons next texts =>
      rw [joined_toList, fields_append own, ih (List.cons_ne_nil next texts) others]
      rfl

/-- A word that stays single-spaced between two spaces stands in one of the texts that two spaces
join. -/
theorem exists_of_infix_joined {word : List Char}
    (single : SingleSpaced (' ' :: (word ++ [' ']))) {texts : List String}
    (within : word <:+: (joinWith "  " texts).toList) : ∃ text ∈ texts, word <:+: text.toList := by
  obtain ⟨first, single⟩ := (singleSpaced_cons_iff _ _).mp single
  obtain ⟨last, single⟩ := (singleSpaced_concat_iff _).mp single
  induction texts with
  | nil =>
    -- No text has a word, and the empty word would leave two spaces side by side.
    obtain rfl := List.infix_nil.mp within
    exact absurd rfl (first rfl)
  | cons text texts ih =>
    cases texts with
    | nil => exact ⟨text, List.mem_cons_self .., within⟩
    | cons next texts =>
      rw [joined_toList] at within
      rcases (infix_append_cons_iff word text.toList _ ' ').mp within with
        here | behind | ⟨left, right, rfl, -, begins⟩
      · exact ⟨text, List.mem_cons_self .., here⟩
      · rcases List.infix_cons_iff.mp behind with begins | later
        · -- The word would begin with a space.
          cases word with
          | nil => exact absurd rfl (first rfl)
          | cons c word =>
            obtain ⟨rfl, -⟩ := List.cons_prefix_cons.mp begins
            exact absurd rfl (first rfl)
        · obtain ⟨found, mem, inside⟩ := ih later
          exact ⟨found, List.mem_cons_of_mem _ mem, inside⟩
      · -- The word would end with the first space, or have both of them.
        cases right with
        | nil => exact absurd (by simp) last
        | cons c right =>
          obtain ⟨rfl, -⟩ := List.cons_prefix_cons.mp begins
          exact absurd ⟨left, right, by simp⟩ single

end Querent
