import Mathlib.Data.List.Chain
import Mathlib.Data.List.Infix
import Querent.Proofs.Placeholder.Translation

/-! Text in which no region begins, which is a statement's own from end to end. -/

namespace Querent

/-- Characters that open a region by themselves, or may open a dollar body. -/
def openers : List Char := ['\'', '"', '$']

/-- Whether two neighbours open no comment. -/
def Apart (c d : Char) : Prop :=
  ¬(c = '-' ∧ d = '-') ∧ ¬(c = '/' ∧ d = '*')

/-- Text without a quote, a dollar sign or the opening of a comment. -/
structure Calm (text : List Char) : Prop where
  own : ∀ c ∈ text, c ∉ openers
  apart : text.IsChain Apart

/-- Whether a text neither begins a region anywhere nor marks a placeholder. -/
def Quiet (text : String) : Prop :=
  (∀ c ∈ text.toList, c ∉ '?' :: openers) ∧ ¬['-', '-'] <:+: text.toList ∧
    ¬['/', '*'] <:+: text.toList

instance (text : String) : Decidable (Quiet text) :=
  -- Only the characters of the text are looked at, not all that there are.
  @instDecidableAnd _ _ (List.decidableBAll _ text.toList) inferInstance

/-- Neighbours are apart exactly where neither opening of a comment occurs. -/
theorem isChain_apart_iff {text : List Char} :
    text.IsChain Apart ↔ ¬['-', '-'] <:+: text ∧ ¬['/', '*'] <:+: text := by
  -- A pair occurs where its first character is followed by the second one.
  induction text with
  | nil => simp
  | cons c rest ih =>
    cases rest with
    | nil => simp [List.infix_cons_iff]
    | cons d rest =>
      have line : ['-', '-'] <:+: c :: d :: rest ↔
          (c = '-' ∧ d = '-') ∨ ['-', '-'] <:+: d :: rest := by
        rw [List.infix_cons_iff, pair_prefix_iff, List.head?_cons, Option.some.injEq]
      have block : ['/', '*'] <:+: c :: d :: rest ↔
          (c = '/' ∧ d = '*') ∨ ['/', '*'] <:+: d :: rest := by
        rw [List.infix_cons_iff, pair_prefix_iff, List.head?_cons, Option.some.injEq]
      rw [List.isChain_cons_cons, ih, line, block, not_or, not_or, Apart]
      exact and_and_and_comm

/-- A quiet text is calm. -/
theorem Quiet.calm {text : String} (quiet : Quiet text) : Calm text.toList where
  own c mem opens := quiet.1 c mem (List.mem_cons_of_mem _ opens)
  apart := isChain_apart_iff.mpr quiet.2

/-- A quiet text has no question mark. -/
theorem Quiet.unmarked {text : String} (quiet : Quiet text) : '?' ∉ text.toList :=
  fun mem => quiet.1 '?' mem (List.mem_cons_self ..)

/-- A calm text without a question mark is quiet. -/
theorem Calm.quiet {text : String} (calm : Calm text.toList) (unmarked : '?' ∉ text.toList) :
    Quiet text := by
  refine ⟨?_, isChain_apart_iff.mp calm.apart⟩
  intro c mem
  rw [List.mem_cons, not_or]
  refine ⟨?_, calm.own c mem⟩
  rintro rfl
  exact unmarked mem

namespace Calm

/-- A part of a calm text is calm. -/
theorem of_infix {part text : List Char} (calm : Calm text) (within : part <:+: text) :
    Calm part where
  own c mem := calm.own c (within.subset mem)
  apart := calm.apart.infix within

/-- Two calm texts are one where their ends are apart. -/
theorem append {front back : List Char} (calm : Calm front) (calm' : Calm back)
    (apart : ∀ c ∈ front.getLast?, ∀ d ∈ back.head?, Apart c d) : Calm (front ++ back) where
  own c mem := (List.mem_append.mp mem).elim (calm.own c) (calm'.own c)
  apart := List.isChain_append.mpr ⟨calm.apart, calm'.apart, apart⟩

end Calm

/-- No region begins at a character that opens none, by itself or with the next one. -/
theorem not_startsRegion {c : Char} {rest : List Char} (own : c ∉ openers)
    (apart : ∀ d ∈ rest.head?, Apart c d) : ¬StartsRegion (c :: rest) := by
  simp only [openers, List.mem_cons, List.not_mem_nil, or_false, not_or] at own
  obtain ⟨noLiteral, noName, noDollar⟩ := own
  rintro (⟨quote, isQuote, opens⟩ | opens | opens | ⟨tag, -, opens⟩)
  · -- The first character would be one of the two quotes.
    obtain rfl := (List.cons_prefix_cons.mp opens).1
    exact isQuote.elim noLiteral noName
  · obtain ⟨rfl, next⟩ := pair_prefix_iff.mp opens
    exact (apart _ next).1 ⟨rfl, rfl⟩
  · obtain ⟨rfl, next⟩ := pair_prefix_iff.mp opens
    exact (apart _ next).2 ⟨rfl, rfl⟩
  · -- A delimiter begins with a dollar sign.
    exact noDollar (List.cons_prefix_cons.mp opens).1.symm

/-- No region begins in front of a calm text. -/
theorem Calm.not_startsRegion {c : Char} {rest : List Char} (calm : Calm (c :: rest)) :
    ¬StartsRegion (c :: rest) := by
  -- The first two neighbours are apart.
  refine Querent.not_startsRegion (calm.own c (List.mem_cons_self ..)) ?_
  exact (List.isChain_cons.mp calm.apart).1

/-- Quiet text in front of a text that is split is split into its characters. -/
theorem PlaceholderStyle.Splits.behind {style : PlaceholderStyle} {text : String}
    {rest : List Char} {tokens : List Token} (splits : style.Splits rest tokens)
    (quiet : Quiet text) (apart : ∀ c ∈ text.toList.getLast?, ∀ d ∈ rest.head?, Apart c d) :
    style.Splits (text.toList ++ rest) (text.toList.map .plain ++ tokens) := by
  have joined : (text.toList ++ rest.head?.toList).IsChain Apart := by
    rw [List.isChain_append]
    refine ⟨quiet.calm.apart, ?_, ?_⟩
    · cases rest <;> simp
    · simpa using apart
  have own := quiet.1
  generalize text.toList = chars at joined own
  -- At each character no region begins, and no placeholder either.
  induction chars with
  | nil => exact splits
  | cons c chars ih =>
    rw [List.forall_mem_cons] at own
    obtain ⟨first, others⟩ := own
    rw [List.cons_append] at joined
    obtain ⟨next, later⟩ := List.isChain_cons.mp joined
    have same : (chars ++ rest.head?.toList).head? = (chars ++ rest).head? := by
      cases chars <;> cases rest <;> rfl
    rw [same] at next
    have bare : ¬(c = style.other.marker ∧ StartsDigit (chars ++ rest)) := by
      rintro ⟨rfl, -⟩
      cases style <;> exact absurd first (by decide)
    have closed : c ∉ openers := fun opens => first (List.mem_cons_of_mem _ opens)
    exact .cons (.plain (Querent.not_startsRegion closed next) bare) (ih later others)

end Querent
