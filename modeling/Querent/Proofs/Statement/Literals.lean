import Querent.Proofs.Statement.Quiet

/-! Values written into a statement with their quotes doubled are whole literals, one for each. -/

namespace Querent

/-- A text in which a quote that is written twice stands for one. -/
def undouble (quote : Char) : List Char → List Char
  | [] => []
  | [c] => [c]
  | c :: d :: rest =>
    if c = quote ∧ d = quote then quote :: undouble quote rest else c :: undouble quote (d :: rest)

/-- A character that is no quote stands for itself. -/
theorem undouble_cons {quote c : Char} (other : c ≠ quote) (rest : List Char) :
    undouble quote (c :: rest) = c :: undouble quote rest := by
  cases rest with
  | nil => rfl
  | cons d rest => rw [undouble, if_neg fun same => other same.1]

/-- Doubling the quotes of a text makes it the body of a literal, which stands for that text. -/
theorem doubled_doubleQuotes (text : String) :
    Doubled '\'' (doubleQuotes text).toList ∧
      undouble '\'' (doubleQuotes text).toList = text.toList := by
  rw [doubleQuotes, String.toList_ofList]
  generalize text.toList = chars
  -- A quote is written twice, and any other character once.
  induction chars with
  | nil => exact ⟨.nil, rfl⟩
  | cons c chars ih =>
    obtain ⟨doubled, same⟩ := ih
    rw [List.flatMap_cons]
    by_cases quote : c = '\''
    · subst quote
      refine ⟨.twice doubled, ?_⟩
      rw [if_pos rfl, List.cons_append, List.singleton_append, undouble, if_pos ⟨rfl, rfl⟩, same]
    · rw [if_neg quote, List.singleton_append]
      exact ⟨.char quote doubled, by rw [undouble_cons quote, same]⟩

namespace Token

/-- The kind and the text of a region. -/
def region? : Token → Option (Region × List Char)
  | region kind text => some (kind, text)
  | _ => none

/-- The character that a token of the statement's own text is. -/
def own? : Token → Option Char
  | plain c => some c
  | _ => none

end Token

/-- Whether a region is a whole literal whose body stands for the text of a value. -/
def SpellsLiteral (region : Region × List Char) (value : Value) : Prop :=
  ∃ body, region = (.quoted '\'', '\'' :: (body ++ ['\''])) ∧ Doubled '\'' body ∧
    undouble '\'' body = value.sqlText.toList

/-- What it means that values are sealed in a text: in both styles it reads as the same tokens, none
of them a placeholder, and its regions are whole literals that stand for the values in order. -/
structure Sealed (text : String) (values : List Value) (tokens : List Token) : Prop where
  splits : ∀ style : PlaceholderStyle, style.Splits text.toList tokens
  bare : ∀ digits, .placeholder digits ∉ tokens
  literals : List.Forall₂ SpellsLiteral (tokens.filterMap Token.region?) values

/-- Translation leaves a text in which values are sealed. -/
theorem Sealed.translate_eq {text : String} {values : List Value} {tokens : List Token}
    (sealed : Sealed text values tokens) (style : PlaceholderStyle) :
    style.translate text = text := by
  have splits := sealed.splits style
  -- Only the marks of placeholders would be changed.
  have differ : style.marker ≠ style.other.marker := by cases style <;> decide
  have same := (flatMap_spell_eq_iff differ tokens).mpr sealed.bare
  rw [PlaceholderStyle.translate, splits.restyle_eq, same, ← splits.eq_flatMap,
    String.ofList_toList]

namespace Template

/-- The tokens of a part whose value is written as a literal. -/
def pieceTokens : Piece → List Token
  | .fixed text => text.toList.map .plain
  | .slot value => [.region (.quoted '\'') (literal doubleQuotes value).toList]

/-- The tokens of a template with literals. -/
def tokens (template : Template) : List Token :=
  template.flatMap pieceTokens

/-- A literal is its body between quotes. -/
theorem toList_literal (escape : Escape) (value : Value) :
    (literal escape value).toList = '\'' :: ((escape value.sqlText).toList ++ ['\'']) := by
  simp [literal]

/-- With literals, a joined template of quiet texts splits into its tokens. -/
theorem splits_literals {template : Template} (joined : template.Joined)
    (quiet : template.Fixed Quiet) (style : PlaceholderStyle) :
    style.Splits (template.literals doubleQuotes).toList template.tokens := by
  -- The text of the first part is read, and then that of the others.
  induction template with
  | nil => exact .nil
  | cons piece rest ih =>
    have later := (List.isChain_cons.mp joined).2
    cases piece with
    | fixed text =>
      obtain ⟨first, others⟩ := (fixed_cons_fixed text rest).mp quiet
      rw [literals, String.toList_append]
      exact (ih later others).behind first (joined.behind_fixed (leads_literals rest doubleQuotes))
    | slot value =>
      have others := (fixed_cons_slot value rest).mp quiet
      -- What follows the literal is plain, so the quote in front of it closes the literal.
      have ends : (literals doubleQuotes rest).toList.head? ≠ some '\'' := by
        intro quote
        exact absurd (joined.behind_slot (leads_literals rest doubleQuotes) _ quote) (by decide)
      have closed : Closed (.quoted '\'') (literal doubleQuotes value).toList
          (literals doubleQuotes rest).toList := by
        rw [toList_literal]
        exact .quoted (.inl rfl) (doubled_doubleQuotes value.sqlText).1 ends
      rw [literals, String.toList_append]
      exact .cons (.closed closed) (ih later others)

/-- The tokens of a template have no placeholder among them. -/
theorem placeholder_notMem_tokens (template : Template) (digits : List Char) :
    .placeholder digits ∉ template.tokens := by
  intro mem
  obtain ⟨piece, -, inside⟩ := List.mem_flatMap.mp mem
  -- A fixed text gives single characters, and a slot gives a region.
  cases piece with
  | fixed text => simp [pieceTokens] at inside
  | slot value => simp [pieceTokens] at inside

/-- The regions of a template are literals that stand for its values. -/
theorem spellsLiteral_tokens (template : Template) :
    List.Forall₂ SpellsLiteral (template.tokens.filterMap Token.region?) template.values := by
  induction template with
  | nil => exact .nil
  | cons piece rest ih =>
    cases piece with
    | fixed text =>
      -- The statement's own characters are no regions.
      have none : (text.toList.map Token.plain).filterMap Token.region? = [] := by
        simp [List.filterMap_map, Function.comp_def, Token.region?]
      rw [tokens, List.flatMap_cons, List.filterMap_append, pieceTokens, none, List.nil_append]
      exact ih
    | slot value =>
      obtain ⟨doubled, same⟩ := doubled_doubleQuotes value.sqlText
      have spells : SpellsLiteral (.quoted '\'', (literal doubleQuotes value).toList) value :=
        ⟨(doubleQuotes value.sqlText).toList, by rw [toList_literal], doubled, same⟩
      exact .cons spells ih

/-- The values of a joined template of quiet texts are sealed in its text. -/
theorem sealed_literals {template : Template} (joined : template.Joined)
    (quiet : template.Fixed Quiet) :
    Sealed (template.literals doubleQuotes) template.values template.tokens where
  splits style := splits_literals joined quiet style
  bare digits := template.placeholder_notMem_tokens digits
  literals := template.spellsLiteral_tokens

/-- The fixed texts of a template in their places, whatever the values in its slots are. -/
def shape (template : Template) : List (Option String) :=
  template.map fun
    | .fixed text => some text
    | .slot _ => none

/-- The statement's own text is told by the fixed texts. -/
theorem own_tokens {template other : Template} (same : template.shape = other.shape) :
    template.tokens.map Token.own? = other.tokens.map Token.own? := by
  -- A fixed text is told character by character, and a slot as one token that is not.
  have told : ∀ template : Template, template.tokens.map Token.own? =
      template.shape.flatMap fun text? => text?.elim [none] fun text => text.toList.map some := by
    intro template
    induction template with
    | nil => rfl
    | cons piece rest ih =>
      rw [tokens, List.flatMap_cons, List.map_append, shape, List.map_cons, List.flatMap_cons]
      refine congrArg₂ (· ++ ·) ?_ ih
      cases piece with
      | fixed text => simp [pieceTokens, Function.comp_def, Token.own?]
      | slot value => rfl
  rw [told, told, same]

end Template

end Querent
