import Querent.Placeholder.Statement
import Querent.Proofs.Placeholder.Passing

/-! The machine that reads a statement rewrites exactly the placeholders that the grammar tells. -/

namespace Querent

namespace PlaceholderStyle

variable (style : PlaceholderStyle)

/-- One character is written, and the next ones are read as its move says. -/
theorem restyle_cons (context : Context) (c : Char) (rest : List Char) :
    style.restyle 0 context (c :: rest) = (style.move context c rest).write ::
      style.restyle (style.move context c rest).skip (style.move context c rest).context rest :=
  rfl

/-- Characters that are passed over are written as they are. -/
theorem restyle_skip (context : Context) (passed rest : List Char) {count : Nat}
    (size : passed.length = count) :
    style.restyle count context (passed ++ rest) = passed ++ style.restyle 0 context rest := by
  subst size
  -- Each character that is passed over uses up one of the count.
  induction passed with
  | nil => rfl
  | cons c passed ih => rw [List.cons_append, List.length_cons, restyle, ih, List.cons_append]

variable {style}

/-- What is written on the way stands in front of what is written for the rest. -/
theorem Passes.restyle_eq {fits : Nat → Prop} {context last : Context}
    {text written rest : List Char} (passes : style.Passes fits context text written last rest) :
    style.restyle 0 context text = written ++ style.restyle 0 last rest := by
  induction passes with
  | done => rfl
  | step _ moves _ ih =>
    rw [restyle_cons, moves, restyle_skip _ _ _ _ rfl, ih, List.cons_append, List.append_assoc]

/-- The characters written for a token are its own, but for the mark of a placeholder. -/
theorem Front.restyle_eq {text rest : List Char} {token : Token}
    (front : style.Front text token rest) :
    style.restyle 0 .plain text = token.spell style.marker ++ style.restyle 0 .plain rest := by
  -- However deep the comments are, the machine is back in the statement's own text behind them.
  obtain ⟨last, passes, -, back⟩ := front.passes (fun _ => True) fun _ _ _ _ => trivial
  rw [passes.restyle_eq]
  rcases back with rfl | rfl
  · rfl
  · simp only [restyle]

/-- The characters written for a text are those of its tokens, but for the marks. -/
theorem Splits.restyle_eq {text : List Char} {tokens : List Token}
    (splits : style.Splits text tokens) :
    style.restyle 0 .plain text = tokens.flatMap (Token.spell style.marker) := by
  -- What is written for a text is what is written for its tokens one after another.
  induction splits with
  | nil => rfl
  | cons front _ ih => rw [front.restyle_eq, ih, List.flatMap_cons]

/-- The tokens of a text make it up. -/
theorem Splits.eq_flatMap {text : List Char} {tokens : List Token}
    (splits : style.Splits text tokens) :
    text = tokens.flatMap (Token.spell style.other.marker) := by
  -- What is read is the tokens one after another.
  induction splits with
  | nil => rfl
  | cons front _ ih => rw [front.eq_spell, List.flatMap_cons, ← ih]

/-- Another character is written somewhere exactly where the text that is written is another one. -/
theorem rewrites_iff (skip : Nat) (context : Context) (text : List Char) :
    style.rewrites skip context text = true ↔ style.restyle skip context text ≠ text := by
  -- A character is compared with the one that is written for it, and then the others are.
  induction text generalizing skip context with
  | nil => simp [rewrites, restyle]
  | cons c rest ih =>
    cases skip with
    | zero => simp [rewrites, restyle, ih, -not_and, not_and_or]
    | succ skip => simp [rewrites, restyle, ih]

/-- A text has a placeholder that is rewritten exactly if its translation is another text. -/
theorem changes_iff (sql : String) : style.changes sql = true ↔ style.translate sql ≠ sql := by
  rw [changes, rewrites_iff, translate, ne_eq (String.ofList _), ← String.toList_inj,
    String.toList_ofList]

end PlaceholderStyle

/-- Two marks spell the same text exactly where no token is a placeholder. -/
theorem flatMap_spell_eq_iff {mark other : Char} (differ : mark ≠ other) (tokens : List Token) :
    tokens.flatMap (Token.spell mark) = tokens.flatMap (Token.spell other) ↔
      ∀ digits, .placeholder digits ∉ tokens := by
  induction tokens with
  | nil => simp
  | cons token tokens ih =>
    rw [List.flatMap_cons, List.flatMap_cons]
    cases token with
    -- Regions and plain characters have no mark, so the other tokens decide.
    | region kind text => simp [Token.spell, ih]
    | plain c => simp [Token.spell, ih]
    | placeholder digits =>
      -- The first mark tells the two texts apart.
      constructor
      · intro same
        exact absurd (List.cons.inj same).1 differ
      · intro none
        exact absurd (List.mem_cons_self ..) (none digits)

end Querent
