import Querent.Proofs.Placeholder.Translation

/-! Where the depth of comments can be counted in thirty-two bits while a statement is read. -/

namespace Querent

/-- Whether the depth of a context, if it is one inside comments, can be counted. -/
def Context.Counted : Context → Prop :=
  Fits (· < UInt32.size)

/-- A depth is compared with the first one that cannot be counted. -/
instance : DecidablePred Context.Counted
  | .blockComment depth => inferInstanceAs (Decidable (depth < UInt32.size))
  | .plain | .literal | .quotedName | .lineComment | .dollarBody _ => isTrue trivial

/-- Whether the depth can be counted in every context in which a text is read, of which some
characters at the front are passed over. -/
def PlaceholderStyle.counts (style : PlaceholderStyle) : Nat → Context → List Char → Bool
  | _, context, [] => decide context.Counted
  | skip + 1, context, _ :: rest => style.counts skip context rest
  | 0, context, c :: rest =>
    let move := style.move context c rest
    decide context.Counted && style.counts move.skip move.context rest

namespace PlaceholderStyle

variable {style : PlaceholderStyle}

/-- The depth is counted at one character, and then where its move leads. -/
theorem counts_cons (context : Context) (c : Char) (rest : List Char) :
    style.counts 0 context (c :: rest) = (decide context.Counted &&
      style.counts (style.move context c rest).skip (style.move context c rest).context rest) :=
  rfl

/-- Nothing is counted at characters that are passed over. -/
theorem counts_skip (context : Context) (passed rest : List Char) {count : Nat}
    (size : passed.length = count) :
    style.counts count context (passed ++ rest) = style.counts 0 context rest := by
  subst size
  -- Each character that is passed over uses up one of the count.
  induction passed with
  | nil => rfl
  | cons c passed ih => rw [List.cons_append, List.length_cons, counts, ih]

/-- A context whose depth cannot be counted is one in which no text is read. -/
theorem counts_of_not_counted {context : Context} (not : ¬context.Counted) (text : List Char) :
    style.counts 0 context text = false := by
  cases text <;> simp [counts, not]

/-- Where every depth on the way can be counted, those behind it decide. -/
theorem Passes.counts_eq {context last : Context} {text written rest : List Char}
    (passes : style.Passes (· < UInt32.size) context text written last rest) :
    style.counts 0 context text = style.counts 0 last rest := by
  induction passes with
  | done => rfl
  | @step context _ _ _ _ _ _ _ _ met moves _ ih =>
    have counted : context.Counted := met
    rw [counts_cons, moves, counts_skip _ _ _ rfl, ih, decide_eq_true counted, Bool.true_and]

/-- What follows a comment is read only where the depths in the comment can be counted. -/
theorem counts_of_behind {body : List Char} (comment : Comment body) {depth : Nat}
    {rest : List Char} (behind : style.counts 0 (within depth) rest = false) :
    style.counts 0 (within (depth + 1)) (body ++ rest) = false := by
  induction comment generalizing depth rest with
  | close =>
    -- The closing pair leads to the context around the comment.
    have step : style.counts 0 (within (depth + 1)) (['*', '/'] ++ rest) =
        (decide (within (depth + 1)).Counted && style.counts 0 (within depth) rest) := by
      cases depth <;> rfl
    rw [step, behind, Bool.and_false]
  | @nested inner outer _ _ ihInner ihOuter =>
    have step : style.counts 0 (within (depth + 1)) ('/' :: '*' :: (inner ++ outer) ++ rest) =
        (decide (within (depth + 1)).Counted &&
          style.counts 0 (within (depth + 2)) (inner ++ outer ++ rest)) := rfl
    -- The rest follows the outer comment, and that the inner one.
    rw [step, List.append_assoc, ihInner (ihOuter behind), Bool.and_false]
  | char notOpen notClose inner ih =>
    rw [← inner.pair_prefix rest] at notOpen notClose
    have moves : style.move (within (depth + 1)) _ _ = _ := move_comment_char notOpen notClose
    rw [List.cons_append, counts_cons, moves]
    exact Bool.and_eq_false_iff.mpr (.inr (ih behind))

/-- A comment is not read where a place in it is inside of more comments than can be counted. -/
theorem counts_of_deep {more depth : Nat} {body : List Char} (deep : Deep more body)
    (many : UInt32.size ≤ depth + 1 + more) :
    style.counts 0 (within (depth + 1)) body = false := by
  induction deep generalizing depth with
  | here =>
    have not : ¬(within (depth + 1)).Counted := Nat.not_lt.mpr many
    exact counts_of_not_counted not _
  | @inside more text _ ih =>
    -- The place is one comment deeper, and one comment less is still to be opened.
    have step : style.counts 0 (within (depth + 1)) ('/' :: '*' :: text) =
        (decide (within (depth + 1)).Counted && style.counts 0 (within (depth + 2)) text) := rfl
    rw [step, ih (by omega), Bool.and_false]
  | @behind _ inner text comment _ ih =>
    have step : style.counts 0 (within (depth + 1)) ('/' :: '*' :: (inner ++ text)) =
        (decide (within (depth + 1)).Counted &&
          style.counts 0 (within (depth + 2)) (inner ++ text)) := rfl
    rw [step, counts_of_behind comment (ih many), Bool.and_false]
  | char notOpen notClose _ ih =>
    have moves : style.move (within (depth + 1)) _ _ = _ := move_comment_char notOpen notClose
    rw [counts_cons, moves]
    exact Bool.and_eq_false_iff.mpr (.inr (ih many))

end PlaceholderStyle

/-- A place inside of some more comments is inside of fewer as well. -/
theorem Deep.mono {more fewer : Nat} {text : List Char} (deep : Deep more text)
    (less : fewer ≤ more) : Deep fewer text := by
  induction deep generalizing fewer with
  | here =>
    rw [Nat.le_zero.mp less]
    exact .here
  | inside _ ih =>
    cases fewer with
    | zero => exact .here
    | succ fewer => exact .inside (ih (Nat.le_of_succ_le_succ less))
  | behind comment _ ih => exact .behind comment (ih less)
  | char notOpen notClose _ ih => exact .char notOpen notClose (ih less)

namespace PlaceholderStyle

variable {style : PlaceholderStyle}

/-- A text is read as far as its first token goes exactly if that is not too deep. -/
theorem Front.counts_iff {text rest : List Char} {token : Token}
    (front : style.Front text token rest) :
    style.counts 0 .plain text = true ↔ ¬token.TooDeep ∧ style.counts 0 .plain rest = true := by
  by_cases deep : token.TooDeep
  · -- The comment is opened, and then no text is read.
    refine iff_of_false ?_ fun both => both.1 deep
    obtain ⟨body, rfl, deep⟩ := deep
    have none : ∀ behind, Deep (UInt32.size - 1) (body ++ behind) →
        style.counts 0 .plain ('/' :: '*' :: (body ++ behind)) = false := by
      intro behind deep
      have step : style.counts 0 .plain ('/' :: '*' :: (body ++ behind)) =
          (true && style.counts 0 (within 1) (body ++ behind)) := rfl
      rw [step, counts_of_deep deep (by decide), Bool.and_false]
    rw [Bool.not_eq_true]
    cases front with
    | closed closed =>
      cases closed with
      | blockComment comment => exact none rest ((deep_append_iff comment _ rest).mpr deep)
    | unclosed unclosed =>
      have whole := none []
      rw [List.append_nil] at whole
      exact whole deep
  · rw [and_iff_right deep]
    obtain ⟨last, passes, counted, back⟩ := front.passes (· < UInt32.size) (by
      -- A place that is deep enough would make the token too deep.
      rintro body rfl more inside
      refine Nat.lt_of_not_le fun many => deep ⟨body, rfl, inside.mono ?_⟩
      simp only [UInt32.size] at many ⊢
      omega)
    rw [passes.counts_eq]
    rcases back with rfl | rfl
    · rfl
    · exact iff_of_true (decide_eq_true counted) rfl

/-- A text is read to its end exactly if no token of it is too deep. -/
theorem Splits.counts_iff {text : List Char} {tokens : List Token}
    (splits : style.Splits text tokens) :
    style.counts 0 .plain text = true ↔ ¬∃ token ∈ tokens, token.TooDeep := by
  induction splits with
  | nil => exact iff_of_true rfl (by simp)
  | cons front _ ih =>
    rw [front.counts_iff, ih]
    simp [not_or]

end PlaceholderStyle

/-- A token that is too deep has two characters for each comment that cannot be counted. -/
theorem Token.TooDeep.le_length {token : Token} (deep : token.TooDeep) (marker : Char) :
    2 * UInt32.size ≤ (token.spell marker).length := by
  obtain ⟨body, rfl, deep⟩ := deep
  have long := deep.le_length
  simp only [Token.spell, List.length_cons, UInt32.size] at long ⊢
  omega

end Querent
