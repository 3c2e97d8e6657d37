import Querent.Proofs.Placeholder.Reading

/-! Reading a token leads the machine from the statement's own text back to it, over contexts that
the nesting of comments bounds. -/

namespace Querent

/-- Two characters stand in front of a text if they are its first two. -/
theorem pair_prefix_iff {a b c : Char} {text : List Char} :
    [a, b] <+: c :: text ↔ c = a ∧ text.head? = some b := by
  -- The first characters agree, and the second one is looked up in what follows.
  rw [List.cons_prefix_cons, eq_comm]
  cases text <;> simp [eq_comm]

section

variable {more : Nat} {text : List Char}

/-- A comment that has ended has no place left inside of it. -/
theorem deep_close_iff : Deep more ('*' :: '/' :: text) ↔ more = 0 := by
  constructor
  · intro deep
    cases deep with
    | here => rfl
    | char _ notClose _ => exact absurd ⟨text, rfl⟩ notClose
  · rintro rfl
    exact .here

/-- Behind a character that neither opens nor ends a comment there are the same places. -/
theorem deep_char_iff {c : Char} (notOpen : ¬['/', '*'] <+: c :: text)
    (notClose : ¬['*', '/'] <+: c :: text) : Deep more (c :: text) ↔ more = 0 ∨ Deep more text := by
  constructor
  · intro deep
    cases deep with
    | here => exact .inl rfl
    | inside _ => exact absurd ⟨_, rfl⟩ notOpen
    | behind _ _ => exact absurd ⟨_, rfl⟩ notOpen
    | char _ _ deep => exact .inr deep
  · rintro (rfl | deep)
    · exact .here
    · exact .char notOpen notClose deep

/-- Where a comment opens and ends, a place is inside of it or behind it. -/
theorem deep_nested_iff {inner : List Char} (comment : Comment inner) :
    Deep more ('/' :: '*' :: (inner ++ text)) ↔
      more = 0 ∨ (∃ fewer, more = fewer + 1 ∧ Deep fewer (inner ++ text)) ∨ Deep more text := by
  constructor
  · intro deep
    generalize whole : inner ++ text = behind at deep
    cases deep with
    | here => exact .inl rfl
    | inside deep => exact .inr (.inl ⟨_, rfl, whole ▸ deep⟩)
    | behind comment' deep =>
      -- Only one comment ends there.
      obtain ⟨-, rfl⟩ := comment.closes_once comment' whole
      exact .inr (.inr deep)
    | char notOpen _ _ => exact absurd ⟨_, rfl⟩ notOpen
  · rintro (rfl | ⟨fewer, rfl, deep⟩ | deep)
    · exact .here
    · exact .inside deep
    · exact .behind comment deep

end

/-- What stands behind a comment is not inside of it. -/
theorem deep_append_iff {body : List Char} (comment : Comment body) (more : Nat)
    (rest : List Char) : Deep more (body ++ rest) ↔ Deep more body := by
  induction comment generalizing more rest with
  | close => exact deep_close_iff.trans deep_close_iff.symm
  | nested inner _ ihInner ihOuter =>
    -- Places in the inner comment and places behind it are told apart.
    rw [List.cons_append, List.cons_append, List.append_assoc, deep_nested_iff inner,
      deep_nested_iff inner, ihOuter more rest]
    simp only [ihInner]
  | char notOpen notClose inner ih =>
    rw [List.cons_append, deep_char_iff notOpen notClose,
      deep_char_iff (by rwa [inner.pair_prefix rest]) (by rwa [inner.pair_prefix rest]), ih]

/-- A place inside of some more comments takes two characters for each of them. -/
theorem Deep.le_length {more : Nat} {text : List Char} (deep : Deep more text) :
    2 * more ≤ text.length := by
  induction deep with
  | here => omega
  | inside _ ih => simp only [List.length_cons]; omega
  | behind _ _ ih => simp only [List.length_cons, List.length_append]; omega
  | char _ _ _ ih => simp only [List.length_cons]; omega

/-- The context inside a number of comments, which for none is the statement's own text. -/
def within : Nat → Context
  | 0 => .plain
  | depth + 1 => .blockComment (depth + 1)

/-- The context between two quotes. -/
def quotedContext (quote : Char) : Context :=
  if quote = '\'' then .literal else .quotedName

/-- Whether the depth of a context, if it is one inside comments, satisfies a condition. -/
def Context.Fits (fits : Nat → Prop) : Context → Prop
  | .blockComment depth => fits depth
  | _ => True

namespace PlaceholderStyle

/-- Reading a text leads from one context to another in front of a rest, with some characters
written for it, and each context on the way has a depth that fits. -/
inductive Passes (style : PlaceholderStyle) (fits : Nat → Prop) :
    Context → List Char → List Char → Context → List Char → Prop
  | done {context : Context} {rest : List Char} : Passes style fits context rest [] context rest
  | step {context next last : Context} {c mark : Char} {passed back written rest : List Char} :
      context.Fits fits →
      style.move context c (passed ++ back) = ⟨mark, passed.length, next⟩ →
      Passes style fits next back written last rest →
      Passes style fits context (c :: (passed ++ back)) (mark :: (passed ++ written)) last rest

section

variable {style : PlaceholderStyle} {fits : Nat → Prop} {context next last : Context}
  {text between rest written more : List Char}

/-- What is read in two parts is read. -/
theorem Passes.trans (passes : style.Passes fits context text written next between)
    (passes' : style.Passes fits next between more last rest) :
    style.Passes fits context text (written ++ more) last rest := by
  induction passes with
  | done => exact passes'
  | step met moves _ ih =>
    rw [List.cons_append, List.append_assoc]
    exact .step met moves (ih passes')

/-- A character that nothing is passed over with. -/
theorem Passes.cons {c mark : Char} (met : context.Fits fits)
    (moves : style.move context c text = ⟨mark, 0, next⟩)
    (passes : style.Passes fits next text written last rest) :
    style.Passes fits context (c :: text) (mark :: written) last rest := by
  have alone : style.move context c ([] ++ text) = ⟨mark, ([] : List Char).length, next⟩ := moves
  exact .step met alone passes

/-- A pair of which the second character is passed over. -/
theorem Passes.pair {c d mark : Char} (met : context.Fits fits)
    (moves : style.move context c (d :: text) = ⟨mark, 1, next⟩)
    (passes : style.Passes fits next text written last rest) :
    style.Passes fits context (c :: d :: text) (mark :: d :: written) last rest := by
  have paired : style.move context c ([d] ++ text) = ⟨mark, [d].length, next⟩ := moves
  exact .step met paired passes

end

section

variable {style : PlaceholderStyle}

/-- Between quotes of either kind the moves are the same. -/
theorem move_quoted {quote : Char} (isQuote : IsQuote quote) (c : Char) (rest : List Char) :
    style.move (quotedContext quote) c rest = quotedMove quote (quotedContext quote) c rest := by
  rcases isQuote with rfl | rfl <;> rfl

/-- Where neither pair stands ahead, the machine keeps its depth. -/
theorem move_comment_char {depth : Nat} {c : Char} {rest : List Char}
    (notOpen : ¬['/', '*'] <+: c :: rest) (notClose : ¬['*', '/'] <+: c :: rest) :
    style.move (.blockComment depth) c rest = ⟨c, 0, .blockComment depth⟩ := by
  rw [pair_prefix_iff] at notOpen notClose
  rw [move, commentMove, if_neg notOpen, if_neg notClose]

/-- In a dollar body the move tells whether the delimiter stands ahead. -/
theorem move_dollar (tag : List Char) (c : Char) (rest : List Char) :
    style.move (.dollarBody tag) c rest =
      if delimiter tag <+: c :: rest then ⟨c, tag.length + 1, .plain⟩
      else ⟨c, 0, .dollarBody tag⟩ := by
  -- The machine asks whether the rest has the delimiter as its front.
  refine if_congr ?_ rfl rfl
  rw [List.isPrefixOf_iff_prefix, delimiter, List.cons_prefix_cons, eq_comm]

/-- A tag is found behind a dollar sign exactly where its delimiter stands. -/
theorem dollarTag?_eq_some_iff {tag rest : List Char} :
    dollarTag? rest = some tag ↔ IsTag tag ∧ delimiter tag <+: '$' :: rest := by
  simp only [dollarTag?, Option.ite_none_right_eq_some, Option.some.injEq, delimiter,
    List.cons_prefix_cons, true_and]
  constructor
  · -- The tag is the longest run of tag characters, and a dollar sign ends it.
    rintro ⟨ends, rfl⟩
    refine ⟨fun c member => List.mem_takeWhile_imp member, ?_⟩
    obtain ⟨more, dropped⟩ := List.head?_eq_some_iff.mp ends
    refine ⟨more, ?_⟩
    calc rest.takeWhile isTagChar ++ ['$'] ++ more
        = rest.take (rest.takeWhile isTagChar).length ++
            rest.drop (rest.takeWhile isTagChar).length := by
          rw [dropped, ← List.prefix_iff_eq_take.mp (List.takeWhile_prefix _)]
          simp
      _ = rest := List.take_append_drop _ _
  · rintro ⟨isTag, more, rfl⟩
    -- The dollar sign is no tag character, so the tag ends there.
    have found : (tag ++ ['$'] ++ more).takeWhile isTagChar = tag := by
      rw [List.append_assoc, List.takeWhile_append_of_pos isTag]
      simp [isTagChar]
    rw [found]
    simp

/-- Digits come next exactly where some are taken. -/
theorem takeWhile_isDigit_ne_nil {rest : List Char} :
    rest.takeWhile Char.isDigit ≠ [] ↔ StartsDigit rest := by
  -- The first character decides.
  cases rest with
  | nil => simp [StartsDigit]
  | cons c rest => simp [StartsDigit, List.takeWhile_cons]

/-- Outside of regions, the move rewrites a mark with its digits and nothing else. -/
theorem move_own {c : Char} {rest : List Char} (own : ¬StartsRegion (c :: rest)) :
    style.move .plain c rest =
      if c = style.other.marker ∧ StartsDigit rest then
        ⟨style.marker, (rest.takeWhile Char.isDigit).length, .plain⟩
      else ⟨c, 0, .plain⟩ := by
  -- None of the openings is there, which rules out the branches one after another.
  simp only [StartsRegion, not_or, not_exists, not_and] at own
  obtain ⟨noQuote, noLine, noBlock, noTag⟩ := own
  have noLiteral : c ≠ '\'' := fun same => noQuote '\'' (.inl rfl) ⟨rest, by rw [same]; rfl⟩
  have noName : c ≠ '"' := fun same => noQuote '"' (.inr rfl) ⟨rest, by rw [same]; rfl⟩
  have noDollar : (if c = '$' then dollarTag? rest else none) = none := by
    -- No tag is found behind a dollar sign, for its delimiter would open a region.
    split
    · subst c
      refine Option.eq_none_iff_forall_ne_some.mpr fun tag found => ?_
      obtain ⟨isTag, opens⟩ := dollarTag?_eq_some_iff.mp found
      exact noTag tag isTag opens
    · rfl
  rw [pair_prefix_iff] at noLine noBlock
  rw [move, plainMove, if_neg noLiteral, if_neg noName, if_neg noLine, if_neg noBlock, noDollar]
  exact if_congr (and_congr_right fun _ => takeWhile_isDigit_ne_nil) rfl rfl

end

variable (style : PlaceholderStyle) (fits : Nat → Prop)

/-- Between quotes no comment is open. -/
theorem fits_quotedContext (quote : Char) : (quotedContext quote).Fits fits := by
  unfold quotedContext
  split <;> trivial

/-- A doubled body is passed between its quotes, whatever follows it. -/
theorem passes_doubled {quote : Char} {body : List Char} (isQuote : IsQuote quote)
    (doubled : Doubled quote body) (rest : List Char) :
    style.Passes fits (quotedContext quote) (body ++ rest) body (quotedContext quote) rest := by
  -- The machine is inside of the quotes before and after the body.
  induction doubled with
  | nil => exact .done
  | @char c body differs _ ih =>
    -- A plain character leaves the machine where it is.
    refine .cons (fits_quotedContext fits quote) ?_ ih
    rw [move_quoted isQuote, quotedMove, if_neg differs]
  | @twice body _ ih =>
    -- The first of two quotes has the second one passed over.
    refine .pair (fits_quotedContext fits quote) ?_ ih
    rw [move_quoted isQuote, quotedMove, if_pos rfl, if_pos (by simp)]

/-- A quote that stands alone leads back to the statement's own text. -/
theorem passes_closing {quote : Char} {rest : List Char} (isQuote : IsQuote quote)
    (ends : rest.head? ≠ some quote) :
    style.Passes fits (quotedContext quote) (quote :: rest) [quote] .plain rest := by
  -- A quote with no other one behind it is where the quotes end.
  refine .cons (fits_quotedContext fits quote) ?_ .done
  rw [move_quoted isQuote, quotedMove, if_pos rfl, if_neg ends]

/-- The first quote of a literal or a name leads inside it. -/
theorem passes_quote {quote : Char} (isQuote : IsQuote quote) (rest : List Char) :
    style.Passes fits .plain (quote :: rest) [quote] (quotedContext quote) rest := by
  refine .cons trivial ?_ .done
  rcases isQuote with rfl | rfl <;> rfl

/-- A comment goes on up to the end of the line. -/
theorem passes_line {body : List Char} (inside : '\n' ∉ body) (rest : List Char) :
    style.Passes fits .lineComment (body ++ rest) body .lineComment rest := by
  induction body with
  | nil => exact .done
  | cons c body ih =>
    -- No character of the body is the newline that would end the comment.
    have differs : c ≠ '\n' := fun same => inside (by simp [same])
    refine .cons trivial ?_ (ih fun member => inside (List.mem_cons_of_mem _ member))
    rw [move, if_neg differs]

/-- A comment ends in the context around it, with those inside it read on the way. -/
theorem passes_comment {body : List Char} (comment : Comment body) {depth : Nat}
    (bounded : ∀ more, Deep more body → fits (depth + 1 + more)) (rest : List Char) :
    style.Passes fits (within (depth + 1)) (body ++ rest) body (within depth) rest := by
  -- The depth grows by one for each comment inside, which gives it back at its own end.
  induction comment generalizing depth rest with
  | close =>
    refine .pair (bounded 0 .here) ?_ .done
    cases depth <;> rfl
  | @nested inner outer comment _ ihInner ihOuter =>
    have bounded' : ∀ more, Deep more inner → fits (depth + 1 + 1 + more) := by
      intro more deep
      have fit := bounded (more + 1) (.inside ((deep_append_iff comment more outer).mpr deep))
      rwa [← Nat.add_assoc, Nat.add_right_comm] at fit
    -- Both comments are read to their ends, first the inner one.
    have both := (ihInner bounded' (outer ++ rest)).trans
      (ihOuter (fun more deep => bounded more (.behind comment deep)) rest)
    rw [← List.append_assoc] at both
    exact .pair (bounded 0 .here) rfl both
  | char notOpen notClose inner ih =>
    have passes := ih (fun more deep => bounded more (.char notOpen notClose deep)) rest
    rw [← inner.pair_prefix rest] at notOpen notClose
    exact .cons (bounded 0 .here) (move_comment_char notOpen notClose) passes

/-- A comment that never ends is passed to the end of the text. -/
theorem passes_endless_comment {depth : Nat} {body : List Char}
    (endless : ∀ whole, whole <+: body → ¬Comment whole)
    (bounded : ∀ more, Deep more body → fits (depth + 1 + more)) :
    ∃ inside, style.Passes fits (within (depth + 1)) body body (within (inside + 1)) [] ∧
      fits (inside + 1) := by
  -- A comment inside may end, but what follows it does not.
  induction size : body.length using Nat.strongRecOn generalizing body depth with
  | ind size ih =>
    subst size
    have fit := bounded 0 .here
    match body with
    | [] => exact ⟨depth, .done, fit⟩
    | c :: body =>
      by_cases opens : ['/', '*'] <+: c :: body
      · obtain ⟨tail, same⟩ := opens
        obtain ⟨rfl, rfl⟩ : '/' = c ∧ '*' :: tail = body := by simpa using same
        simp only [List.length_cons] at ih
        have bounded' : ∀ more, Deep more tail → fits (depth + 1 + 1 + more) := by
          intro more deep
          have fit := bounded (more + 1) (.inside deep)
          rwa [← Nat.add_assoc, Nat.add_right_comm] at fit
        by_cases ends : ∃ whole, whole <+: tail ∧ Comment whole
        · -- The comment inside ends, so that what follows it cannot end this one.
          obtain ⟨whole, ⟨outer, rfl⟩, comment⟩ := ends
          rw [List.length_append] at ih
          have endless' : ∀ other, other <+: outer → ¬Comment other := by
            intro other front comment'
            refine endless _ ?_ (.nested comment comment')
            simpa using front
          obtain ⟨inside, passes, fit'⟩ := ih _ (by omega) endless'
            (fun more deep => bounded more (.behind comment deep)) rfl
          have inner := style.passes_comment fits comment
            (fun more deep => bounded' more ((deep_append_iff comment more outer).mpr deep)) outer
          exact ⟨inside, .pair fit rfl (inner.trans passes), fit'⟩
        · -- The comment inside never ends.
          obtain ⟨inside, passes, fit'⟩ := ih _ (by omega)
            (fun whole front comment => ends ⟨whole, front, comment⟩) bounded' rfl
          exact ⟨inside, .pair fit rfl passes, fit'⟩
      · by_cases closes : ['*', '/'] <+: c :: body
        · -- A closing pair would be a comment at its end.
          exact absurd .close (endless _ closes)
        · -- Any other character is passed on, and the rest finds no end either.
          have inner : ∀ whole, whole <+: body → ¬Comment whole := by
            rintro whole ⟨outer, rfl⟩ comment
            rw [comment.pair_prefix outer] at opens closes
            exact endless (c :: whole) (by simp) (.char opens closes comment)
          obtain ⟨inside, passes, fit'⟩ := ih _ (by simp) inner
            (fun more deep => bounded more (.char opens closes deep)) rfl
          exact ⟨inside, .cons fit (move_comment_char opens closes) passes, fit'⟩

/-- A dollar body is passed up to the first place of its delimiter, and left behind that. -/
theorem passes_dollar {tag body : List Char} (rest : List Char)
    (shortest : ∀ shorter, shorter ++ delimiter tag <+: body ++ delimiter tag → shorter = body) :
    style.Passes fits (.dollarBody tag) (body ++ (delimiter tag ++ rest))
      (body ++ delimiter tag) .plain rest := by
  induction body with
  | nil =>
    -- The delimiter stands right here, and all of it is passed over.
    have closes : delimiter tag <+: '$' :: (tag ++ ['$'] ++ rest) := ⟨rest, rfl⟩
    have passes : style.Passes fits (.dollarBody tag) ('$' :: (tag ++ ['$'] ++ rest))
        ('$' :: (tag ++ ['$'] ++ [])) .plain rest := by
      refine .step trivial ?_ .done
      rw [move_dollar, if_pos closes, List.length_append, List.length_singleton]
    rwa [List.append_nil] at passes
  | cons c body ih =>
    -- An earlier delimiter would make the body shorter.
    have goesOn : ¬delimiter tag <+: c :: (body ++ (delimiter tag ++ rest)) := by
      intro front
      have early : delimiter tag <+: c :: body ++ delimiter tag :=
        List.prefix_of_prefix_length_le front ⟨rest, by simp⟩ (by simp; omega)
      exact List.cons_ne_nil c body (shortest [] early).symm
    have moves : style.move (.dollarBody tag) c (body ++ (delimiter tag ++ rest)) =
        ⟨c, 0, .dollarBody tag⟩ := (move_dollar tag c _).trans (if_neg goesOn)
    refine .cons trivial moves (ih ?_)
    -- A shorter body for the rest would be a shorter one for the whole.
    intro shorter front
    exact (List.cons.inj (shortest (c :: shorter) (by simpa using front))).2

/-- A dollar body whose delimiter never comes is passed to the end of the text. -/
theorem passes_endless_dollar {tag body : List Char} (endless : ¬delimiter tag <:+: body) :
    style.Passes fits (.dollarBody tag) body body (.dollarBody tag) [] := by
  induction body with
  | nil => exact .done
  | cons c body ih =>
    -- The delimiter is neither here nor further on.
    rw [List.infix_cons_iff, not_or] at endless
    refine .cons trivial ?_ (ih endless.2)
    rw [move_dollar, if_neg endless.1]

/-- The first delimiter of a dollar body leads inside it. -/
theorem passes_delimiter {tag : List Char} (isTag : IsTag tag) (rest : List Char) :
    style.Passes fits .plain (delimiter tag ++ rest) (delimiter tag) (.dollarBody tag) rest := by
  -- The tag is found, and all of the delimiter is passed over.
  have found : dollarTag? (tag ++ '$' :: rest) = some tag :=
    dollarTag?_eq_some_iff.mpr ⟨isTag, rest, by simp [delimiter]⟩
  have passes : style.Passes fits .plain ('$' :: (tag ++ ['$'] ++ rest))
      ('$' :: (tag ++ ['$'] ++ [])) (.dollarBody tag) rest := by
    refine .step trivial ?_ .done
    simp [move, plainMove, found]
  rwa [List.append_nil] at passes

/-- A region that ends is passed from the statement's own text back to it. -/
theorem passes_closed {kind : Region} {text rest : List Char} (closed : Closed kind text rest)
    (bounded : ∀ body, kind = .blockComment → text = '/' :: '*' :: body →
      ∀ more, Deep more body → fits (more + 1)) :
    style.Passes fits .plain (text ++ rest) text .plain rest := by
  cases closed with
  | @quoted quote body _ isQuote doubled ends =>
    -- The opening quote, the body and the closing quote are read in turn.
    have passes := ((style.passes_quote fits isQuote (body ++ (quote :: rest))).trans
      (style.passes_doubled fits isQuote doubled (quote :: rest))).trans
        (style.passes_closing fits isQuote ends)
    simpa using passes
  | @lineComment body _ inside =>
    -- The machine leaves the comment behind its newline.
    have ends : style.Passes fits .lineComment ('\n' :: rest) ['\n'] .plain rest :=
      .cons trivial rfl .done
    have line : style.Passes fits .plain ('-' :: '-' :: (body ++ '\n' :: rest))
        ('-' :: '-' :: (body ++ ['\n'])) .plain rest :=
      .pair trivial rfl ((style.passes_line fits inside _).trans ends)
    simpa using line
  | @blockComment body _ comment =>
    -- The outermost comment is inside of one.
    have bounded' : ∀ more, Deep more body → fits (0 + 1 + more) := fun more deep => by
      rw [Nat.add_comm]
      exact bounded body rfl rfl more deep
    exact .pair trivial rfl (style.passes_comment fits comment bounded' rest)
  | @dollarBody tag body _ isTag shortest =>
    -- The first delimiter leads inside of the body, and the next one out of it.
    have passes := (style.passes_delimiter fits isTag (body ++ (delimiter tag ++ rest))).trans
      (style.passes_dollar fits rest shortest)
    simpa only [List.append_assoc] using passes

/-- A region that never ends is passed to the end of the text. -/
theorem passes_unclosed {kind : Region} {text : List Char} (unclosed : Unclosed kind text)
    (bounded : ∀ body, kind = .blockComment → text = '/' :: '*' :: body →
      ∀ more, Deep more body → fits (more + 1)) :
    ∃ last, style.Passes fits .plain text text last [] ∧ last.Fits fits := by
  cases unclosed with
  | @quoted quote body isQuote doubled =>
    -- No quote that stands alone is left to close the body.
    have inside := style.passes_doubled fits isQuote doubled []
    rw [List.append_nil] at inside
    exact ⟨_, (style.passes_quote fits isQuote body).trans inside, fits_quotedContext fits quote⟩
  | @lineComment body inside =>
    -- No newline is left to end the comment.
    have line := style.passes_line fits inside []
    rw [List.append_nil] at line
    exact ⟨_, .pair trivial rfl line, trivial⟩
  | @blockComment body endless =>
    have bounded' : ∀ more, Deep more body → fits (0 + 1 + more) := fun more deep => by
      rw [Nat.add_comm]
      exact bounded body rfl rfl more deep
    obtain ⟨inside, passes, fit⟩ := style.passes_endless_comment fits endless bounded'
    exact ⟨_, .pair trivial rfl passes, fit⟩
  | dollarBody isTag endless =>
    exact ⟨_, (style.passes_delimiter fits isTag _).trans
      (style.passes_endless_dollar fits endless), trivial⟩

/-- A token is passed as it stands, but for the mark of a placeholder. The machine is back in the
statement's own text then, unless nothing is left of it. -/
theorem Front.passes {style : PlaceholderStyle} {text rest : List Char} {token : Token}
    (front : style.Front text token rest)
    (bounded : ∀ body, token = .region .blockComment ('/' :: '*' :: body) →
      ∀ more, Deep more body → fits (more + 1)) :
    ∃ last, style.Passes fits .plain text (token.spell style.marker) last rest ∧ last.Fits fits ∧
      (last = .plain ∨ rest = []) := by
  cases front with
  | closed closed =>
    refine ⟨.plain, style.passes_closed fits closed ?_, trivial, .inl rfl⟩
    rintro body rfl rfl
    exact bounded body rfl
  | unclosed unclosed =>
    obtain ⟨last, passes, fit⟩ := style.passes_unclosed fits unclosed (by
      rintro body rfl rfl
      exact bounded body rfl)
    exact ⟨last, passes, fit, .inr rfl⟩
  | @placeholder digits _ own some all ends =>
    -- The mark is written in the other style, and the digits are passed over.
    have passes : style.Passes fits .plain (style.other.marker :: (digits ++ rest))
        (style.marker :: (digits ++ [])) .plain rest := by
      refine .step trivial ?_ .done
      rw [move_own own, if_pos ⟨rfl, startsDigit_append some all rest⟩,
        (takeWhile_digits all ends).1]
    rw [List.append_nil] at passes
    exact ⟨.plain, passes, trivial, .inl rfl⟩
  | plain own bare =>
    refine ⟨.plain, .cons trivial ?_ .done, trivial, .inl rfl⟩
    rw [move_own own, if_neg bare]

end PlaceholderStyle

end Querent
