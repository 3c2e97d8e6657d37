import Mathlib.Data.List.TakeWhile
import Querent.Proofs.Placeholder.Grammar

/-! Every text has exactly one splitting into tokens. -/

namespace Querent

/-- A comment ends in its closing pair, so it has two characters at least. -/
theorem Comment.two_le_length {body : List Char} (comment : Comment body) : 2 ≤ body.length := by
  -- The shortest comment is the closing pair, and all others add characters to one.
  induction comment with
  | close => simp
  | nested _ _ _ outer => simp only [List.length_cons, List.length_append]; omega
  | char _ _ _ body => simp only [List.length_cons]; omega

/-- A doubled body begins with a character other than the quote, or with the quote twice. -/
theorem doubled_cons {quote c : Char} {body : List Char} :
    Doubled quote (c :: body) ↔ (c ≠ quote ∧ Doubled quote body) ∨
      c = quote ∧ ∃ tail, body = quote :: tail ∧ Doubled quote tail := by
  constructor
  · intro doubled
    cases doubled with
    | char differs inner => exact .inl ⟨differs, inner⟩
    | twice inner => exact .inr ⟨rfl, _, rfl, inner⟩
  · rintro (⟨differs, inner⟩ | ⟨rfl, tail, rfl, inner⟩)
    · exact .char differs inner
    · exact .twice inner

/-- A quoted body that is closed is closed in one place only. -/
theorem Doubled.closes_once {quote : Char} {body other rest after : List Char}
    (doubled : Doubled quote body) (doubled' : Doubled quote other)
    (ends : rest.head? ≠ some quote) (ends' : after.head? ≠ some quote)
    (same : body ++ quote :: rest = other ++ quote :: after) : body = other ∧ rest = after := by
  -- The two bodies are read side by side, one character or one doubled quote at a time.
  induction doubled generalizing other with
  | nil =>
    cases doubled' with
    | nil => simpa using same
    -- The other body would begin with the quote that closes this one.
    | char differs _ => exact absurd (List.cons.inj same).1.symm differs
    -- The closing quote of this body would be followed by another quote.
    | twice _ => simp [(List.cons.inj same).2] at ends
  | char differs _ ih =>
    cases doubled' with
    -- The quote that closes the other body is no plain character.
    | nil => exact absurd (List.cons.inj same).1 differs
    | char _ inner =>
      -- Both bodies go on with the same character.
      obtain ⟨first, others⟩ := List.cons.inj same
      obtain ⟨rfl, rfl⟩ := ih inner others
      exact ⟨by rw [first], rfl⟩
    | twice _ => exact absurd (List.cons.inj same).1 differs
  | twice _ ih =>
    cases doubled' with
    -- The quote that closes the other body would stand in front of another one.
    | nil => simp [← (List.cons.inj same).2] at ends'
    | char differs _ => exact absurd (List.cons.inj same).1.symm differs
    | twice inner =>
      -- Both bodies take two quotes, and go on behind them.
      simp only [List.cons_append, List.cons.injEq, true_and] at same
      obtain ⟨rfl, rfl⟩ := ih inner same
      exact ⟨rfl, rfl⟩

/-- A quoted body that is closed does not read on as one that never closes. -/
theorem Doubled.not_doubled_of_closed {quote : Char} {body rest : List Char}
    (doubled : Doubled quote body) (ends : rest.head? ≠ some quote) :
    ¬Doubled quote (body ++ quote :: rest) := by
  -- Past the body the closing quote stands alone, which no doubled body allows.
  induction doubled with
  | nil =>
    rw [List.nil_append, doubled_cons]
    rintro (⟨differs, _⟩ | ⟨_, tail, rfl, _⟩)
    · exact differs rfl
    · -- A second quote would have to follow the closing one.
      simp at ends
  | char differs _ ih =>
    rw [List.cons_append, doubled_cons]
    rintro (⟨_, inner⟩ | ⟨same, _⟩)
    · exact ih inner
    · exact differs same
  | twice _ ih =>
    rw [List.cons_append, doubled_cons]
    rintro (⟨differs, _⟩ | ⟨_, tail, same, inner⟩)
    · exact differs rfl
    · obtain rfl := (List.cons.inj same).2
      exact ih inner

/-- Whether two characters stand in front is told by the first two of a comment. -/
theorem Comment.pair_prefix {body : List Char} (comment : Comment body) (rest : List Char)
    (a b c : Char) : [a, b] <+: c :: (body ++ rest) ↔ [a, b] <+: c :: body := by
  -- Two characters are there to be looked at, whatever stands behind the comment.
  have long := comment.two_le_length
  match body, long with
  | d :: tail, _ => simp

/-- No comment is the beginning of another one. -/
theorem Comment.closes_once {body other rest after : List Char} (comment : Comment body)
    (comment' : Comment other) (same : body ++ rest = other ++ after) :
    body = other ∧ rest = after := by
  -- At each place the two characters ahead decide which of the three forms both comments have.
  induction comment generalizing other rest after with
  | close =>
    cases comment' with
    | close => simpa using same
    | nested _ _ => simp at same
    | char _ notClose inner =>
      -- A comment that goes on here would begin with the closing pair.
      rw [← inner.pair_prefix after, ← List.cons_append, ← same] at notClose
      exact absurd ⟨rest, rfl⟩ notClose
  | @nested inner outer _ _ ihInner ihOuter =>
    cases comment' with
    | close => simp at same
    | nested innerOther outerOther =>
      -- The inner comments agree, and so do the comments behind them.
      simp only [List.cons_append, List.append_assoc, List.cons.injEq, true_and] at same
      obtain ⟨rfl, others⟩ := ihInner innerOther same
      obtain ⟨rfl, rfl⟩ := ihOuter outerOther others
      exact ⟨rfl, rfl⟩
    | char notOpen _ other =>
      -- An opening pair is not read as a character of a comment.
      rw [← other.pair_prefix after, ← List.cons_append, ← same] at notOpen
      exact absurd ⟨inner ++ outer ++ rest, rfl⟩ notOpen
  | char notOpen notClose inner ih =>
    cases comment' with
    | close =>
      rw [← inner.pair_prefix rest, ← List.cons_append, same] at notClose
      -- The closing pair is not read as a character either.
      exact absurd ⟨after, rfl⟩ notClose
    | @nested other outer _ _ =>
      rw [← inner.pair_prefix rest, ← List.cons_append, same] at notOpen
      exact absurd ⟨other ++ outer ++ after, rfl⟩ notOpen
    | char _ _ innerOther =>
      -- Both comments go on behind the same character.
      obtain ⟨first, others⟩ := List.cons.inj same
      obtain ⟨rfl, rfl⟩ := ih innerOther others
      exact ⟨by rw [first], rfl⟩

/-- A dollar sign is in no tag. -/
theorem IsTag.dollar_notMem {tag : List Char} (isTag : IsTag tag) : '$' ∉ tag := by
  intro member
  exact absurd (isTag '$' member) (by decide)

/-- A text is split at the first place of a character in one way only. -/
theorem split_unique {c : Char} {front other rest after : List Char} (absent : c ∉ front)
    (absent' : c ∉ other) (same : front ++ c :: rest = other ++ c :: after) :
    front = other ∧ rest = after := by
  -- The longer of two fronts would hold the character that ends the shorter one.
  rcases List.append_eq_append_iff.mp same with ⟨more, rfl, others⟩ | ⟨more, rfl, others⟩ <;>
    cases more <;> simp_all

/-- Two delimiters in front of one text are the same. -/
theorem delimiter_inj {tag other rest after : List Char} (isTag : IsTag tag)
    (isTag' : IsTag other) (same : delimiter tag ++ rest = delimiter other ++ after) :
    tag = other ∧ rest = after := by
  -- The tag reaches exactly to the next dollar sign.
  simp only [delimiter, List.cons_append, List.append_assoc, List.cons.injEq, true_and,
    List.nil_append] at same
  exact split_unique isTag.dollar_notMem isTag'.dollar_notMem same

/-- The character that a region of a kind begins with. -/
def Region.first : Region → Char
  | quoted quote => quote
  | lineComment => '-'
  | blockComment => '/'
  | dollarBody => '$'

/-- Whether a text is a region at the front of itself and a text after it. -/
def Reads (kind : Region) (text rest : List Char) : Prop :=
  Closed kind text rest ∨ Unclosed kind text ∧ rest = []

namespace Reads

variable {kind : Region} {text rest other after : List Char}

/-- A region begins where it is read. -/
theorem startsRegion (reads : Reads kind text rest) : StartsRegion (text ++ rest) := by
  -- The opening of a region is spelled out in each of its forms.
  rcases reads with closed | ⟨unclosed, rfl⟩
  · cases closed with
    | quoted isQuote _ _ => exact .inl ⟨_, isQuote, _, rfl⟩
    | lineComment _ => exact .inr (.inl ⟨_, rfl⟩)
    | blockComment _ => exact .inr (.inr (.inl ⟨_, rfl⟩))
    | dollarBody isTag _ =>
      exact .inr (.inr (.inr ⟨_, isTag, _, (List.append_assoc _ _ _).symm⟩))
  · cases unclosed with
    | quoted isQuote _ => exact .inl ⟨_, isQuote, _, rfl⟩
    | lineComment _ => exact .inr (.inl ⟨_, rfl⟩)
    | blockComment _ => exact .inr (.inr (.inl ⟨_, rfl⟩))
    | dollarBody isTag _ =>
      exact .inr (.inr (.inr ⟨_, isTag, _, (List.append_assoc _ _ _).symm⟩))

/-- A region begins with the first character of its kind. -/
theorem head?_eq (reads : Reads kind text rest) : (text ++ rest).head? = some kind.first := by
  -- The opening of each form is what the text begins with.
  rcases reads with closed | ⟨unclosed, rfl⟩
  · cases closed <;> rfl
  · cases unclosed <;> rfl

/-- The quote of a quoted region is one of the two. -/
theorem isQuote {quote : Char} (reads : Reads (.quoted quote) text rest) : IsQuote quote := by
  rcases reads with closed | ⟨unclosed, _⟩
  · cases closed; assumption
  · cases unclosed; assumption

/-- Only one kind of region is read at a place. -/
theorem kind_unique {kind' : Region} (reads : Reads kind text rest)
    (reads' : Reads kind' other after) (same : text ++ rest = other ++ after) : kind = kind' := by
  -- The kinds differ in their first characters.
  have first := reads.head?_eq
  rw [same, reads'.head?_eq, Option.some.injEq] at first
  cases kind with
  | quoted quote =>
    -- Two quoted regions have the same quote in front.
    cases kind' with
    | quoted quote' => exact congrArg Region.quoted first.symm
    | _ => rcases reads.isQuote with rfl | rfl <;> cases first
  | _ =>
    cases kind' with
    | quoted quote' => rcases reads'.isQuote with rfl | rfl <;> cases first
    -- No quote is the first character of another kind.
    | _ => first | rfl | cases first

end Reads

/-- A body that a delimiter follows as early as can be is the only such body. -/
theorem shortest_unique {limit body other rest after : List Char}
    (shortest : ∀ shorter, shorter ++ limit <+: body ++ limit → shorter = body)
    (shortest' : ∀ shorter, shorter ++ limit <+: other ++ limit → shorter = other)
    (same : body ++ (limit ++ rest) = other ++ (limit ++ after)) :
    body = other ∧ rest = after := by
  -- Of two fronts of one text, one is the front of the other.
  simp only [← List.append_assoc] at same
  have agree : body = other := by
    rcases List.prefix_or_prefix_of_prefix ⟨rest, rfl⟩ ⟨after, same.symm⟩ with front | front
    · exact shortest' body front
    · exact (shortest other front).symm
  subst agree
  -- Behind equal bodies stand equal texts.
  exact ⟨rfl, List.append_cancel_left same⟩

variable {kind : Region} {text rest other after : List Char}

/-- A region that ends does so in one place only. -/
theorem Closed.unique (closed : Closed kind text rest) (closed' : Closed kind other after)
    (same : text ++ rest = other ++ after) : text = other ∧ rest = after := by
  cases closed with
  | quoted _ doubled ends =>
    -- The body ends at the first quote that stands alone.
    cases closed' with | quoted _ doubled' ends' =>
    simp only [List.cons_append, List.append_assoc, List.cons.injEq, true_and,
      List.nil_append] at same
    obtain ⟨rfl, rfl⟩ := doubled.closes_once doubled' ends ends' same
    exact ⟨rfl, rfl⟩
  | lineComment inside =>
    -- The line ends at its first newline.
    cases closed' with | lineComment inside' =>
    simp only [List.cons_append, List.append_assoc, List.cons.injEq, true_and,
      List.nil_append] at same
    obtain ⟨rfl, rfl⟩ := split_unique inside inside' same
    exact ⟨rfl, rfl⟩
  | blockComment comment =>
    -- The comment ends where its nesting does.
    cases closed' with | blockComment comment' =>
    simp only [List.cons_append, List.cons.injEq, true_and] at same
    obtain ⟨rfl, rfl⟩ := comment.closes_once comment' same
    exact ⟨rfl, rfl⟩
  | dollarBody isTag shortest =>
    -- The body ends at the first place of the delimiter, which the tag tells.
    cases closed' with | dollarBody isTag' shortest' =>
    simp only [List.append_assoc] at same
    obtain ⟨rfl, bodies⟩ := delimiter_inj isTag isTag' same
    obtain ⟨rfl, rfl⟩ := shortest_unique shortest shortest' bodies
    exact ⟨rfl, rfl⟩

/-- A region that ends does not read on as one that never does. -/
theorem Closed.not_unclosed (closed : Closed kind text rest) : ¬Unclosed kind (text ++ rest) := by
  intro unclosed
  -- The two readings are of one text, so they are of one kind, and one of them finds an end.
  generalize same : text ++ rest = whole at unclosed
  cases closed with
  | quoted _ doubled ends =>
    cases unclosed with | quoted _ doubled' =>
    simp only [List.cons_append, List.append_assoc, List.cons.injEq, true_and,
      List.nil_append] at same
    exact doubled.not_doubled_of_closed ends (same ▸ doubled')
  | lineComment inside =>
    cases unclosed with | lineComment inside' =>
    simp only [List.cons_append, List.append_assoc, List.cons.injEq, true_and] at same
    -- The newline that ends the line would be inside of it.
    simp [← same] at inside'
  | blockComment comment =>
    cases unclosed with | blockComment endless =>
    simp only [List.cons_append, List.cons.injEq, true_and] at same
    exact endless _ ⟨_, same⟩ comment
  | dollarBody isTag shortest =>
    cases unclosed with | dollarBody isTag' endless =>
    simp only [List.append_assoc] at same
    obtain ⟨rfl, bodies⟩ := delimiter_inj isTag isTag' same
    -- The delimiter that ends the body would be inside of it.
    exact endless ⟨_, _, by rw [← bodies, List.append_assoc]⟩

/-- The region at the front of a text is read in one way only. -/
theorem Reads.unique {kind' : Region} (reads : Reads kind text rest)
    (reads' : Reads kind' other after) (same : text ++ rest = other ++ after) :
    kind = kind' ∧ text = other ∧ rest = after := by
  obtain rfl := reads.kind_unique reads' same
  refine ⟨rfl, ?_⟩
  rcases reads with closed | ⟨unclosed, rfl⟩ <;> rcases reads' with closed' | ⟨unclosed', rfl⟩
  · exact closed.unique closed' same
  · -- What is read to its end is not read on to the end of the text.
    rw [List.append_nil] at same
    exact absurd (same ▸ unclosed') closed.not_unclosed
  · rw [List.append_nil] at same
    exact absurd (same ▸ unclosed) closed'.not_unclosed
  · -- Both regions run to the end of the text.
    simpa using same

/-- A run of digits that no digit follows is all the digits at the front. -/
theorem takeWhile_digits {digits rest : List Char} (all : ∀ d ∈ digits, d.isDigit = true)
    (ends : ¬StartsDigit rest) :
    (digits ++ rest).takeWhile Char.isDigit = digits ∧
      (digits ++ rest).dropWhile Char.isDigit = rest := by
  -- All of the run is taken, and the next character stops it.
  rw [List.takeWhile_append_of_pos all, List.dropWhile_append_of_pos all]
  cases rest with
  | nil => simp
  | cons c rest =>
    have plain : c.isDigit = false := by simpa [StartsDigit] using ends
    simp [plain]

/-- A placeholder's digits begin with a digit. -/
theorem startsDigit_append {digits : List Char} (some : digits ≠ [])
    (all : ∀ d ∈ digits, d.isDigit = true) (rest : List Char) : StartsDigit (digits ++ rest) := by
  obtain ⟨d, digits, rfl⟩ := List.exists_cons_of_ne_nil some
  simpa [StartsDigit] using all d (by simp)

/-- A token that begins a region is that region, read as far as the region goes. -/
theorem PlaceholderStyle.Front.reads {style : PlaceholderStyle} {token : Token}
    (front : style.Front text token rest) (starts : StartsRegion text) :
    ∃ kind region, token = .region kind region ∧ Reads kind region rest := by
  -- The other two tokens are only read where no region begins.
  cases front with
  | closed closed => exact ⟨_, _, rfl, .inl closed⟩
  | unclosed unclosed => exact ⟨_, _, rfl, .inr ⟨unclosed, rfl⟩⟩
  | placeholder own => exact absurd starts own
  | plain own => exact absurd starts own

/-- Outside of regions, digits behind the mark make a placeholder, and any other character stands
for itself. -/
theorem PlaceholderStyle.Front.own {style : PlaceholderStyle} {token : Token} {c : Char}
    (front : style.Front (c :: text) token rest) (own : ¬StartsRegion (c :: text)) :
    if c = style.other.marker ∧ StartsDigit text then
      token = .placeholder (text.takeWhile Char.isDigit) ∧ rest = text.dropWhile Char.isDigit
    else token = .plain c ∧ rest = text := by
  generalize same : c :: text = whole at front own
  cases front with
  | closed closed => exact absurd (Reads.startsRegion (.inl closed)) own
  | unclosed unclosed =>
    rw [← List.append_nil whole] at own
    exact absurd (Reads.startsRegion (.inr ⟨unclosed, rfl⟩)) own
  | placeholder _ some all ends =>
    -- The digits that were read are all the digits there are.
    obtain ⟨rfl, rfl⟩ := List.cons.inj same
    obtain ⟨digits, others⟩ := takeWhile_digits all ends
    rw [if_pos ⟨rfl, startsDigit_append some all _⟩, digits, others]
    exact ⟨rfl, rfl⟩
  | plain _ bare =>
    -- Either the mark or the digit is missing.
    obtain ⟨rfl, rfl⟩ := List.cons.inj same
    rw [if_neg bare]
    exact ⟨rfl, rfl⟩

/-- A token takes one character at least. -/
theorem PlaceholderStyle.Front.length_lt {style : PlaceholderStyle} {token : Token}
    (front : style.Front text token rest) : rest.length < text.length := by
  cases front with
  | closed closed => cases closed <;> simp [delimiter] <;> omega
  | unclosed unclosed => cases unclosed <;> simp [delimiter]
  | placeholder =>
    rw [List.length_cons, List.length_append]
    omega
  | plain => simp

/-- The token at the front of a text is read in one way only. -/
theorem PlaceholderStyle.Front.unique {style : PlaceholderStyle} {token token' : Token}
    (front : style.Front text token rest) (front' : style.Front text token' after) :
    token = token' ∧ rest = after := by
  -- A region in front is read by the grammar of regions, anything else by its first character.
  by_cases starts : StartsRegion text
  · obtain ⟨kind, region, rfl, reads⟩ := front.reads starts
    obtain ⟨kind', region', rfl, reads'⟩ := front'.reads starts
    obtain ⟨rfl, rfl, rfl⟩ := reads.unique reads' (front.eq_spell.symm.trans front'.eq_spell)
    exact ⟨rfl, rfl⟩
  · cases text with
    | nil => exact absurd front.length_lt (by simp)
    | cons c text =>
      have told := front.own starts
      have told' := front'.own starts
      split at told
      · rw [if_pos ‹_›] at told'
        -- Both tokens are the placeholder with all the digits.
        exact ⟨told.1.trans told'.1.symm, told.2.trans told'.2.symm⟩
      · rw [if_neg ‹_›] at told'
        -- Both tokens are the character itself.
        exact ⟨told.1.trans told'.1.symm, told.2.trans told'.2.symm⟩

/-- A text has one splitting into tokens at most. -/
theorem PlaceholderStyle.Splits.unique {style : PlaceholderStyle} {tokens others : List Token}
    (splits : style.Splits text tokens) (splits' : style.Splits text others) : tokens = others := by
  induction splits generalizing others with
  | nil =>
    cases splits' with
    | nil => rfl
    -- An empty text has no token in front.
    | cons front' _ => exact absurd front'.length_lt (by simp)
  | cons front _ ih =>
    cases splits' with
    | nil => exact absurd front.length_lt (by simp)
    | cons front' splits' =>
      -- The first tokens agree, and so do the texts behind them.
      obtain ⟨rfl, rfl⟩ := front.unique front'
      rw [ih splits']

/-- What follows an opening quote is doubled up to the end, or up to a quote that stands alone. -/
theorem doubled_or_closed (quote : Char) (text : List Char) :
    Doubled quote text ∨ ∃ body rest,
      text = body ++ quote :: rest ∧ Doubled quote body ∧ rest.head? ≠ some quote := by
  match text with
  | [] => exact .inl .nil
  | c :: text =>
    by_cases same : c = quote
    · subst same
      by_cases again : text.head? = some c
      · -- Two quotes are one character, and the search goes on behind them.
        obtain ⟨rest, rfl⟩ := List.head?_eq_some_iff.mp again
        rcases doubled_or_closed c rest with doubled | ⟨body, after, rfl, doubled, ends⟩
        · exact .inl (.twice doubled)
        · exact .inr ⟨c :: c :: body, after, rfl, .twice doubled, ends⟩
      · -- A quote that stands alone closes the body.
        exact .inr ⟨[], text, rfl, .nil, again⟩
    · -- Any other character belongs to the body.
      rcases doubled_or_closed quote text with doubled | ⟨body, after, rfl, doubled, ends⟩
      · exact .inl (.char same doubled)
      · exact .inr ⟨c :: body, after, rfl, .char same doubled, ends⟩
termination_by text.length

/-- A delimiter that occurs in a text occurs in a first place. -/
theorem exists_shortest {limit : List Char} (occurs : limit <:+: text) :
    ∃ body rest, text = body ++ (limit ++ rest) ∧
      ∀ shorter, shorter ++ limit <+: body ++ limit → shorter = body := by
  induction text with
  | nil =>
    -- Only an empty delimiter occurs in an empty text.
    obtain rfl := List.infix_nil.mp occurs
    exact ⟨[], [], rfl, fun shorter front => by simpa using front⟩
  | cons c text ih =>
    by_cases here : limit <+: c :: text
    · -- Nothing is shorter than the empty body.
      obtain ⟨rest, same⟩ := here
      refine ⟨[], rest, same.symm, fun shorter front => ?_⟩
      have short := front.length_le
      simp only [List.length_append, List.length_nil] at short
      exact List.eq_nil_of_length_eq_zero (by omega)
    · -- Otherwise the first place is the first place in the rest of the text.
      obtain ⟨body, rest, rfl, shortest⟩ := ih ((List.infix_cons_iff.mp occurs).resolve_left here)
      refine ⟨c :: body, rest, rfl, fun shorter front => ?_⟩
      cases shorter with
      | nil =>
        -- With an empty body the delimiter would stand right here.
        refine absurd (front.trans ?_) here
        exact ⟨rest, by simp⟩
      | cons d shorter =>
        obtain ⟨rfl, inner⟩ := List.cons_prefix_cons.mp front
        rw [shortest shorter inner]

/-- Where a region begins, one is read. -/
theorem StartsRegion.exists_reads (starts : StartsRegion text) :
    ∃ kind region rest, text = region ++ rest ∧ Reads kind region rest := by
  -- Each kind of region either finds its end or runs to the end of the text.
  rcases starts with
    ⟨quote, isQuote, body, rfl⟩ | ⟨body, rfl⟩ | ⟨body, rfl⟩ | ⟨tag, isTag, body, rfl⟩
  · rcases doubled_or_closed quote body with doubled | ⟨body, rest, rfl, doubled, ends⟩
    · exact ⟨_, _, [], (List.append_nil _).symm, .inr ⟨.quoted isQuote doubled, rfl⟩⟩
    · exact ⟨_, _, rest, by simp, .inl (.quoted isQuote doubled ends)⟩
  · by_cases ends : '\n' ∈ body
    · obtain ⟨body, rest, rfl, inside⟩ := List.eq_append_cons_of_mem ends
      exact ⟨_, _, rest, by simp, .inl (.lineComment inside)⟩
    · exact ⟨_, _, [], (List.append_nil _).symm, .inr ⟨.lineComment ends, rfl⟩⟩
  · by_cases ends : ∃ whole, whole <+: body ∧ Comment whole
    · obtain ⟨whole, ⟨rest, rfl⟩, comment⟩ := ends
      exact ⟨_, _, rest, by simp, .inl (.blockComment comment)⟩
    · refine ⟨_, _, [], (List.append_nil _).symm, .inr ⟨.blockComment ?_, rfl⟩⟩
      exact fun whole front comment => ends ⟨whole, front, comment⟩
  · by_cases ends : delimiter tag <:+: body
    · obtain ⟨body, rest, rfl, shortest⟩ := exists_shortest ends
      exact ⟨_, _, rest, by simp, .inl (.dollarBody isTag shortest)⟩
    · exact ⟨_, _, [], (List.append_nil _).symm, .inr ⟨.dollarBody isTag ends, rfl⟩⟩

/-- The digits at the front of a text end where no digit comes next. -/
theorem StartsDigit.exists_digits (digit : StartsDigit text) :
    ∃ digits rest, text = digits ++ rest ∧ digits ≠ [] ∧ (∀ d ∈ digits, d.isDigit = true) ∧
      ¬StartsDigit rest := by
  -- The longest run of digits ends where the text or the run does.
  refine ⟨text.takeWhile Char.isDigit, text.dropWhile Char.isDigit,
    List.takeWhile_append_dropWhile.symm, ?_, fun d member => List.mem_takeWhile_imp member, ?_⟩
  · cases text with
    | nil => simp [StartsDigit] at digit
    | cons c text =>
      have first : c.isDigit = true := by simpa [StartsDigit] using digit
      simp [first]
  · have ends := List.head?_dropWhile_not Char.isDigit text
    unfold StartsDigit
    cases next : (text.dropWhile Char.isDigit).head? with
    | none => simp
    | some c => simpa [next] using ends

/-- A token stands at the front of every text that is not empty. -/
theorem PlaceholderStyle.exists_front (style : PlaceholderStyle) (c : Char) (text : List Char) :
    ∃ token rest, style.Front (c :: text) token rest := by
  by_cases starts : StartsRegion (c :: text)
  · -- A region that begins here is a token, closed or not.
    obtain ⟨kind, region, rest, same, closed | ⟨unclosed, rfl⟩⟩ := starts.exists_reads
    · rw [same]
      exact ⟨_, rest, .closed closed⟩
    · rw [same, List.append_nil]
      exact ⟨_, [], .unclosed unclosed⟩
  · by_cases numbered : c = style.other.marker ∧ StartsDigit text
    · -- A placeholder takes all the digits there are.
      obtain ⟨rfl, digit⟩ := numbered
      obtain ⟨digits, rest, rfl, some, all, ends⟩ := digit.exists_digits
      exact ⟨_, rest, .placeholder starts some all ends⟩
    · exact ⟨_, _, .plain starts numbered⟩

/-- Every text has a splitting into tokens. -/
theorem PlaceholderStyle.exists_splits (style : PlaceholderStyle) (text : List Char) :
    ∃ tokens, style.Splits text tokens := by
  -- What is left after a token is shorter than what was there before.
  induction size : text.length using Nat.strongRecOn generalizing text with
  | ind size ih =>
    subst size
    cases text with
    | nil => exact ⟨[], .nil⟩
    | cons c text =>
      obtain ⟨token, rest, front⟩ := style.exists_front c text
      obtain ⟨tokens, splits⟩ := ih _ front.length_lt rest rfl
      exact ⟨token :: tokens, .cons front splits⟩

end Querent
