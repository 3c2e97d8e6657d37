import Querent.Proofs.Placeholder.Calm
import Querent.Proofs.Text.Blank

/-! A translated statement is read again: where its regions are the same, and where a mark that was
written for a placeholder opens a dollar body. -/

namespace Querent

/-- A region of a statement, by the bytes in front of it and in front of what follows it. -/
structure Span where
  kind : Region
  start : Nat
  stop : Nat
deriving DecidableEq, Repr

namespace Token

/-- How many bytes a token takes, where each mark is one byte. -/
def size : Token → Nat
  | region _ text => (String.ofList text).utf8ByteSize
  | placeholder digits => (String.ofList digits).utf8ByteSize + 1
  | plain c => c.utf8Size

/-- The region that a token is, behind some bytes. -/
def span? (start : Nat) : Token → Option Span
  | region kind text => some ⟨kind, start, start + size (region kind text)⟩
  | _ => none

/-- The tokens of which a translated token is read again: a mark and its digits stand for
themselves. -/
def retold (marker : Char) : Token → List Token
  | placeholder digits => (marker :: digits).map plain
  | token => [token]

/-- Whether a token is a dollar sign of the statement's own, or a placeholder, which gets one. -/
def isDollar : Token → Bool
  | region _ _ => false
  | placeholder _ => true
  | plain c => c = '$'

/-- Whether a token begins with a dollar sign, once placeholders are given theirs. -/
def beginsDollar : Token → Bool
  | region kind _ => kind = .dollarBody
  | token => token.isDollar

/-- Whether a token is a character that may stand in a dollar tag. -/
def isTagToken : Token → Bool
  | plain c => isTagChar c
  | _ => false

/-- Whether some tokens go on with a dollar sign behind nothing but characters of a tag. -/
def dollarAhead : List Token → Bool
  | [] => false
  | token :: rest => token.beginsDollar || (token.isTagToken && dollarAhead rest)

/-- Whether, with dollar signs for the marks of placeholders, two dollar signs outside of regions
have nothing but characters of a tag between them. -/
def glued : List Token → Bool
  | [] => false
  | token :: rest => (token.isDollar && dollarAhead rest) || glued rest

end Token

/-- The regions of some tokens behind some bytes, from left to right. -/
def spansFrom (start : Nat) : List Token → List Span
  | [] => []
  | token :: rest => (token.span? start).toList ++ spansFrom (start + token.size) rest

open Token

/-- A region begins in front of a text where its first character opens one, by itself or together
with the next ones. -/
theorem startsRegion_cons {c : Char} {rest : List Char} :
    StartsRegion (c :: rest) ↔ IsQuote c ∨ (c = '-' ∧ rest.head? = some '-') ∨
      (c = '/' ∧ rest.head? = some '*') ∨
        c = '$' ∧ ∃ tag, IsTag tag ∧ tag ++ ['$'] <+: rest := by
  -- The two openers of one character and of a tag are brought into the form of the others.
  have quoted : (∃ quote, IsQuote quote ∧ [quote] <+: c :: rest) ↔ IsQuote c := by
    constructor
    · rintro ⟨quote, isQuote, opens⟩
      obtain rfl := (List.cons_prefix_cons.mp opens).1
      exact isQuote
    · intro isQuote
      exact ⟨c, isQuote, rest, rfl⟩
  have dollar : (∃ tag, IsTag tag ∧ delimiter tag <+: c :: rest) ↔
      c = '$' ∧ ∃ tag, IsTag tag ∧ tag ++ ['$'] <+: rest := by
    simp only [delimiter, List.cons_prefix_cons]
    constructor
    · rintro ⟨tag, isTag, rfl, ends⟩
      exact ⟨rfl, tag, isTag, ends⟩
    · rintro ⟨rfl, tag, isTag, ends⟩
      exact ⟨tag, isTag, rfl, ends⟩
  unfold StartsRegion
  rw [quoted, dollar, pair_prefix_iff, pair_prefix_iff]

/-- Whether a region begins is read off the first characters and the tag behind a dollar sign. -/
instance : DecidablePred StartsRegion
  | [] => isFalse (by simp [StartsRegion, delimiter])
  | c :: rest =>
    decidable_of_iff ((c = '\'' ∨ c = '"') ∨ (c = '-' ∧ rest.head? = some '-') ∨
        (c = '/' ∧ rest.head? = some '*') ∨ c = '$' ∧ (dollarTag? rest).isSome = true) (by
      simp only [startsRegion_cons, IsQuote, Option.isSome_iff_exists,
        PlaceholderStyle.dollarTag?_eq_some_iff, delimiter, List.cons_prefix_cons, true_and])

/-- What stands in front of some tokens without their mark is there with any other mark too. -/
theorem prefix_respell {mark : Char} (other : Char) {front : List Char} {tokens : List Token}
    (absent : mark ∉ front) (ahead : front <+: tokens.flatMap (spell mark)) :
    front <+: tokens.flatMap (spell other) := by
  -- The tokens are gone through as far as the front goes.
  induction tokens generalizing front with
  | nil => exact ahead
  | cons token rest ih =>
    rw [List.flatMap_cons] at ahead ⊢
    have same : ∀ text : List Char, front <+: text ++ rest.flatMap (spell mark) →
        front <+: text ++ rest.flatMap (spell other) := by
      rintro text ⟨tail, ahead⟩
      rcases List.append_eq_append_iff.mp ahead with ⟨more, rfl, -⟩ | ⟨more, rfl, behind⟩
      · exact ⟨more ++ rest.flatMap (spell other), (List.append_assoc ..).symm⟩
      · rw [List.prefix_append_right_inj]
        exact ih (fun mem => absent (List.mem_append_right _ mem)) ⟨tail, behind.symm⟩
    cases token with
    | region kind text => exact same text ahead
    | plain c => exact same [c] ahead
    | placeholder digits =>
      -- A placeholder has its mark in front.
      cases front with
      | nil => exact List.nil_prefix
      | cons c front =>
        obtain rfl := (List.cons_prefix_cons.mp ahead).1
        exact absurd (List.mem_cons_self ..) absent

/-- A digit may stand in a dollar tag, and is no mark and no opener of a region. -/
theorem digit_inert {d : Char} (digit : d.isDigit = true) :
    isTagChar d = true ∧ d ∉ openers ∧ d ≠ '$' ∧ d ≠ '?' ∧ ∀ e, Apart d e := by
  -- A character that is no digit is another one.
  have differs : ∀ c : Char, c.isDigit = false → d ≠ c := by
    rintro c other rfl
    exact absurd (digit.symm.trans other) (by decide)
  refine ⟨by simp [isTagChar, Char.isAlphanum, digit], ?_, differs _ (by decide),
    differs _ (by decide), fun e => ⟨?_, ?_⟩⟩
  · simp only [openers, List.mem_cons, List.not_mem_nil, or_false, not_or]
    exact ⟨differs _ (by decide), differs _ (by decide), differs _ (by decide)⟩
  · exact fun both => differs _ (by decide) both.1
  · exact fun both => differs _ (by decide) both.1

/-- Digits in front of a text neither begin nor end a dollar tag that goes on behind them. -/
theorem exists_tag_behind_digits {digits : List Char} (all : ∀ d ∈ digits, d.isDigit = true)
    (rest : List Char) :
    (∃ tag, IsTag tag ∧ tag ++ ['$'] <+: digits ++ rest) ↔
      ∃ tag, IsTag tag ∧ tag ++ ['$'] <+: rest := by
  -- A tag over the digits is one behind them with the digits put in front.
  induction digits with
  | nil => rfl
  | cons d digits ih =>
    rw [List.forall_mem_cons] at all
    obtain ⟨may, -, differs, -⟩ := digit_inert all.1
    rw [← ih all.2]
    constructor
    · rintro ⟨tag, isTag, ahead⟩
      cases tag with
      | nil => exact absurd (List.cons_prefix_cons.mp ahead).1.symm differs
      | cons c tag =>
        exact ⟨tag, (List.forall_mem_cons.mp isTag).2, (List.cons_prefix_cons.mp ahead).2⟩
    · rintro ⟨tag, isTag, ahead⟩
      exact ⟨d :: tag, List.forall_mem_cons.mpr ⟨may, isTag⟩,
        List.cons_prefix_cons.mpr ⟨rfl, ahead⟩⟩

namespace PlaceholderStyle

variable {style : PlaceholderStyle} {text rest : List Char} {token : Token} {tokens : List Token}

/-- A region begins with the first character of its kind, which stands in no tag, and is a dollar
sign for a dollar body only. -/
theorem Front.region_first {kind : Region} {region : List Char}
    (front : style.Front text (.region kind region) rest) :
    (∃ tail, region = kind.first :: tail) ∧ isTagChar kind.first = false ∧
      (kind.first = '$' ↔ kind = .dollarBody) := by
  -- No quote stands in a tag, and none is a dollar sign.
  have quoted : ∀ quote, IsQuote quote → isTagChar quote = false ∧
      (quote = '$' ↔ Region.quoted quote = .dollarBody) := by
    rintro quote (rfl | rfl) <;> decide
  cases front with
  | closed closed =>
    cases closed with
    | quoted isQuote _ _ => exact ⟨⟨_, rfl⟩, quoted _ isQuote⟩
    | _ => exact ⟨⟨_, rfl⟩, by decide⟩
  | unclosed unclosed =>
    cases unclosed with
    | quoted isQuote _ => exact ⟨⟨_, rfl⟩, quoted _ isQuote⟩
    | _ => exact ⟨⟨_, rfl⟩, by decide⟩

/-- Tokens go on with a dollar sign behind characters of a tag exactly where their characters do,
with dollar signs for the marks of placeholders. -/
theorem Splits.dollarAhead_iff (splits : style.Splits text tokens) :
    dollarAhead tokens = true ↔
      ∃ tag, IsTag tag ∧ tag ++ ['$'] <+: tokens.flatMap (spell '$') := by
  -- Token by token: a region stops the search, a placeholder ends it, and a character goes on.
  induction splits with
  | nil => simp [dollarAhead]
  | @cons _ _ token tokens front _ ih =>
    rw [dollarAhead, List.flatMap_cons]
    cases token with
    | region kind region =>
      obtain ⟨⟨tail, rfl⟩, outside, dollar⟩ := front.region_first
      simp only [beginsDollar, isTagToken, Bool.false_and, Bool.or_false, decide_eq_true_iff,
        ← dollar]
      constructor
      · intro first
        exact ⟨[], by simp [IsTag], by simp [spell, first]⟩
      · rintro ⟨tag, isTag, ahead⟩
        cases tag with
        | nil => exact (List.cons_prefix_cons.mp ahead).1.symm
        | cons c tag =>
          -- The region would begin with a character of the tag.
          obtain rfl := (List.cons_prefix_cons.mp ahead).1
          exact absurd (outside.symm.trans (isTag _ (List.mem_cons_self ..))) (by decide)
    | placeholder digits => exact ⟨fun _ => ⟨[], by simp [IsTag], by simp [spell]⟩, fun _ => rfl⟩
    | plain c =>
      simp only [beginsDollar, isDollar, isTagToken, Bool.or_eq_true, Bool.and_eq_true,
        decide_eq_true_iff, ih]
      constructor
      · rintro (rfl | ⟨may, tag, isTag, ahead⟩)
        · exact ⟨[], by simp [IsTag], by simp [spell]⟩
        · exact ⟨c :: tag, List.forall_mem_cons.mpr ⟨may, isTag⟩,
            List.cons_prefix_cons.mpr ⟨rfl, ahead⟩⟩
      · rintro ⟨tag, isTag, ahead⟩
        cases tag with
        | nil => exact .inl (List.cons_prefix_cons.mp ahead).1.symm
        | cons d tag =>
          obtain ⟨rfl, behind⟩ := List.cons_prefix_cons.mp ahead
          obtain ⟨may, isTag⟩ := List.forall_mem_cons.mp isTag
          exact .inr ⟨may, tag, isTag, behind⟩

/-- With dollar signs for the marks of placeholders, a region begins at a dollar sign exactly where
another one follows behind characters of a tag. -/
theorem Front.startsRegion_iff (front : style.Front text token rest)
    (splits : style.Splits rest tokens) (dollar : token.isDollar = true) :
    StartsRegion (token.spell '$' ++ tokens.flatMap (spell '$')) ↔ dollarAhead tokens = true := by
  -- At a dollar sign, the only region that can begin is a dollar body.
  have own : ∀ behind : List Char, StartsRegion ('$' :: behind) ↔
      ∃ tag, IsTag tag ∧ tag ++ ['$'] <+: behind := by
    intro behind
    rw [startsRegion_cons]
    simp [IsQuote]
  rw [splits.dollarAhead_iff]
  cases front with
  | closed _ => cases dollar
  | unclosed _ => cases dollar
  | placeholder _ _ all _ =>
    rw [spell, List.cons_append, own]
    exact exists_tag_behind_digits all _
  | plain _ _ =>
    obtain rfl := of_decide_eq_true dollar
    exact own _

/-- Digits in front of a text are read as they stand. -/
theorem Splits.behind_digits {digits : List Char} (splits : style.Splits text tokens)
    (all : ∀ d ∈ digits, d.isDigit = true) :
    style.Splits (digits ++ text) (digits.map .plain ++ tokens) := by
  -- No digit opens a region or is a mark, whatever comes behind it.
  induction digits with
  | nil => exact splits
  | cons d digits ih =>
    rw [List.forall_mem_cons] at all
    obtain ⟨-, own, dollar, question, apart⟩ := digit_inert all.1
    refine .cons (.plain (not_startsRegion own fun e _ => apart e) ?_) (ih all.2)
    rintro ⟨marker, -⟩
    cases style with
    | postgres => exact question marker
    | sqlite => exact dollar marker

/-- A translated text begins with the same character, unless that is a mark that was written. -/
theorem Splits.head?_respell (splits : style.Splits text tokens) {c : Char}
    (other : c ≠ style.marker) (first : (tokens.flatMap (spell style.marker)).head? = some c) :
    text.head? = some c := by
  obtain ⟨tail, shown⟩ := List.head?_eq_some_iff.mp first
  -- The character is a front of its own, without the mark in it.
  have ahead : [c] <+: tokens.flatMap (spell style.other.marker) :=
    prefix_respell _ (by simpa using Ne.symm other) ⟨tail, shown.symm⟩
  rw [← splits.eq_flatMap] at ahead
  obtain ⟨tail, rfl⟩ := ahead
  rfl

/-- A region that ends in front of a text ends there in front of the translated text too. -/
theorem closed_respell {kind : Region} {region : List Char} (closed : Closed kind region text)
    (splits : style.Splits text tokens) :
    Closed kind region (tokens.flatMap (spell style.marker)) := by
  cases closed with
  | quoted isQuote doubled ends =>
    refine .quoted isQuote doubled fun again => ends (splits.head?_respell ?_ again)
    -- No mark is a quote.
    rcases isQuote with rfl | rfl <;> cases style <;> decide
  | lineComment inside => exact .lineComment inside
  | blockComment comment => exact .blockComment comment
  | dollarBody isTag shortest => exact .dollarBody isTag shortest

/-- Where a character stands for itself, no region begins in front of the translated text either,
unless a mark completes a delimiter. -/
theorem not_startsRegion_respell {c : Char} (own : ¬StartsRegion (c :: text))
    (splits : style.Splits text tokens)
    (loose : style = .postgres → c = '$' → dollarAhead tokens = false) :
    ¬StartsRegion (c :: tokens.flatMap (spell style.marker)) := by
  rw [startsRegion_cons] at own ⊢
  have ordinary : '-' ≠ style.marker ∧ '*' ≠ style.marker := by cases style <;> decide
  -- The four ways in which a region could begin, of which only the last one depends on the style.
  rintro (quote | ⟨dash, next⟩ | ⟨slash, next⟩ | ⟨rfl, tag, isTag, ahead⟩)
  · exact own (.inl quote)
  · exact own (.inr (.inl ⟨dash, splits.head?_respell ordinary.1 next⟩))
  · exact own (.inr (.inr (.inl ⟨slash, splits.head?_respell ordinary.2 next⟩)))
  · cases style with
    | postgres =>
      have found := splits.dollarAhead_iff.mpr ⟨tag, isTag, ahead⟩
      exact absurd (found.symm.trans (loose rfl rfl)) (by decide)
    | sqlite =>
      -- In this style no dollar sign is written, so that the delimiter was there before.
      have absent : '?' ∉ tag ++ ['$'] := by
        rw [List.mem_append]
        rintro (mem | mem)
        · exact absurd (isTag _ mem) (by decide)
        · exact absurd mem (by decide)
      have before : tag ++ ['$'] <+: tokens.flatMap (spell '$') := prefix_respell '$' absent ahead
      rw [show '$' = PlaceholderStyle.sqlite.other.marker from rfl, ← splits.eq_flatMap] at before
      exact own (.inr (.inr (.inr ⟨rfl, tag, isTag, before⟩)))

/-- A translated token is read again as it is told, unless its dollar sign is glued to another one.
-/
theorem Front.retold (front : style.Front text token rest) (splits : style.Splits rest tokens)
    (loose : style = .postgres → (token.isDollar && dollarAhead tokens) = false)
    {again : List Token} (behind : style.Splits (tokens.flatMap (spell style.marker)) again) :
    style.Splits (token.spell style.marker ++ tokens.flatMap (spell style.marker))
      (token.retold style.marker ++ again) := by
  have differ : style.marker ≠ style.other.marker := by cases style <;> decide
  -- By how the token was read; regions keep their end, and marks stand for themselves.
  cases front with
  | closed closed => exact .cons (.closed (closed_respell closed splits)) behind
  | unclosed unclosed =>
    -- Nothing stands behind a region that never ends.
    cases splits with
    | cons front' _ => exact absurd front'.length_lt (by simp)
    | nil =>
      cases behind with
      | cons front' _ => exact absurd front'.length_lt (by simp)
      | nil =>
        rw [List.flatMap_nil, List.append_nil, List.append_nil]
        exact .cons (.unclosed unclosed) .nil
  | placeholder own some all ends =>
    refine .cons (.plain ?_ fun mark => differ mark.1) (behind.behind_digits all)
    cases style with
    | postgres =>
      have opens := (Front.placeholder own some all ends).startsRegion_iff splits rfl
      have apart := loose rfl
      rw [isDollar, Bool.true_and, ← Bool.not_eq_true] at apart
      exact fun starts => apart (opens.mp starts)
    | sqlite =>
      rw [startsRegion_cons]
      simp [IsQuote, marker]
  | plain own bare =>
    refine .cons (.plain (not_startsRegion_respell own splits ?_) ?_) behind
    · rintro target rfl
      simpa [isDollar] using loose target
    · rintro ⟨mark, digit⟩
      refine bare ⟨mark, ?_⟩
      -- The digit that comes next is no mark, and stood there before.
      unfold StartsDigit at digit ⊢
      obtain ⟨d, first, isDigit⟩ := (Option.any_eq_true _ _).mp digit
      obtain ⟨-, -, dollar, question, -⟩ := digit_inert isDigit
      rw [splits.head?_respell _ first]
      · exact isDigit
      · cases style with
        | postgres => exact dollar
        | sqlite => exact question

/-- A translated text is read again as its tokens are told, unless dollar signs are glued. -/
theorem Splits.retold (splits : style.Splits text tokens)
    (loose : style = .postgres → glued tokens = false) :
    style.Splits (tokens.flatMap (spell style.marker))
      (tokens.flatMap (Token.retold style.marker)) := by
  induction splits with
  | nil => exact .nil
  | cons front splits ih =>
    -- Where nothing is glued in the whole text, nothing is at its first token or behind it.
    simp only [glued, Bool.or_eq_false_iff] at loose
    exact front.retold splits (fun target => (loose target).1) (ih fun target => (loose target).2)

end PlaceholderStyle

/-- Characters that stand for themselves are no regions, and the regions behind them are further on.
-/
theorem spansFrom_plain (chars : List Char) (tokens : List Token) (start : Nat) :
    spansFrom start (chars.map plain ++ tokens) =
      spansFrom (start + (String.ofList chars).utf8ByteSize) tokens := by
  induction chars generalizing start with
  | nil => rfl
  | cons c chars ih =>
    rw [List.map_cons, List.cons_append, spansFrom, ih, String.ofList_cons,
      String.utf8ByteSize_append, String.utf8ByteSize_singleton, ← Nat.add_assoc]
    rfl

/-- A token is the same region when it is told again, and what stands behind it stays there. -/
theorem spansFrom_retold (style : PlaceholderStyle) (token : Token) (tokens : List Token)
    (start : Nat) :
    spansFrom start (token.retold style.marker ++ tokens) =
      (token.span? start).toList ++ spansFrom (start + token.size) tokens := by
  cases token with
  | region kind text => rfl
  | plain c => rfl
  | placeholder digits =>
    -- Every mark is one byte.
    have single : style.marker.utf8Size = 1 := by cases style <;> decide
    rw [Token.retold, spansFrom_plain, String.ofList_cons, String.utf8ByteSize_append,
      String.utf8ByteSize_singleton, single, Nat.add_comm 1]
    rfl

/-- The regions of tokens are those of the tokens told again. -/
theorem spansFrom_flatMap_retold (style : PlaceholderStyle) (tokens : List Token) (start : Nat) :
    spansFrom start (tokens.flatMap (Token.retold style.marker)) = spansFrom start tokens := by
  -- What stands behind a token begins at the same byte in both readings.
  induction tokens generalizing start with
  | nil => rfl
  | cons token tokens ih => rw [List.flatMap_cons, spansFrom_retold, ih, spansFrom]

/-- No region begins in front of the tokens that it is one of. -/
theorem le_start_of_mem_spansFrom {tokens : List Token} {start : Nat} {span : Span}
    (mem : span ∈ spansFrom start tokens) : start ≤ span.start := by
  -- A region is the first token, or begins behind it.
  induction tokens generalizing start with
  | nil => cases mem
  | cons token tokens ih =>
    rw [spansFrom, List.mem_append, Option.mem_toList] at mem
    rcases mem with here | behind
    · cases token <;> cases here
      exact Nat.le_refl start
    · exact Nat.le_trans (Nat.le_add_right ..) (ih behind)

/-- A dollar sign, or a placeholder, takes a byte at least and is no region. -/
theorem size_pos_of_isDollar {token : Token} (dollar : token.isDollar = true) (start : Nat) :
    0 < token.size ∧ token.span? start = none := by
  cases token with
  | region kind text => cases dollar
  | placeholder digits => exact ⟨Nat.succ_pos _, rfl⟩
  | plain c => exact ⟨c.utf8Size_pos, rfl⟩

/-- Where dollar signs are glued, a translated text has other regions than before. -/
theorem spansFrom_ne_of_glued {text : List Char} {tokens again : List Token}
    (splits : PlaceholderStyle.postgres.Splits text tokens) (stuck : glued tokens = true)
    (splits' : PlaceholderStyle.postgres.Splits (tokens.flatMap (spell '$')) again) (start : Nat) :
    spansFrom start again ≠ spansFrom start tokens := by
  induction splits generalizing again start with
  | nil => cases stuck
  | @cons text rest token tokens front splits ih =>
    rw [List.flatMap_cons] at splits'
    by_cases here : (token.isDollar && dollarAhead tokens) = true
    · -- A region begins at the first dollar sign of all, where there was none.
      obtain ⟨dollar, ahead⟩ := Bool.and_eq_true_iff.mp here
      have starts := (front.startsRegion_iff splits dollar).mpr ahead
      obtain ⟨pos, none⟩ := size_pos_of_isDollar dollar start
      generalize token.spell '$' ++ tokens.flatMap (spell '$') = shown at splits' starts
      cases splits' with
      | nil => simp [StartsRegion, delimiter] at starts
      | cons front' _ =>
        obtain ⟨kind, region, rfl, -⟩ := front'.reads starts
        intro same
        have mem : ⟨kind, start, start + (Token.region kind region).size⟩ ∈
            spansFrom start (token :: tokens) := by
          rw [← same]
          exact List.mem_cons_self ..
        rw [spansFrom, none] at mem
        have further := le_start_of_mem_spansFrom mem
        dsimp only at further
        omega
    · -- The first token is read as before, and the regions behind it differ.
      have tail : glued tokens = true := by
        rw [glued, Bool.or_eq_true] at stuck
        exact stuck.resolve_left here
      obtain ⟨behind, read⟩ :=
        PlaceholderStyle.postgres.exists_splits (tokens.flatMap (spell '$'))
      have whole := front.retold splits (fun _ => Bool.not_eq_true _ ▸ here) read
      rw [splits'.unique whole]
      intro same
      rw [spansFrom_retold, spansFrom] at same
      exact ih tail read _ (List.append_cancel_left same)

/-- Marks are no blanks, so that tokens have their blanks in the same places with any mark. -/
theorem map_isBlank_respell (style : PlaceholderStyle) (tokens : List Token) :
    (tokens.flatMap (spell style.marker)).map isBlank =
      (tokens.flatMap (spell style.other.marker)).map isBlank := by
  -- Only placeholders are spelled differently, and no mark of theirs is a blank.
  induction tokens with
  | nil => rfl
  | cons token tokens ih =>
    rw [List.flatMap_cons, List.flatMap_cons, List.map_append, List.map_append, ih]
    cases token with
    | region kind text => rfl
    | plain c => rfl
    | placeholder digits => cases style <;> rfl

namespace PlaceholderStyle

/-- The regions of a statement, from left to right. -/
def HasSpans (style : PlaceholderStyle) (sql : String) (spans : List Span) : Prop :=
  ∃ tokens, style.Splits sql.toList tokens ∧ spansFrom 0 tokens = spans

/-- Whether no two dollar signs are glued when a statement is translated. -/
def Loose (style : PlaceholderStyle) (sql : String) : Prop :=
  style = .postgres → ∀ tokens, style.Splits sql.toList tokens → glued tokens = false

variable {style : PlaceholderStyle} {sql : String} {tokens : List Token}

/-- A statement has one list of regions. -/
theorem existsUnique_hasSpans (style : PlaceholderStyle) (sql : String) :
    ∃! spans, style.HasSpans sql spans := by
  -- Every text is split into tokens, and in one way only.
  obtain ⟨tokens, splits⟩ := style.exists_splits sql.toList
  refine ⟨spansFrom 0 tokens, ⟨tokens, splits, rfl⟩, ?_⟩
  rintro _ ⟨others, splits', rfl⟩
  rw [splits'.unique splits]

/-- A statement whose dollar signs stay apart is translated once and for all. -/
theorem Loose.translate_translate (loose : style.Loose sql) :
    style.translate (style.translate sql) = style.translate sql := by
  obtain ⟨tokens, splits⟩ := style.exists_splits sql.toList
  have shown : (style.translate sql).toList = tokens.flatMap (spell style.marker) := by
    rw [translate, String.toList_ofList, splits.restyle_eq]
  have again := splits.retold fun target => loose target tokens splits
  rw [← shown] at again
  -- Among the tokens that are told again, none is a placeholder.
  have none : ∀ digits, Token.placeholder digits ∉ tokens.flatMap (Token.retold style.marker) := by
    intro digits mem
    obtain ⟨token, -, inside⟩ := List.mem_flatMap.mp mem
    cases token <;> simp [Token.retold] at inside
  have differ : style.marker ≠ style.other.marker := by cases style <;> decide
  rw [← String.toList_inj, translate, String.toList_ofList, again.restyle_eq,
    (flatMap_spell_eq_iff differ _).mpr none, ← again.eq_flatMap]

/-- A statement that is trimmed is so when it is translated. -/
theorem trim_translate_trim (style : PlaceholderStyle) (sql : String) :
    trim (style.translate (trim sql)) = style.translate (trim sql) := by
  obtain ⟨tokens, splits⟩ := style.exists_splits (trim sql).toList
  have shown : (style.translate (trim sql)).toList = tokens.flatMap (spell style.marker) := by
    rw [translate, String.toList_ofList, splits.restyle_eq]
  have trimmed : trimEnds (trim sql).toList = (trim sql).toList := by
    rw [trim, String.toList_ofList, trimEnds_trimEnds]
  rw [trimEnds_eq_self_iff, splits.eq_flatMap, ← map_isBlank_respell, ← shown,
    ← trimEnds_eq_self_iff] at trimmed
  rw [trim, trimmed, String.ofList_toList]

end PlaceholderStyle

/-- Translation leaves the regions of a statement in their places exactly if it writes no dollar
sign that is glued to another one: in the style of PostgreSQL, no placeholder may have a dollar sign
or another placeholder on either side with nothing but letters, digits and underscores between. Then
a second translation changes nothing, and neither does a second normalization of a statement that is
so when it is trimmed. -/
theorem hasSpans_translate_iff (style : PlaceholderStyle) (sql : String) :
    (∃! spans, style.HasSpans sql spans) ∧ (∃! spans, style.HasSpans (style.translate sql) spans) ∧
    ((∀ spans, style.HasSpans (style.translate sql) spans ↔ style.HasSpans sql spans) ↔
      style.Loose sql) ∧
    (style.Loose sql → style.translate (style.translate sql) = style.translate sql) ∧
    (style.Loose (trim sql) → style.normalize (style.normalize sql) = style.normalize sql) := by
  refine ⟨style.existsUnique_hasSpans sql, style.existsUnique_hasSpans _, ?_,
    fun loose => loose.translate_translate, ?_⟩
  · obtain ⟨tokens, splits⟩ := style.exists_splits sql.toList
    have shown : (style.translate sql).toList = tokens.flatMap (spell style.marker) := by
      rw [PlaceholderStyle.translate, String.toList_ofList, splits.restyle_eq]
    constructor
    · rintro same rfl others splits'
      obtain rfl := splits'.unique splits
      obtain ⟨again, splits'', there⟩ := (same _).mpr ⟨others, splits, rfl⟩
      rw [shown] at splits''
      exact Bool.eq_false_iff.mpr fun stuck => spansFrom_ne_of_glued splits stuck splits'' 0 there
    · intro loose spans
      have again := splits.retold fun target => loose target tokens splits
      rw [← shown] at again
      constructor
      · rintro ⟨others, splits', rfl⟩
        rw [splits'.unique again, spansFrom_flatMap_retold]
        exact ⟨tokens, splits, rfl⟩
      · rintro ⟨others, splits', rfl⟩
        rw [splits'.unique splits, ← spansFrom_flatMap_retold style]
        exact ⟨_, again, rfl⟩
  · intro loose
    unfold PlaceholderStyle.normalize
    rw [style.trim_translate_trim, loose.translate_translate]

/-- A literal is in another place once the placeholder in front of it has its dollar sign beside one
of the statement's own, and then a placeholder inside the literal is translated too. -/
theorem translate_translate_ne_of_glued :
    let style := PlaceholderStyle.postgres
    let sql := "?1$ ' $1$ ?2 '"
    style.HasSpans sql [⟨.quoted '\'', 4, 14⟩] ∧
      ¬style.HasSpans (style.translate sql) [⟨.quoted '\'', 4, 14⟩] ∧
      style.translate (style.translate sql) ≠ style.translate sql := by
  intro style sql
  let quoted := '\'' :: (" $1$ ?2 ".toList ++ ['\''])
  let tokens : List Token :=
    [.placeholder ['1'], .plain '$', .plain ' ', .region (.quoted '\'') quoted]
  have doubled : Doubled '\'' " $1$ ?2 ".toList := by
    repeat' first | exact .nil | refine .char (by decide) ?_
  have closed : style.Front (quoted ++ []) (.region (.quoted '\'') quoted) [] :=
    .closed (.quoted (.inl rfl) doubled (by decide))
  have mark : style.Front ('?' :: (['1'] ++ '$' :: ' ' :: quoted)) (.placeholder ['1'])
      ('$' :: ' ' :: quoted) :=
    .placeholder (by decide) (by decide) (List.forall_mem_singleton.mpr (by decide)) (by decide)
  have dollar : style.Front ('$' :: ' ' :: quoted) (.plain '$') (' ' :: quoted) :=
    .plain (by decide) (by decide)
  have blank : style.Front (' ' :: quoted) (.plain ' ') quoted :=
    .plain (by decide) (by decide)
  have splits : style.Splits ('?' :: '1' :: '$' :: ' ' :: quoted) tokens :=
    .cons mark (.cons dollar (.cons blank (.cons closed .nil)))
  have text : sql.toList = '?' :: '1' :: '$' :: ' ' :: quoted := by decide
  have shown : (style.translate sql).toList = tokens.flatMap (spell '$') := by decide
  refine ⟨⟨tokens, text ▸ splits, by decide⟩, ?_, by decide⟩
  rintro ⟨others, splits', same⟩
  exact spansFrom_ne_of_glued splits (by decide) (shown ▸ splits') 0 same

end Querent
