import Querent.Placeholder.Scanner

/-! The tokens of a statement, told by a grammar of their texts and not by a machine that reads. -/

namespace Querent

/-- A kind of text that a statement keeps apart from its own. -/
inductive Region
  /-- A literal or a name, by the quote at both its ends. -/
  | quoted (quote : Char)
  | lineComment
  | blockComment
  | dollarBody
deriving DecidableEq, Repr

/-- A piece of a statement that is read as one. -/
inductive Token
  | region (kind : Region) (text : List Char)
  /-- A numbered placeholder, by its digits. -/
  | placeholder (digits : List Char)
  /-- A character of the statement's own text. -/
  | plain (c : Char)
deriving DecidableEq, Repr

/-- The characters of a token, where a mark stands in front of a placeholder's digits. -/
def Token.spell (marker : Char) : Token → List Char
  | region _ text => text
  | placeholder digits => marker :: digits
  | plain c => [c]

/-- Whether a character begins a literal or a quoted name. -/
def IsQuote (c : Char) : Prop :=
  c = '\'' ∨ c = '"'

/-- Characters between two quotes, where the quote itself is written twice. -/
inductive Doubled (quote : Char) : List Char → Prop
  | nil : Doubled quote []
  | char {c : Char} {body : List Char} :
      c ≠ quote → Doubled quote body → Doubled quote (c :: body)
  | twice {body : List Char} : Doubled quote body → Doubled quote (quote :: quote :: body)

/-- What follows the opening of a comment, up to the end of that comment. -/
inductive Comment : List Char → Prop
  | close : Comment ['*', '/']
  /-- A comment inside, and then the rest of the outer one. -/
  | nested {inner outer : List Char} :
      Comment inner → Comment outer → Comment ('/' :: '*' :: (inner ++ outer))
  | char {c : Char} {body : List Char} :
      ¬['/', '*'] <+: c :: body → ¬['*', '/'] <+: c :: body → Comment body → Comment (c :: body)

/-- Whether what follows the opening of a comment has a place, before the end of that comment, that
is inside of some more comments. -/
inductive Deep : Nat → List Char → Prop
  | here {text : List Char} : Deep 0 text
  /-- The place is inside of the comment that opens. -/
  | inside {more : Nat} {text : List Char} : Deep more text → Deep (more + 1) ('/' :: '*' :: text)
  /-- The place is behind a comment that opens and ends. -/
  | behind {more : Nat} {inner text : List Char} :
      Comment inner → Deep more text → Deep more ('/' :: '*' :: (inner ++ text))
  | char {more : Nat} {c : Char} {text : List Char} :
      ¬['/', '*'] <+: c :: text → ¬['*', '/'] <+: c :: text → Deep more text →
      Deep more (c :: text)

/-- Whether some characters make a dollar tag. -/
def IsTag (tag : List Char) : Prop :=
  ∀ c ∈ tag, isTagChar c = true

/-- Whether a token is a comment with a place in it that is inside of as many comments as cannot be
counted in thirty-two bits. -/
def Token.TooDeep (token : Token) : Prop :=
  ∃ body, token = .region .blockComment ('/' :: '*' :: body) ∧ Deep (UInt32.size - 1) body

/-- What opens and closes a dollar body. -/
def delimiter (tag : List Char) : List Char :=
  '$' :: (tag ++ ['$'])

/-- A text that is a whole region, where a text follows it. -/
inductive Closed : Region → List Char → List Char → Prop
  | quoted {quote : Char} {body rest : List Char} :
      IsQuote quote → Doubled quote body → rest.head? ≠ some quote →
      Closed (.quoted quote) (quote :: (body ++ [quote])) rest
  | lineComment {body rest : List Char} :
      '\n' ∉ body → Closed .lineComment ('-' :: '-' :: (body ++ ['\n'])) rest
  | blockComment {body rest : List Char} :
      Comment body → Closed .blockComment ('/' :: '*' :: body) rest
  /-- The body is the shortest one that the delimiter follows. -/
  | dollarBody {tag body rest : List Char} :
      IsTag tag →
      (∀ shorter, shorter ++ delimiter tag <+: body ++ delimiter tag → shorter = body) →
      Closed .dollarBody (delimiter tag ++ (body ++ delimiter tag)) rest

/-- A text that begins a region and never ends it. -/
inductive Unclosed : Region → List Char → Prop
  | quoted {quote : Char} {body : List Char} :
      IsQuote quote → Doubled quote body → Unclosed (.quoted quote) (quote :: body)
  | lineComment {body : List Char} :
      '\n' ∉ body → Unclosed .lineComment ('-' :: '-' :: body)
  | blockComment {body : List Char} :
      (∀ whole, whole <+: body → ¬Comment whole) → Unclosed .blockComment ('/' :: '*' :: body)
  | dollarBody {tag body : List Char} :
      IsTag tag → ¬delimiter tag <:+: body → Unclosed .dollarBody (delimiter tag ++ body)

/-- Whether a region begins at the front of a text. -/
def StartsRegion (text : List Char) : Prop :=
  (∃ quote, IsQuote quote ∧ [quote] <+: text) ∨ ['-', '-'] <+: text ∨ ['/', '*'] <+: text ∨
    ∃ tag, IsTag tag ∧ delimiter tag <+: text

/-- Whether a text goes on with a digit. -/
def StartsDigit (text : List Char) : Prop :=
  text.head?.any Char.isDigit = true

/-- Whether a digit comes next is read off the first character. -/
instance (text : List Char) : Decidable (StartsDigit text) :=
  inferInstanceAs (Decidable (_ = true))

/-- The token at the front of a text, and the text after it; regions come before placeholders. -/
inductive PlaceholderStyle.Front (style : PlaceholderStyle) :
    List Char → Token → List Char → Prop
  | closed {kind : Region} {text rest : List Char} :
      Closed kind text rest → style.Front (text ++ rest) (.region kind text) rest
  | unclosed {kind : Region} {text : List Char} :
      Unclosed kind text → style.Front text (.region kind text) []
  | placeholder {digits rest : List Char} :
      ¬StartsRegion (style.other.marker :: (digits ++ rest)) → digits ≠ [] →
      (∀ d ∈ digits, d.isDigit = true) → ¬StartsDigit rest →
      style.Front (style.other.marker :: (digits ++ rest)) (.placeholder digits) rest
  | plain {c : Char} {rest : List Char} :
      ¬StartsRegion (c :: rest) → ¬(c = style.other.marker ∧ StartsDigit rest) →
      style.Front (c :: rest) (.plain c) rest

/-- The tokens of a text, from left to right. -/
inductive PlaceholderStyle.Splits (style : PlaceholderStyle) : List Char → List Token → Prop
  | nil : style.Splits [] []
  | cons {text rest : List Char} {token : Token} {tokens : List Token} :
      style.Front text token rest → style.Splits rest tokens →
      style.Splits text (token :: tokens)

/-- A token stands in front of what is left when it is taken off. -/
theorem PlaceholderStyle.Front.eq_spell {style : PlaceholderStyle} {text rest : List Char}
    {token : Token} (front : style.Front text token rest) :
    text = token.spell style.other.marker ++ rest := by
  -- Every way to read a token names its characters and the rest side by side.
  cases front <;> simp [Token.spell]

end Querent
