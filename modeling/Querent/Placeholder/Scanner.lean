/-! Reading a statement one character at a time, to tell its own text from what it quotes. -/

namespace Querent

/-- How numbered placeholders are marked. -/
inductive PlaceholderStyle
  | postgres
  | sqlite
deriving DecidableEq, Repr

/-- The mark in front of a placeholder's number. -/
def PlaceholderStyle.marker : PlaceholderStyle → Char
  | postgres => '$'
  | sqlite => '?'

/-- The style whose placeholders are turned into those of this one. -/
def PlaceholderStyle.other : PlaceholderStyle → PlaceholderStyle
  | postgres => sqlite
  | sqlite => postgres

/-- What the next character of a statement belongs to. -/
inductive Context
  /-- The statement's own text. -/
  | plain
  /-- A literal between single quotes. -/
  | literal
  /-- A name between double quotes. -/
  | quotedName
  /-- A comment up to the end of its line. -/
  | lineComment
  /-- Comments of which one or more enclose one another. -/
  | blockComment (depth : Nat)
  /-- A body between two equal tags in dollar signs. -/
  | dollarBody (tag : List Char)
deriving DecidableEq, Repr

/-- What is done at one character. -/
structure Move where
  /-- The character written for it. -/
  write : Char
  /-- How many of the characters after it are passed over unread. -/
  skip : Nat
  /-- The context after those. -/
  context : Context
deriving DecidableEq, Repr

/-- Whether a character may stand in a dollar tag. -/
def isTagChar (c : Char) : Bool :=
  c.isAlphanum || c = '_'

/-- The tag that the rest of a text completes after a dollar sign. -/
def dollarTag? (rest : List Char) : Option (List Char) :=
  let tag := rest.takeWhile isTagChar
  if (rest.drop tag.length).head? = some '$' then some tag else none

/-- The move in the statement's own text. -/
def PlaceholderStyle.plainMove (style : PlaceholderStyle) (c : Char) (rest : List Char) : Move :=
  if c = '\'' then ⟨c, 0, .literal⟩
  else if c = '"' then ⟨c, 0, .quotedName⟩
  else if c = '-' ∧ rest.head? = some '-' then ⟨c, 1, .lineComment⟩
  else if c = '/' ∧ rest.head? = some '*' then ⟨c, 1, .blockComment 1⟩
  else match if c = '$' then dollarTag? rest else none with
    | some tag => ⟨c, tag.length + 1, .dollarBody tag⟩
    | none =>
      let digits := rest.takeWhile Char.isDigit
      if c = style.other.marker ∧ digits ≠ [] then ⟨style.marker, digits.length, .plain⟩
      else ⟨c, 0, .plain⟩

/-- The move between two quotes of a kind, where the quote written twice is a character. -/
def quotedMove (quote : Char) (inside : Context) (c : Char) (rest : List Char) : Move :=
  if c = quote then
    if rest.head? = some quote then ⟨c, 1, inside⟩ else ⟨c, 0, .plain⟩
  else ⟨c, 0, inside⟩

/-- The move inside comments that enclose one another. -/
def commentMove (depth : Nat) (c : Char) (rest : List Char) : Move :=
  if c = '/' ∧ rest.head? = some '*' then ⟨c, 1, .blockComment (depth + 1)⟩
  else if c = '*' ∧ rest.head? = some '/' then
    ⟨c, 1, if depth = 1 then .plain else .blockComment (depth - 1)⟩
  else ⟨c, 0, .blockComment depth⟩

/-- The move in a context. -/
def PlaceholderStyle.move (style : PlaceholderStyle) (context : Context) (c : Char)
    (rest : List Char) : Move :=
  match context with
  | .plain => style.plainMove c rest
  | .literal => quotedMove '\'' .literal c rest
  | .quotedName => quotedMove '"' .quotedName c rest
  | .lineComment => ⟨c, 0, if c = '\n' then .plain else .lineComment⟩
  | .blockComment depth => commentMove depth c rest
  | .dollarBody tag =>
    if c = '$' ∧ (tag ++ ['$']).isPrefixOf rest then ⟨c, tag.length + 1, .plain⟩
    else ⟨c, 0, .dollarBody tag⟩

/-- The characters written for a text, of which some at the front are passed over. -/
def PlaceholderStyle.restyle (style : PlaceholderStyle) : Nat → Context → List Char → List Char
  | _, _, [] => []
  | skip + 1, context, c :: rest => c :: style.restyle skip context rest
  | 0, context, c :: rest =>
    let move := style.move context c rest
    move.write :: style.restyle move.skip move.context rest

/-- Whether another character is written for one of a text, of which some at the front are passed
over. -/
def PlaceholderStyle.rewrites (style : PlaceholderStyle) : Nat → Context → List Char → Bool
  | _, _, [] => false
  | skip + 1, context, _ :: rest => style.rewrites skip context rest
  | 0, context, c :: rest =>
    let move := style.move context c rest
    move.write != c || style.rewrites move.skip move.context rest

end Querent
