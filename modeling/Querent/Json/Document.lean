import Querent.Json.Basic
import Querent.Text.Hex
import Querent.Text.Utf8

/-! JSON text as written: numbers by their digits, and strings that may spell no text. -/

namespace Querent

/-- A number as it is written. -/
structure Numeral where
  negative : Bool
  /-- Digits before the point. -/
  whole : List Char
  /-- Digits after the point, if there is one. -/
  fraction : Option (List Char)
  /-- Whether the exponent is negative and its digits, if there is one. -/
  exponent : Option (Bool × List Char)
deriving DecidableEq, Repr

/-- A JSON value as it is written; a string is none where its escapes spell no text. -/
inductive Document where
  | null
  | bool (flag : Bool)
  | number (numeral : Numeral)
  | text (content : Option String)
  | array (items : List Document)
  | object (members : List (Option String × Document))
deriving Repr

/-- A part of a written string: a character, or a sixteen-bit unit that an escape gives. -/
inductive StringPart where
  | plain (c : Char)
  | unit (code : Nat)
deriving DecidableEq, Repr

/-- What a one-letter escape stands for. -/
def shortEscape? : Char → Option Char
  | '"' => some '"'
  | '\\' => some '\\'
  | '/' => some '/'
  | 'b' => some '\x08'
  | 'f' => some '\x0C'
  | 'n' => some '\n'
  | 'r' => some '\r'
  | 't' => some '\t'
  | _ => none

/-- Whether a unit is the first half of a surrogate pair. -/
def isHighHalf (code : Nat) : Bool := 0xD800 ≤ code && code < 0xDC00

/-- Whether a unit is the second half of a surrogate pair. -/
def isLowHalf (code : Nat) : Bool := 0xDC00 ≤ code && code < 0xE000

/-- The text that parts spell, if every half of a surrogate pair has its partner. -/
def spell : List StringPart → Option (List Char)
  | [] => some []
  | .plain c :: rest => (spell rest).map (c :: ·)
  | .unit high :: .unit low :: rest =>
    if isHighHalf high then
      if isLowHalf low then
        (spell rest).map (Char.ofNat (0x10000 + (high - 0xD800) * 0x400 + (low - 0xDC00)) :: ·)
      else none
    else if isLowHalf high then none
    else (spell (.unit low :: rest)).map (Char.ofNat high :: ·)
  | .unit code :: rest =>
    if isHighHalf code || isLowHalf code then none
    else (spell rest).map (Char.ofNat code :: ·)

/-- The parts of a string up to its closing quote, and what follows. -/
def readParts : List Char → Option (List StringPart × List Char)
  | [] => none
  | '"' :: rest => some ([], rest)
  | '\\' :: 'u' :: a :: b :: c :: d :: rest => do
    let code ← hexNumber? [a, b, c, d]
    let (parts, rest) ← readParts rest
    return (.unit code :: parts, rest)
  | '\\' :: letter :: rest => do
    let c ← shortEscape? letter
    let (parts, rest) ← readParts rest
    return (.plain c :: parts, rest)
  | c :: rest => do
    -- A backslash at the end of the text opens no escape.
    if c.toNat < 0x20 || c = '\\' then none
    else
      let (parts, rest) ← readParts rest
      return (.plain c :: parts, rest)

/-- A string after its opening quote, and what follows. -/
def readString (text : List Char) : Option (Option String × List Char) :=
  (readParts text).map fun (parts, rest) => ((spell parts).map String.ofList, rest)

/-- The leading digits of a text, if it has one, and what follows. -/
def readDigits (text : List Char) : Option (List Char × List Char) :=
  match text.span Char.isDigit with
  | ([], _) => none
  | (digits, rest) => some (digits, rest)

/-- The exponent at the front of a text, if it has one, and what follows. -/
def readExponent : List Char → Option (Option (Bool × List Char) × List Char)
  | [] => some (none, [])
  | mark :: rest =>
    if mark = 'e' || mark = 'E' then
      let (negative, rest) := match rest with
        | '-' :: rest => (true, rest)
        | '+' :: rest => (false, rest)
        | rest => (false, rest)
      (readDigits rest).map fun (digits, rest) => (some (negative, digits), rest)
    else some (none, mark :: rest)

/-- The fraction at the front of a text, if it has one, and what follows. -/
def readFraction : List Char → Option (Option (List Char) × List Char)
  | '.' :: rest => (readDigits rest).map fun (digits, rest) => (some digits, rest)
  | rest => some (none, rest)

/-- A number at the front of a text, and what follows; a zero stands alone before the point. -/
def readNumber (text : List Char) : Option (Numeral × List Char) := do
  let (negative, rest) := match text with
    | '-' :: rest => (true, rest)
    | rest => (false, rest)
  let (whole, rest) ← readDigits rest
  if whole.head? = some '0' && whole.length != 1 then none
  else
    let (fraction, rest) ← readFraction rest
    let (exponent, rest) ← readExponent rest
    return (⟨negative, whole, fraction, exponent⟩, rest)

/-- What follows the blanks that JSON allows between tokens. -/
def skipBlanks (text : List Char) : List Char :=
  text.dropWhile fun c => c = ' ' || c = '\n' || c = '\t' || c = '\r'

/-- What follows a given word. -/
def readWord (word text : List Char) : Option (List Char) :=
  if word.isPrefixOf text then some (text.drop word.length) else none

mutual

/-- A value at the front of a text, and what follows; each step of nesting or listing takes fuel. -/
def readValue : Nat → List Char → Option (Document × List Char)
  | 0, _ => none
  | fuel + 1, text =>
    match skipBlanks text with
    | '"' :: rest => (readString rest).map fun (content, rest) => (.text content, rest)
    | '[' :: rest =>
      match skipBlanks rest with
      | ']' :: rest => some (.array [], rest)
      | rest => (readItems fuel rest).map fun (items, rest) => (.array items, rest)
    | '\x7b' :: rest =>
      match skipBlanks rest with
      | '\x7d' :: rest => some (.object [], rest)
      | rest => (readMembers fuel rest).map fun (members, rest) => (.object members, rest)
    | 't' :: rest => (readWord "rue".toList rest).map fun rest => (.bool true, rest)
    | 'f' :: rest => (readWord "alse".toList rest).map fun rest => (.bool false, rest)
    | 'n' :: rest => (readWord "ull".toList rest).map fun rest => (.null, rest)
    | rest => (readNumber rest).map fun (numeral, rest) => (.number numeral, rest)

/-- Items up to the closing bracket, and what follows. -/
def readItems : Nat → List Char → Option (List Document × List Char)
  | 0, _ => none
  | fuel + 1, text => do
    let (item, rest) ← readValue fuel text
    match skipBlanks rest with
    | ',' :: rest =>
      let (items, rest) ← readItems fuel rest
      return (item :: items, rest)
    | ']' :: rest => return ([item], rest)
    | _ => none

/-- Members up to the closing brace, and what follows. -/
def readMembers : Nat → List Char → Option (List (Option String × Document) × List Char)
  | 0, _ => none
  | fuel + 1, text =>
    match skipBlanks text with
    | '"' :: rest => do
      let (name, rest) ← readString rest
      match skipBlanks rest with
      | ':' :: rest =>
        let (value, rest) ← readValue fuel rest
        match skipBlanks rest with
        | ',' :: rest =>
          let (members, rest) ← readMembers fuel rest
          return ((name, value) :: members, rest)
        | '\x7d' :: rest => return ([(name, value)], rest)
        | _ => none
      | _ => none
    | _ => none

end

/-- The value that a whole text spells, with blanks around it at most. -/
def Document.parse (text : String) : Option Document := do
  -- Every two steps of the reader take a character, so this fuel is never used up.
  let (document, rest) ← readValue (2 * text.length + 2) text.toList
  if (skipBlanks rest).isEmpty then some document else none

/-- A letter that ends any escape, and an escape that spells no text. -/
def strayEscape : List Char := "x\\udc00".toList

/-- The value that bytes spell. Those that are no UTF-8 may stand where an escape without a text
may: in a string that is not read. -/
def Document.ofBytes? (bytes : List UInt8) : Option Document :=
  parse (decodeBytes strayEscape bytes)

end Querent
