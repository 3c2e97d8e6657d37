import Querent.Json.Basic
import Querent.Number.Layout
import Querent.Text.Hex

/-! JSON values as compact text. -/

namespace Querent

namespace Json

/-- How one character stands between quotes. -/
def escape (c : Char) : List Char :=
  if c = '"' then ['\\', '"']
  else if c = '\\' then ['\\', '\\']
  else if c = '\x08' then ['\\', 'b']
  else if c = '\t' then ['\\', 't']
  else if c = '\n' then ['\\', 'n']
  else if c = '\x0C' then ['\\', 'f']
  else if c = '\r' then ['\\', 'r']
  else if c.toNat < 0x20 then ['\\', 'u', '0', '0', hexDigit (c.toNat / 16), hexDigit c.toNat]
  else [c]

/-- A text between quotes. -/
def quote (text : String) : List Char :=
  '"' :: text.toList.flatMap escape ++ ['"']

mutual

/-- The characters of a value, without blanks. -/
def print : Json → List Char
  | null => "null".toList
  | bool true => "true".toList
  | bool false => "false".toList
  | whole number => (toString number.value).toList
  | float number => (jsonFloat.text number).toList
  | text content => quote content
  | array items => '[' :: printItems items ++ [']']
  | object members => '\x7b' :: printMembers members ++ ['\x7d']

/-- Items with commas between them. -/
def printItems : List Json → List Char
  | [] => []
  | [item] => print item
  | item :: rest => print item ++ ',' :: printItems rest

/-- Members with commas between them. -/
def printMembers : List (String × Json) → List Char
  | [] => []
  | [(name, value)] => quote name ++ ':' :: print value
  | (name, value) :: rest => quote name ++ ':' :: print value ++ ',' :: printMembers rest

end

/-- The compact text of a value. -/
def render (value : Json) : String :=
  String.ofList value.print

end Json

end Querent
