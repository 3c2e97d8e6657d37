/-! Plain searching in text: runs of characters, double-space fields and ASCII letter case. -/

namespace Querent

/-- Whether a run of characters stands somewhere in a text. -/
def occursIn (run : List Char) : List Char → Bool
  | [] => run.isEmpty
  | c :: rest => run.isPrefixOf (c :: rest) || occursIn run rest

/-- Whether a text holds another one, letter for letter. -/
def holds (text run : String) : Bool :=
  occursIn run.toList text.toList

/-- Fields of a text that two spaces separate, taking each separator as far left as it stands. -/
def fields : List Char → List (List Char)
  | ' ' :: ' ' :: rest => [] :: fields rest
  | c :: rest =>
    match fields rest with
    | [] => [[c]]
    | field :: others => (c :: field) :: others
  | [] => [[]]

/-- A text with its ASCII letters in upper case. -/
def upper (text : String) : String :=
  String.ofList (text.toList.map Char.toUpper)

/-- Whether two texts agree but for the case of their ASCII letters. -/
def sameLetters (left right : String) : Bool :=
  left.toList.map Char.toLower == right.toList.map Char.toLower

/-- Texts put one after another with a separator between neighbours. -/
def joinWith (separator : String) : List String → String
  | [] => ""
  | [text] => text
  | text :: others => text ++ separator ++ joinWith separator others

end Querent
