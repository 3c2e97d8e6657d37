import Querent.Text.Blank

/-! What a statement does, as its first word tells. -/

namespace Querent

/-- Whether a statement changes data or gives rows. -/
inductive StatementKind
  | mutating
  | rows
deriving DecidableEq, Repr

/-- Whether a character stands for a small ASCII letter once letter case is folded. -/
def foldsTo (letter c : Char) : Bool :=
  -- Two letters outside ASCII fold into it: the long s and the sign of the kelvin.
  c.toLower == letter || (letter == 's' && c == '\u017F') || (letter == 'k' && c == '\u212A')

/-- What follows a word at the front of a text, its letters in any case. -/
def afterWord? : List Char → List Char → Option (List Char)
  | [], text => some text
  | _ :: _, [] => none
  | letter :: word, c :: rest => if foldsTo letter c then afterWord? word rest else none

/-- Whether a statement begins with a word and a blank. -/
def beginsWith (word : String) (sql : String) : Bool :=
  match afterWord? word.toList (trimFront sql.toList) with
  | some (c :: _) => isBlank c
  | _ => false

/-- The first words of statements that change data. -/
def mutatingWords : List String :=
  ["insert", "delete", "update", "replace", "drop", "create"]

/-- The kind of a statement. -/
def StatementKind.of (sql : String) : StatementKind :=
  if mutatingWords.any (beginsWith · sql) then mutating else rows

/-- Whether a statement gives an id to a new row. -/
def givesId (sql : String) : Bool :=
  beginsWith "insert" sql || beginsWith "replace" sql

end Querent
