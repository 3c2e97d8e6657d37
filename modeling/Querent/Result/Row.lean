import Querent.Value.Basic

/-! Columns and rows of a result. -/

namespace Querent

/-- What a backend tells of a column. -/
structure Column where
  name : String
  nativeType : String
  size : Option Int64
deriving DecidableEq, Repr

/-- The name and the type of a column that a backend cannot describe. -/
def undefinedWord : String := "undefined"

/-- A column that a backend cannot describe. -/
def Column.undefined : Column :=
  ⟨undefinedWord, undefinedWord, none⟩

/-- What a caller may ask of a column. -/
inductive ColumnAttribute
  | name
  | nativeType
  | size
deriving DecidableEq, Repr

/-- An attribute of a column as text. -/
def Column.text? (column : Column) : ColumnAttribute → Option String
  | .name => some column.name
  | .nativeType => some column.nativeType
  | .size => column.size.map fun size => toString size.toInt

/-- A row: the names of the columns and its own values, which may be fewer or more. -/
structure Row where
  names : List String
  values : List Value
deriving Repr

namespace Row

/-- The place of the first column with a name. -/
def indexOf? (row : Row) (name : String) : Option Nat :=
  row.names.findIdx? (· == name)

/-- The value in the first column with a name. -/
def get? (row : Row) (name : String) : Option Value := do
  row.values[← row.indexOf? name]?

/-- Names and values side by side, as many as there are of both. -/
def pairs (row : Row) : List (String × Value) :=
  row.names.zip row.values

/-- The row as a JSON object. -/
def toJson (row : Row) : Json :=
  .ofPairs (row.pairs.map fun pair => (pair.1, pair.2.toJson))

end Row

end Querent
