import Querent.Result.Row

/-! Results of statements, and the shapes in which rows are given to callers. -/

namespace Querent

/-- Columns and rows that a statement gave. -/
structure ResultSet where
  columns : List Column
  /-- The values of each row, in the order of fetching. -/
  values : List (List Value)
deriving Repr

namespace ResultSet

/-- A result without columns and rows. -/
def empty : ResultSet := ⟨[], []⟩

/-- The names of the columns. -/
def names (set : ResultSet) : List String :=
  set.columns.map Column.name

/-- The rows, each with the names of the columns. -/
def rows (set : ResultSet) : List Row :=
  set.values.map fun values => ⟨set.names, values⟩

/-- How many rows there are. -/
def size (set : ResultSet) : Nat :=
  set.values.length

/-- The value in a row and a column, unless it is null. -/
def value? (set : ResultSet) (row column : Nat) : Option Value :=
  (set.values[row]?.bind fun values => values[column]?).filter fun value => !value.isNull

end ResultSet

/-- What a statement did. -/
inductive QueryResult
  | affected (count : UInt64) (insertId : Option Int64)
  | rows (set : ResultSet)
deriving Repr

namespace QueryResult

/-- How many rows were affected or fetched. -/
def count : QueryResult → Nat
  | affected count _ => count.toNat
  | rows set => set.size

/-- The id of a new row. -/
def insertId : QueryResult → Option Int64
  | affected _ insertId => insertId
  | rows _ => none

/-- The rows of a statement that gives rows. -/
def rows? : QueryResult → Option ResultSet
  | affected _ _ => none
  | rows set => some set

end QueryResult

/-- The shapes in which rows are given. -/
inductive Shape
  /-- Rows with their names. -/
  | object
  /-- Pairs of name and value. -/
  | associative
  /-- Values alone. -/
  | positional
  /-- JSON text. -/
  | json
deriving DecidableEq, Repr

/-- A row in a shape. -/
inductive RowView
  | object (row : Row)
  | associative (pairs : List (String × Value))
  | positional (values : List Value)
  | json (text : String)
deriving Repr

/-- All rows in a shape. -/
inductive RowsView
  | object (rows : List Row)
  | associative (rows : List (List (String × Value)))
  | positional (rows : List (List Value))
  | json (text : String)
deriving Repr

/-- One row in a shape. -/
def Row.view (shape : Shape) (row : Row) : RowView :=
  match shape with
  | .object => .object row
  | .associative => .associative row.pairs
  | .positional => .positional row.values
  | .json => .json row.toJson.render

/-- All of some rows in a shape. -/
def RowsView.ofRows (shape : Shape) (rows : List Row) : RowsView :=
  match shape with
  | .object => .object rows
  | .associative => .associative (rows.map Row.pairs)
  | .positional => .positional (rows.map Row.values)
  | .json => .json (Json.array (rows.map Row.toJson)).render

/-- How many rows a view has, unless they are one text. -/
def RowsView.size? : RowsView → Option Nat
  | object rows => some rows.length
  | associative rows => some rows.length
  | positional rows => some rows.length
  | json _ => none

end Querent
