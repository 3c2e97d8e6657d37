import Querent.Session.Run

/-! Single values, rows and columns of the last result, which a statement may make first. -/

namespace Querent

/-- The name of a shape in a call. -/
def Shape.word : Shape → String
  | object => "Object"
  | associative => "Associative"
  | positional => "Positional"
  | json => "Json"

namespace Session

variable {σ : Type}

/-- Runs a statement if there is one. -/
def queryIfGiven (session : Session σ) : Option String → Step σ Unit
  | none => (.ok (), session)
  | some sql => (session.query sql).andThen fun _ session => (.ok (), session)

/-- Remembers a reading call: its name, its statement and what else it was given. -/
def logReading (session : Session σ) (name : String) (sql : Option String)
    (others : List String) : Session σ :=
  session.logCall (name ++ "(" ++ joinWith ", " (("\"" ++ sql.getD "" ++ "\"") :: others) ++ ")")

/-- The rows of the last result. -/
def heldRows (session : Session σ) : List Row :=
  (session.record.given.rows.map ResultSet.rows).getD []

/-- The value in a column and a row of the last result, unless it is null. -/
def valueAt? (session : Session σ) (column row : Nat) : Option Value :=
  session.record.given.rows.bind fun set => set.value? row column

/-- One value. -/
def getValue (session : Session σ) (sql : Option String) (column row : Nat) :
    Step σ (Option Value) :=
  let session := session.logReading "get_var" sql [toString column, toString row]
  (session.queryIfGiven sql).andThen fun _ session => (.ok (session.valueAt? column row), session)

/-- One row in a shape. -/
def getRow (session : Session σ) (sql : Option String) (shape : Shape) (row : Nat) :
    Step σ (Option RowView) :=
  let session := session.logReading "get_row" sql [shape.word, toString row]
  (session.queryIfGiven sql).andThen fun _ session =>
    (.ok (session.heldRows[row]?.map (Row.view shape)), session)

/-- One column, its nulls left out of their places. -/
def getColumn (session : Session σ) (sql : Option String) (column : Nat) :
    Step σ (List (Option Value)) :=
  let session := session.logReading "get_col" sql [toString column]
  (session.queryIfGiven sql).andThen fun _ session =>
    (.ok ((List.range session.heldRows.length).map (session.valueAt? column)), session)

/-- All rows in a shape. -/
def getResults (session : Session σ) (sql : Option String) (shape : Shape) : Step σ RowsView :=
  let session := session.logReading "get_results" sql [shape.word]
  (session.queryIfGiven sql).andThen fun _ session =>
    (.ok (.ofRows shape session.heldRows), session)

/-- An attribute of all columns of the last result, or of one of them. -/
def columnAttributes (session : Session σ) (wanted : ColumnAttribute) (index : Option Nat) :
    List (Option String) :=
  let columns := session.record.given.columns
  let chosen := match index with
    | none => columns
    | some index => columns[index]?.toList
  chosen.map (·.text? wanted)

end Session

end Querent
