import Querent.Clause.Compiler
import Querent.Config.Basic
import Querent.Placeholder.Scanner
import Querent.Result.Row
import Querent.Statement.Kind

/-! What a session asks of a database, and what it is given. -/

namespace Querent

/-- Rows to be fetched one after another. -/
structure Cursor where
  /-- What the backend tells of each column; some it cannot describe. -/
  columns : List (Option Column)
  rows : List (List Value)
deriving Repr

namespace Cursor

/-- How many columns there are. -/
def columnCount (cursor : Cursor) : Nat :=
  cursor.columns.length

/-- What is known of a column. -/
def column? (cursor : Cursor) (index : Nat) : Option Column :=
  cursor.columns[index]?.join

/-- The next row, if one is left, and the cursor after it. -/
def fetch (cursor : Cursor) : Option (List Value) × Cursor :=
  (cursor.rows.head?, { cursor with rows := cursor.rows.drop 1 })

end Cursor

/-- What came of a statement. -/
inductive Execution
  | affected (count : UInt64)
  | cursor (rows : Cursor)
deriving Repr

/-- An execution in a few words. -/
def Execution.summary : Execution → String
  | affected count => s!"Affected({count.toNat})"
  | cursor rows => "Cursor \x7b columns: " ++ toString rows.columnCount ++ " \x7d"

/-- What reaches a database. -/
inductive Call
  | connect (params : ConnectParams)
  | disconnect
  /-- A statement that binds nothing. -/
  | execute (sql : String) (kind : StatementKind)
  /-- A statement together with the values that it binds. -/
  | executePrepared (sql : String) (values : List Value) (kind : StatementKind)
deriving Repr

/-- A kind of database, as steps between the states of a link to it. -/
structure Backend (σ : Type) where
  name : String
  style : PlaceholderStyle
  /-- The SQL expression for the present time. -/
  presentTime : String := "NOW()"
  escape : Escape
  connect : ConnectParams → σ → Except Failure Unit × σ
  disconnect : σ → Except Failure Unit × σ
  isConnected : σ → Bool
  execute : String → StatementKind → σ → Except Failure Execution × σ
  executePrepared : String → List Value → StatementKind → σ → Except Failure Execution × σ
  /-- The id that was last given to a new row. -/
  insertId? : σ → Option Int64
  /-- What the database reports on the last execution. -/
  fault? : σ → Option BackendFault

/-- A link, and the calls that went over it. -/
structure Recorded (σ : Type) where
  link : σ
  calls : List Call

namespace Recorded

variable {σ α : Type}

/-- The link after a step that was called for. -/
def after (recorded : Recorded σ) (call : Call) (step : σ → α × σ) : α × Recorded σ :=
  let (answer, link) := step recorded.link
  (answer, ⟨link, recorded.calls ++ [call]⟩)

end Recorded

/-- A backend that keeps a record of its calls. -/
def Backend.recording {σ : Type} (backend : Backend σ) : Backend (Recorded σ) where
  name := backend.name
  style := backend.style
  presentTime := backend.presentTime
  escape := backend.escape
  connect params recorded := recorded.after (.connect params) (backend.connect params)
  disconnect recorded := recorded.after .disconnect backend.disconnect
  isConnected recorded := backend.isConnected recorded.link
  execute sql kind recorded := recorded.after (.execute sql kind) (backend.execute sql kind)
  executePrepared sql values kind recorded :=
    recorded.after (.executePrepared sql values kind) (backend.executePrepared sql values kind)
  insertId? recorded := backend.insertId? recorded.link
  fault? recorded := backend.fault? recorded.link

end Querent
