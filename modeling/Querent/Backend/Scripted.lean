import Querent.Backend.Basic

/-! A backend that answers from a script, so that sessions can be tried without a database. -/

namespace Querent

/-- The answer to one statement. -/
structure Reply where
  /-- What is reported on the execution. -/
  report : Option BackendFault
  /-- The id of a new row, which stays until it is replaced. -/
  insertId : Option Int64
  failure : Option Failure
  affected : Option UInt64
  columns : Option (List (Option Column))
  rows : List (List Value)

/-- The answer when the script gives none. -/
def Reply.plain : Reply :=
  ⟨none, none, none, none, none, []⟩

/-- What comes of a statement of a kind. -/
def Reply.execution (reply : Reply) (kind : StatementKind) : Except Failure Execution :=
  match reply.failure, reply.affected, reply.columns, kind with
  | some failure, _, _, _ => .error failure
  | none, some count, _, _ => .ok (.affected count)
  | none, none, none, .mutating => .ok (.affected 1)
  | none, none, columns, _ => .ok (.cursor ⟨columns.getD [], reply.rows⟩)

/-- A script, as far as it is not yet played. -/
structure Script where
  /-- How attempts to connect end; the rest succeed. -/
  connects : List (Option Failure)
  /-- How attempts to disconnect end; the rest succeed. -/
  disconnects : List (Option Failure)
  replies : List Reply
  connected : Bool
  insertId : Option Int64
  report : Option BackendFault

namespace Script

/-- A script before it is played. -/
def start (connects disconnects : List (Option Failure)) (replies : List Reply) : Script :=
  ⟨connects, disconnects, replies, false, none, none⟩

/-- The script after an attempt to connect. -/
def connect (script : Script) : Except Failure Unit × Script :=
  let rest := { script with connects := script.connects.drop 1 }
  match script.connects.head?.join with
  | some failure => (.error failure, rest)
  | none => (.ok (), { rest with connected := true })

/-- The script after an attempt to disconnect. -/
def disconnect (script : Script) : Except Failure Unit × Script :=
  let rest := { script with disconnects := script.disconnects.drop 1 }
  match script.disconnects.head?.join with
  | some failure => (.error failure, rest)
  | none => (.ok (), { rest with connected := false })

/-- The script after a statement of a kind. -/
def execute (script : Script) (kind : StatementKind) : Except Failure Execution × Script :=
  let reply := script.replies.headD .plain
  (reply.execution kind,
    { script with
      replies := script.replies.drop 1
      insertId := reply.insertId <|> script.insertId
      report := reply.report })

/-- The backend that plays scripts under a name. -/
def backend (name : String) (style : PlaceholderStyle) (escape : Escape) : Backend Script where
  name := name
  style := style
  escape := escape
  connect _ script := script.connect
  disconnect script := script.disconnect
  isConnected script := script.connected
  execute _ kind script := script.execute kind
  executePrepared _ _ kind script := script.execute kind
  insertId? script := script.insertId
  fault? script := script.report

end Script

end Querent
