import Querent.Error
import Querent.Result.Set

/-! What a session remembers of its statements, calls and failures. -/

namespace Querent

/-- A failure, and the statement that it was recorded with. -/
structure ErrorRecord where
  message : String
  query : Option String
deriving DecidableEq, Repr

/-- A report of the backend that a session passed over, and the statement that it was made on. -/
structure Notice where
  fault : BackendFault
  query : Option String
deriving DecidableEq, Repr

/-- What the last statement gave. -/
structure Yield where
  columns : List Column
  rows : Option ResultSet
  outcome : Option QueryResult
  rowCount : Nat
  affected : UInt64
  insertId : Option Int64
  fromCache : Bool
  notices : List Notice
deriving Repr

namespace Yield

/-- What no statement gave. -/
def none : Yield := ⟨[], .none, .none, 0, 0, .none, false, []⟩

/-- What a statement gave, once its result is there. -/
def absorb (given : Yield) : QueryResult → Yield
  | .affected count insertId =>
    { given with
      affected := count
      insertId := insertId
      outcome := some (.affected count insertId) }
  | .rows set =>
    { given with
      columns := set.columns
      rowCount := set.size
      rows := some set
      outcome := some (.rows set) }

end Yield

/-- How many entries a log has at most. -/
def logCapacity : Nat := 100

/-- A log with one more entry, the oldest making room for it. -/
def logged {α : Type} (log : List α) (entry : α) : List α :=
  (if log.length = logCapacity then log.drop 1 else log) ++ [entry]

/-- What a session remembers. -/
structure Record where
  lastQuery : Option String
  lastError : Option String
  /-- Failures, the oldest first. -/
  errors : List ErrorRecord
  given : Yield
  lastCall : Option String
  /-- Calls, the oldest first. -/
  calls : List String
  /-- Statements in the session's life. -/
  queries : Nat
  /-- Statements since the session was last connected or disconnected. -/
  connectionQueries : Nat
  /-- Numbers of the statements that are being timed. -/
  timers : List Nat
  /-- Statements that were timed, in order. -/
  profile : List String
deriving Repr

namespace Record

/-- What a new session remembers. -/
def fresh : Record :=
  ⟨none, none, [], .none, none, [], 0, 0, [], []⟩

/-- Remembers a call. -/
def call (record : Record) (text : String) : Record :=
  { record with
    calls := logged record.calls text
    lastCall := some text }

/-- Remembers a failure with the statement before it. -/
def error (record : Record) (message : String) : Record :=
  { record with
    errors := logged record.errors ⟨message, record.lastQuery⟩
    lastError := some message }

/-- Remembers a report that was passed over. -/
def notice (record : Record) (fault : BackendFault) : Record :=
  { record with given.notices := record.given.notices ++ [⟨fault, record.lastQuery⟩] }

/-- Counts a statement. -/
def count (record : Record) : Record :=
  { record with
    queries := record.queries + 1
    connectionQueries := record.connectionQueries + 1 }

/-- Begins to count anew for a connection. -/
def recount (record : Record) : Record :=
  { record with connectionQueries := 0 }

/-- Begins a statement: it is counted and timed, and nothing is left of the one before it. -/
def start (record : Record) (statement : String) : Record :=
  let record := { record with given := .none, lastQuery := some statement }.count
  { record with timers := record.queries :: record.timers }

/-- Ends the timing of a statement by its number, and may list it in the profile. -/
def stop (record : Record) (timer : Nat) (profiled : Bool) : Record :=
  { record with
    timers := record.timers.filter (· ≠ timer)
    profile := if profiled then record.profile ++ [record.lastQuery.getD ""] else record.profile }

/-- Remembers what a statement gave. -/
def absorb (record : Record) (result : QueryResult) : Record :=
  { record with given := record.given.absorb result }

/-- Forgets the last statement, what it gave, and the log of calls. -/
def flush (record : Record) : Record :=
  { record with
    given := .none
    lastQuery := none
    calls := [] }

end Record

end Querent
