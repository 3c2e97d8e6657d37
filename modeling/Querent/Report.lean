import Querent.Cache.Entry

/-! A session's state at one time, as text and as stored data. -/

namespace Querent

/-- A value that a caller asks to see in a report. -/
structure Dump where
  typeName : String
  rendered : String
deriving DecidableEq, Repr

/-- A session's state at one time. -/
structure Report where
  backend : String
  queries : Nat
  lastQuery : Option String
  lastError : Option String
  fromCache : Bool
  lastCall : Option String
  calls : List String
  columns : List Column
  values : List (List Value)
  /-- How many rows were affected, if the last statement gave no rows. -/
  affected : Option UInt64
  dump : Option Dump
deriving Repr

namespace Report

/-- A line of a report for something that may be missing. -/
def optional {α : Type} (value : Option α) (lines : α → List String) : List String :=
  (value.map lines).getD []

/-- Lines on the calls, unless the last one is the only one. -/
def callLines (report : Report) : List String :=
  if report.calls.length ≤ 1 then []
  else "All function calls:" :: report.calls.map ("  " ++ ·)

/-- The texts of a row's cells in one line. -/
def cells (texts : List String) : String :=
  joinWith " | " texts

/-- Lines on what the last statement gave. -/
def resultLines (report : Report) : List String :=
  match report.affected with
  | some count => ["Rows affected: " ++ toString count.toNat]
  | none =>
    if report.columns.isEmpty then ["No results"]
    else
      let header := cells (report.columns.map fun column =>
        column.name ++ " (" ++ column.nativeType ++ ")")
      let rows := report.values.map fun row => cells (row.map Value.sqlText)
      header :: if rows.isEmpty then ["No rows returned"] else rows

/-- The lines of a report. -/
def lines (report : Report) : List String :=
  ["[" ++ report.backend ++ "] session report"] ++
  optional report.dump (fun dump => ["Value: " ++ dump.rendered, "Type: " ++ dump.typeName]) ++
  optional report.lastError (fun message => ["Last error: " ++ message]) ++
  (if report.fromCache then ["Results retrieved from disk cache"] else []) ++
  ["Query [" ++ toString report.queries ++ "]: " ++ report.lastQuery.getD "NULL",
    "Last function call: " ++ report.lastCall.getD "None"] ++
  report.callLines ++ report.resultLines

/-- A report as text, each of its lines ended. -/
def text (report : Report) : String :=
  String.join (report.lines.map (· ++ "\n"))

/-- A report as stored data. -/
def encode (report : Report) : Json :=
  .object [("driver", .text report.backend), ("num_queries", .ofInt report.queries),
    ("last_query", .ofOption .text report.lastQuery),
    ("last_error", .ofOption .text report.lastError),
    ("from_disk_cache", .bool report.fromCache), ("func_call", .ofOption .text report.lastCall),
    ("all_func_calls", .array (report.calls.map .text)),
    ("col_info", .array (report.columns.map Column.encode)),
    ("rows", .array (report.values.map fun row => .array (row.map Value.encode))),
    ("rows_affected", .ofOption .ofUInt64 report.affected),
    ("value", .ofOption (fun dump => .object
      [("type_name", .text dump.typeName), ("rendered", .text dump.rendered)]) report.dump)]

end Report

end Querent
