import Querent.Condition.Basic
import Querent.Error

/-! Compiled clauses, and the words that group and order rows. -/

namespace Querent

/-- A compiled clause, and which of the pending values its placeholders stand for. -/
structure Clause where
  kind : ClauseKind
  text : String
  /-- How many values were pending before. -/
  first : Nat
  /-- How many values it bound. -/
  count : Nat
deriving DecidableEq, Repr

namespace Clause

/-- A clause that binds nothing. -/
def fragment (kind : ClauseKind) (text : String) : Clause :=
  ⟨kind, text, 0, 0⟩

/-- The values that a clause bound, as long as they are all pending. -/
def bound (clause : Clause) (pending : List Value) : List Value :=
  if clause.first + clause.count ≤ pending.length then
    (pending.drop clause.first).take clause.count
  else []

/-- The condition that passes a clause on as it is. -/
def toCondition (clause : Clause) : Condition :=
  .raw clause.text

end Clause

/-- Names that are not blank, trimmed and with commas between them. -/
def columnList (columns : List String) : String :=
  joinWith ", " ((columns.map trim).filter (· ≠ ""))

/-- A list of columns that holds one at least. -/
def requireColumns (kind : ClauseKind) (columns : List String) : Except ClauseFault String :=
  let list := columnList columns
  if list.isEmpty then .error (.missingColumn kind.keyword) else .ok list

/-- The clause that groups rows by columns. -/
def groupBy (columns : List String) : Except ClauseFault Clause := do
  let list ← requireColumns .groupBy columns
  return .fragment .groupBy ("GROUP BY " ++ list)

/-- A direction of sorting. -/
inductive Direction
  | ascending
  | descending
deriving DecidableEq, Repr

/-- How a direction is written in SQL. -/
def Direction.sql : Direction → String
  | ascending => "ASC"
  | descending => "DESC"

/-- The direction that a token names; any token but DESC names the ascending one. -/
def Direction.parse (token : String) : Direction :=
  if sameLetters (trim token) "desc" then descending else ascending

/-- The clause that sorts rows by columns. -/
def orderBy (columns : List String) (direction : Direction) : Except ClauseFault Clause := do
  let list ← requireColumns .orderBy columns
  return .fragment .orderBy ("ORDER BY " ++ list ++ " " ++ direction.sql)

end Querent
