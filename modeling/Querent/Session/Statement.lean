import Querent.Session.Run
import Querent.Statement.Assembly

/-! Statements that a session builds and runs. -/

namespace Querent.Session

variable {σ : Type}

/-- The text of a statement, whose values are then pending. -/
def assemble (session : Session σ) (statement : Statement) : Step σ String :=
  session.compiled (statement.assemble session.escape session.compiler)

/-- Builds a statement and runs it. -/
def carryOut (session : Session σ) (statement : Statement) : Step σ QueryResult :=
  (session.assemble statement).andThen fun sql session => session.query sql

/-- Builds a selection, runs it, and gives its rows, which are none if it gave no rows. -/
def selecting (session : Session σ) (table : String) (columns : List String)
    (modifiers : List Condition) : Step σ ResultSet :=
  (session.carryOut (.select table columns modifiers)).andThen fun result session =>
    (.ok (result.rows?.getD .empty), session)

end Querent.Session
