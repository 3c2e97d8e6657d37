import Querent.Condition.Operator
import Querent.Value.Basic

/-! Conditions as callers give them, checked only when a clause is compiled from them. -/

namespace Querent

/-- The right-hand side of a comparison. -/
inductive Operand
  | single (value : Value)
  | list (values : List Value)
deriving Repr

/-- The values of a right-hand side, a single one being a list of one. -/
def Operand.values : Operand → List Value
  | single value => [value]
  | list values => values

/-- The value of a right-hand side that is no list. -/
def Operand.single? : Operand → Option Value
  | single value => some value
  | list _ => none

/-- A key, a comparison and its right-hand side, with what joins it to the next condition. -/
structure Comparison where
  key : String
  /-- The operator's token, if there is one. -/
  operator : Option String
  operand : Operand
  /-- The combiner's token, or for a range its upper bound. -/
  combiner : Option Value
  /-- For a range, the combiner's token. -/
  extra : Option String
deriving Repr

/-- A condition of a clause. -/
inductive Condition
  /-- SQL that was written before, passed on as it is. -/
  | raw (text : String)
  | comparison (terms : Comparison)
deriving Repr

/-- Clauses that a statement may end with. -/
inductive ClauseKind
  | filter
  | having
  | groupBy
  | orderBy
deriving DecidableEq, Repr

/-- The words that a clause begins with. -/
def ClauseKind.keyword : ClauseKind → String
  | filter => "WHERE"
  | having => "HAVING"
  | groupBy => "GROUP BY"
  | orderBy => "ORDER BY"

/-- The kind of clause that a text holds, by the first keyword that stands anywhere in it. -/
def ClauseKind.ofText? (text : String) : Option ClauseKind :=
  [filter, groupBy, having, orderBy].find? fun kind => holds text kind.keyword

namespace Condition

/-- A comparison that joins to the next condition by AND. -/
def compare (key operator : String) (operand : Operand) : Condition :=
  .comparison ⟨key, some operator, operand, none, none⟩

/-- A comparison with two bounds. -/
def range (key : String) (operator : Operator) (low high : Value) : Condition :=
  .comparison ⟨key, some operator.sql, .single low, some high, none⟩

/-- A key equal to a value. -/
def eq (key : String) (operand : Operand) : Condition := compare key "=" operand

/-- A key other than a value. -/
def neq (key : String) (operand : Operand) : Condition := compare key "!=" operand

/-- A key below or above a value. -/
def ne (key : String) (operand : Operand) : Condition := compare key "<>" operand

/-- A key below a value. -/
def lt (key : String) (operand : Operand) : Condition := compare key "<" operand

/-- A key at most a value. -/
def lte (key : String) (operand : Operand) : Condition := compare key "<=" operand

/-- A key above a value. -/
def gt (key : String) (operand : Operand) : Condition := compare key ">" operand

/-- A key at least a value. -/
def gte (key : String) (operand : Operand) : Condition := compare key ">=" operand

/-- A key that matches a pattern. -/
def like (key : String) (pattern : Operand) : Condition := compare key "LIKE" pattern

/-- A key that matches no pattern. -/
def notLike (key : String) (pattern : Operand) : Condition := compare key "NOT LIKE" pattern

/-- A key without a value. -/
def isNull (key : String) : Condition := compare key "IS" (.single .null)

/-- A key with a value. -/
def isNotNull (key : String) : Condition := compare key "IS NOT" (.single .null)

/-- A key with one of some values. -/
def inList (key : String) (values : List Value) : Condition := compare key "IN" (.list values)

/-- A key within two bounds. -/
def between (key : String) (low high : Value) : Condition := range key .between low high

/-- A key outside two bounds. -/
def notBetween (key : String) (low high : Value) : Condition := range key .notBetween low high

/-- The condition with another combiner, which for a range goes behind the upper bound. -/
def combine (combiner : Combiner) : Condition → Condition
  | raw text => raw text
  | comparison terms =>
    if ((terms.operator.bind Operator.parse?).map Operator.isRange).getD false then
      comparison { terms with extra := some combiner.sql }
    else comparison { terms with combiner := some (.text combiner.sql) }

/-- The kind of clause that a condition already is. -/
def fragment? : Condition → Option ClauseKind
  | raw text => ClauseKind.ofText? text
  | comparison _ => none

/-- The condition that a text spells: a clause as it is, or fields with two spaces between them. -/
def parse (text : String) : Condition :=
  if (ClauseKind.ofText? text).isSome then raw text
  else
    let parts := (fields text.toList).map fun field => String.ofList (trimEnds field)
    let key := parts.headD ""
    let operator := parts[1]?.filter (· ≠ "")
    -- The fields behind IN are all values, while a range and the rest have one value at most there.
    if operator.bind Operator.parse? = some .isIn then
      comparison ⟨key, operator, .list ((parts.drop 2).map .text), none, none⟩
    else
      let operand := Operand.single (.text (parts[2]?.getD ""))
      comparison ⟨key, operator, operand, parts[3]?.map .text, parts[4]?⟩

end Condition

end Querent
