import Querent.Text.Blank
import Querent.Text.Search

/-! The words of conditions: comparisons, and what joins one condition to the next. -/

namespace Querent

/-- A comparison of a key with values. -/
inductive Operator
  | less
  | greater
  | equal
  | notEqual
  | greaterOrEqual
  | lessOrEqual
  | lessOrGreater
  | isIn
  | like
  | notLike
  | between
  | notBetween
  | is
  | isNot
deriving DecidableEq, Repr

namespace Operator

/-- Every comparison. -/
def all : List Operator :=
  [less, greater, equal, notEqual, greaterOrEqual, lessOrEqual, lessOrGreater, isIn, like, notLike,
    between, notBetween, is, isNot]

/-- How a comparison is written in SQL. -/
def sql : Operator → String
  | less => "<"
  | greater => ">"
  | equal => "="
  | notEqual => "!="
  | greaterOrEqual => ">="
  | lessOrEqual => "<="
  | lessOrGreater => "<>"
  | isIn => "IN"
  | like => "LIKE"
  | notLike => "NOT LIKE"
  | between => "BETWEEN"
  | notBetween => "NOT BETWEEN"
  | is => "IS"
  | isNot => "IS NOT"

/-- The comparison that a token names, in any letter case and with blanks around it. -/
def parse? (token : String) : Option Operator :=
  all.find? fun operator => operator.sql == upper (trim token)

/-- Whether a comparison takes a lower and an upper bound. -/
def isRange : Operator → Bool
  | between => true
  | notBetween => true
  | _ => false

end Operator

/-- What joins a condition to the one after it. -/
inductive Combiner
  | and
  | or
  | not
  | andNot
deriving DecidableEq, Repr

namespace Combiner

/-- How a combiner is written in SQL. -/
def sql : Combiner → String
  | and => "AND"
  | or => "OR"
  | not => "NOT"
  | andNot => "AND NOT"

/-- The combiner that a token names; without a token, and for any other one, it is AND. -/
def resolve (token : Option String) : Combiner :=
  ([or, not, andNot].find? fun combiner => token.map (upper ∘ trim) == some combiner.sql).getD and

end Combiner

end Querent
