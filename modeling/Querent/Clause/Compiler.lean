import Querent.Clause.Basic

/-! Clauses compiled from conditions, with values bound to placeholders or written as literals. -/

namespace Querent

/-- Makes a text the body of a literal. -/
abbrev Escape := String → String

/-- Writes every quote twice. -/
def doubleQuotes : Escape := fun text =>
  String.ofList (text.toList.flatMap fun c => if c = '\'' then ['\'', '\''] else [c])

/-- Writes a backslash in front of every quote. -/
def backslashQuotes : Escape := fun text =>
  String.ofList (text.toList.flatMap fun c => if c = '\'' then ['\\', '\''] else [c])

/-- SQL text together with the values that its placeholders stand for, in the order of the text. -/
structure Bound where
  text : String
  values : List Value
deriving Repr

/-- How values get into a statement. -/
structure Binding where
  /-- Whether values are handed over beside the text, or written into it. -/
  prepared : Bool
  escape : Escape

namespace Binding

/-- One value as the placeholder after those already pending, or as a literal. -/
def bind (binding : Binding) (pending : Nat) (value : Value) : Bound :=
  if binding.prepared then ⟨"?" ++ toString (pending + 1), [value]⟩
  else ⟨"'" ++ binding.escape value.sqlText ++ "'", []⟩

/-- Some values in turn, each by a function of how many are pending before it. -/
def inTurn {α : Type} (write : Nat → α → Bound) : Nat → List α → List Bound
  | _, [] => []
  | pending, item :: rest =>
    let bound := write pending item
    bound :: inTurn write (pending + bound.values.length) rest

/-- The texts of some bound pieces, with a separator between them. -/
def joined (separator : String) (pieces : List Bound) : Bound :=
  ⟨joinWith separator (pieces.map Bound.text), pieces.flatMap Bound.values⟩

end Binding

/-- One condition as SQL, and what joins it to the next. -/
structure Fragment where
  bound : Bound
  combiner : Combiner
deriving Repr

namespace Comparison

/-- The right-hand side of a comparison that takes one value. -/
def singleValue (terms : Comparison) (key : String) : Except ClauseFault Value :=
  match terms.operand.single? with
  | some value => .ok value
  | none => .error (.listWithoutIn key)

/-- The combiner in the place where all but ranges have it. -/
def usualCombiner (terms : Comparison) : Combiner :=
  .resolve (terms.combiner.bind Value.asText?)

/-- The characters of which a pattern has one at least. -/
def wildcards : List Char := ['_', '%', '?']

/-- A range, whose upper bound is in the place of the combiner. -/
def compileRange (binding : Binding) (pending : Nat) (terms : Comparison) (key : String)
    (operator : Operator) : Except ClauseFault Fragment := do
  let low ← terms.singleValue key
  match terms.combiner with
  | none => .error (.missingUpperBound operator.sql key)
  | some high =>
    let bounds := Binding.joined " AND " (Binding.inTurn binding.bind pending [low, high])
    return ⟨⟨key ++ " " ++ operator.sql ++ " " ++ bounds.text, bounds.values⟩, .resolve terms.extra⟩

/-- A choice among values. -/
def compileChoice (binding : Binding) (pending : Nat) (terms : Comparison) (key : String) :
    Except ClauseFault Fragment :=
  if terms.operand.values.isEmpty then .error (.emptyList key)
  else
    let list := Binding.joined ", " (Binding.inTurn binding.bind pending terms.operand.values)
    .ok ⟨⟨key ++ " IN (" ++ list.text ++ ")", list.values⟩, terms.usualCombiner⟩

/-- A comparison with one value; null can only be compared by IS. -/
def compileSingle (binding : Binding) (pending : Nat) (terms : Comparison) (key : String)
    (operator : Operator) : Except ClauseFault Fragment := do
  let value ← terms.singleValue key
  if value.isNullToken || operator = .is || operator = .isNot then
    let operator := if operator = .isNot then Operator.isNot else Operator.is
    return ⟨⟨key ++ " " ++ operator.sql ++ " NULL", []⟩, terms.usualCombiner⟩
  else if (operator = .like || operator = .notLike) &&
      !value.sqlText.toList.any (wildcards.contains ·) then
    .error (.missingWildcard operator.sql key)
  else
    let bound := binding.bind pending value
    return ⟨⟨key ++ " " ++ operator.sql ++ " " ++ bound.text, bound.values⟩, terms.usualCombiner⟩

/-- The operator of a comparison, or why it has none. -/
def requireOperator (terms : Comparison) (key : String) : Except ClauseFault Operator :=
  match (terms.operator.map trim).filter (· ≠ "") with
  | none => .error (.missingOperator key)
  | some token =>
    match Operator.parse? token with
    | none => .error (.unsupportedOperator token key)
    | some operator => .ok operator

/-- A comparison as SQL, where a number of values are pending before it. -/
def compile (binding : Binding) (pending : Nat) (terms : Comparison) :
    Except ClauseFault Fragment := do
  let key := trim terms.key
  if key.isEmpty then .error .missingKey
  else
    let operator ← terms.requireOperator key
    match operator with
    | .isIn => terms.compileChoice binding pending key
    | operator =>
      if operator.isRange then terms.compileRange binding pending key operator
      else terms.compileSingle binding pending key operator

end Comparison

/-- Comparisons one after another, each joined to the next by its combiner. -/
def compileAll (binding : Binding) : Nat → List Condition → Except ClauseFault Bound
  | _, [] => .ok ⟨"", []⟩
  | _, .raw _ :: _ => .error .mixedFragments
  | pending, .comparison terms :: rest => do
    let fragment ← terms.compile binding pending
    let others ← compileAll binding (pending + fragment.bound.values.length) rest
    let joiner := if rest.isEmpty then "" else " " ++ fragment.combiner.sql
    return ⟨" " ++ fragment.bound.text ++ joiner ++ others.text,
      fragment.bound.values ++ others.values⟩

/-- The text of a clause and the values it binds; without conditions it is empty. -/
def compileClause (binding : Binding) (pending : Nat) (kind : ClauseKind) :
    List Condition → Except ClauseFault Bound
  | [] => .ok ⟨"", []⟩
  | .raw text :: rest =>
    -- A clause that was written before has to stand alone.
    match ClauseKind.ofText? text with
    | some .filter => if rest.isEmpty then .ok ⟨text, []⟩ else .error (.notLoneFragment text)
    | some .having => if rest.isEmpty then .ok ⟨text, []⟩ else .error (.notLoneFragment text)
    | _ => .error (.notLoneFragment text)
  | conditions => do
    let compiled ← compileAll binding pending conditions
    return ⟨kind.keyword ++ compiled.text, compiled.values⟩

/-- What a session keeps between clauses. -/
structure Compiler where
  prepared : Bool
  /-- Values that wait for the statement that binds them. -/
  pending : List Value
  /-- Whether the next clause is a HAVING clause. -/
  havingNext : Bool
deriving Repr

namespace Compiler

/-- A compiler with nothing pending. -/
def fresh (prepared : Bool) : Compiler :=
  ⟨prepared, [], false⟩

/-- The way of binding that a compiler follows. -/
def binding (compiler : Compiler) (escape : Escape) : Binding :=
  ⟨compiler.prepared, escape⟩

/-- The compiler with nothing pending. -/
def clear (compiler : Compiler) : Compiler :=
  { compiler with pending := [] }

/-- The compiler with more values pending. -/
def push (compiler : Compiler) (values : List Value) : Compiler :=
  { compiler with pending := compiler.pending ++ values }

/-- Compiles a WHERE clause, or an announced HAVING clause; a failure clears what is pending. -/
def compile (compiler : Compiler) (escape : Escape) (conditions : List Condition) :
    Except ClauseFault Clause × Compiler :=
  let kind := if compiler.havingNext then ClauseKind.having else ClauseKind.filter
  let first := compiler.pending.length
  let settled := { compiler with havingNext := false }
  match compileClause (compiler.binding escape) first kind conditions with
  | .ok bound => (.ok ⟨kind, bound.text, first, bound.values.length⟩, settled.push bound.values)
  | .error fault => (.error fault, settled.clear)

/-- Compiles a HAVING clause. -/
def compileHaving (compiler : Compiler) (escape : Escape) (conditions : List Condition) :
    Except ClauseFault Clause × Compiler :=
  { compiler with havingNext := true }.compile escape conditions

end Compiler

end Querent
