import Querent.Clause.Compiler

/-! Whole statements from names, values and conditions. -/

namespace Querent

/-- Columns with the values they are given, in the order of the statement. -/
abbrev Assignments := List (String × Value)

/-- A statement before it is SQL. -/
inductive Statement
  | select (table : String) (columns : List String) (modifiers : List Condition)
  | createSelect (table : String) (columns : List String) (source : String)
      (modifiers : List Condition)
  | selectInto (table : String) (columns : List String) (source : String)
      (modifiers : List Condition)
  | insert (table : String) (values : Assignments)
  | replace (table : String) (values : Assignments)
  | update (table : String) (values : Assignments) (conditions : List Condition)
  | delete (table : String) (conditions : List Condition)
  | insertSelect (table : String) (columns : List String) (source : String)
      (sourceColumns : List String) (modifiers : List Condition)
deriving Repr

/-- A step of building a statement: it may fail, and it may use up or add pending values. -/
abbrev Assembly := ExceptT ClauseFault (StateM Compiler)

/-- Texts that stand for the present time in an assignment. -/
def presentWords : List String :=
  ["current_timestamp()", "date()", "now()"]

/-- Whether a value stands for the present time. -/
def Value.isPresent (value : Value) : Bool :=
  match value.asText? with
  | some content => presentWords.any (sameLetters (trim content))
  | none => false

/-- An assigned value: null and the present time are written out, all others are bound. -/
def Binding.assign (binding : Binding) (pending : Nat) (value : Value) : Bound :=
  if value.isNullToken then ⟨"NULL", []⟩
  else if value.isPresent then ⟨"CURRENT_TIMESTAMP()", []⟩
  else binding.bind pending value

/-- Head and tail of a statement, with a space between them unless the tail is empty. -/
def withTail (head tail : String) : String :=
  if tail.isEmpty then head else head ++ " " ++ tail

/-- Selected columns, which are all of them when none is named. -/
def selectList (columns : List String) : String :=
  let list := columnList columns
  if list.isEmpty then "*" else list

namespace Assembly

/-- A trimmed table name, which has to be there. -/
def requireTable (table : String) : Assembly String :=
  if isBlankText table then throw .missingTable else return trim table

/-- Assignments, of which there has to be one, and each with a column. -/
def requireAssignments (values : Assignments) : Assembly Unit :=
  if values.isEmpty || values.any (isBlankText ·.1) then throw .missingAssignment else return ()

/-- The texts of assigned values in turn. -/
def assign (escape : Escape) (values : Assignments) : Assembly (List String) := do
  let compiler ← get
  let pieces := Binding.inTurn (compiler.binding escape).assign compiler.pending.length
    (values.map Prod.snd)
  set (compiler.push (pieces.flatMap Bound.values))
  return pieces.map Bound.text

/-- The text of the clause that conditions compile to. -/
def conditions (escape : Escape) (conditions : List Condition) : Assembly String :=
  ExceptT.mk fun compiler =>
    match compiler.compile escape conditions with
    | (.ok clause, compiler) => (.ok clause.text, compiler)
    | (.error fault, compiler) => (.error fault, compiler)

/-- The texts of clauses that are passed on as they are, where HAVING follows GROUP BY. -/
def fragments : Bool → List Condition → Except ClauseFault (List String)
  | _, [] => .ok []
  | _, .comparison _ :: _ => .error .mixedModifiers
  | grouped, .raw text :: rest =>
    match ClauseKind.ofText? text with
    | none => .error (.unknownModifier text)
    | some kind =>
      if kind = .having ∧ !grouped then .error .havingBeforeGroupBy
      else (fragments (grouped || kind = .groupBy) rest).map (trim text :: ·)

/-- The end of a selection: clauses passed on as they are, or else conditions to compile. -/
def modifiers (escape : Escape) (args : List Condition) : Assembly String :=
  if args.any (·.fragment?.isSome) then
    match fragments false args with
    | .ok texts => return joinWith " " texts
    | .error fault => throw fault
  else conditions escape args

/-- An insertion of one row by a given verb. -/
def insertion (escape : Escape) (verb table : String) (values : Assignments) : Assembly String := do
  let table ← requireTable table
  requireAssignments values
  let columns := joinWith ", " (values.map Prod.fst)
  let texts ← assign escape values
  return verb ++ " INTO " ++ table ++ " (" ++ columns ++ ") VALUES (" ++ joinWith ", " texts ++ ")"

/-- A selection from a table. -/
def selection (escape : Escape) (table : String) (columns : List String) (args : List Condition) :
    Assembly String := do
  let table ← requireTable table
  let tail ← modifiers escape args
  return withTail ("SELECT " ++ selectList columns ++ " FROM " ++ table) tail

/-- The text of a statement. -/
def build (escape : Escape) : Statement → Assembly String
  | .select table columns args => selection escape table columns args
  | .createSelect table columns source args => do
    let source ← requireTable source
    let table ← requireTable table
    let tail ← modifiers escape args
    return withTail
      ("CREATE TABLE " ++ table ++ " AS SELECT " ++ selectList columns ++ " FROM " ++ source) tail
  | .selectInto table columns source args => do
    let source ← requireTable source
    let table ← requireTable table
    let tail ← modifiers escape args
    return withTail
      ("SELECT " ++ selectList columns ++ " INTO " ++ table ++ " FROM " ++ source) tail
  | .insert table values => insertion escape "INSERT" table values
  | .replace table values => insertion escape "REPLACE" table values
  | .update table values args => do
    let table ← requireTable table
    requireAssignments values
    let texts ← assign escape values
    let pairs := values.zipWith (fun pair text => pair.1 ++ " = " ++ text) texts
    let tail ← conditions escape args
    return withTail ("UPDATE " ++ table ++ " SET " ++ joinWith ", " pairs) tail
  | .delete table args => do
    let table ← requireTable table
    let tail ← conditions escape args
    return withTail ("DELETE FROM " ++ table) tail
  | .insertSelect table columns source sourceColumns args => do
    let table ← requireTable table
    let target := selectList columns
    let head := if target = "*" then "INSERT INTO " ++ table
      else "INSERT INTO " ++ table ++ " (" ++ target ++ ")"
    let select ← selection escape source sourceColumns args
    return head ++ " " ++ select

end Assembly

/-- The text of a statement, whose values are then pending; a failure leaves nothing pending. -/
def Statement.assemble (statement : Statement) (escape : Escape) (compiler : Compiler) :
    Except ClauseFault String × Compiler :=
  match (Assembly.build escape statement).run.run compiler with
  | (.ok text, compiler) => (.ok text, compiler)
  | (.error fault, compiler) => (.error fault, compiler.clear)

end Querent
