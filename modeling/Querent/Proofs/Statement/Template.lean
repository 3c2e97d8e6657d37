import Querent.Proofs.Clause.Compiler
import Querent.Statement.Assembly

/-! The template that a statement is assembled from, and the values that are pending behind it. -/

namespace Querent

/-- The values that a condition binds; written clauses bind none. -/
def Condition.bound : Condition → List Value
  | .raw _ => []
  | .comparison terms => terms.bound

/-- The terms of a condition that is no written clause. -/
def Condition.terms? : Condition → Option Comparison
  | .raw _ => none
  | .comparison terms => some terms

/-- The text of a written clause, trimmed. -/
def Condition.trimmed? : Condition → Option String
  | .raw text => some (trim text)
  | .comparison _ => none

/-- The values that assignments bind: null and the present time are written out. -/
def Assignments.bound (values : Assignments) : List Value :=
  (values.map Prod.snd).filter fun value => !value.isNullToken && !value.isPresent

/-- The values that a statement binds: assigned ones first, and then those of its conditions. -/
def Statement.bound : Statement → List Value
  | .select _ _ modifiers => modifiers.flatMap Condition.bound
  | .createSelect _ _ _ modifiers => modifiers.flatMap Condition.bound
  | .selectInto _ _ _ modifiers => modifiers.flatMap Condition.bound
  | .insert _ values => values.bound
  | .replace _ values => values.bound
  | .update _ values conditions => values.bound ++ conditions.flatMap Condition.bound
  | .delete _ conditions => conditions.flatMap Condition.bound
  | .insertSelect _ _ _ _ modifiers => modifiers.flatMap Condition.bound

namespace Template

/-- A text without slots; an empty one has no part. -/
def ofText (text : String) : Template :=
  if text.isEmpty then [] else [.fixed text]

/-- A head, and a tail behind a space if there is one. -/
def tailed (head tail : Template) : Template :=
  if tail.isEmpty then head else head ++ .fixed " " :: tail

/-- The text of conditions, with slots for the values. -/
def ofConditions (kind : ClauseKind) : List Condition → Template
  | [] => []
  | .raw text :: _ => ofText text
  | conditions => clauseTemplate kind (conditions.filterMap Condition.terms?)

/-- The text of what ends a selection, with slots for the values. -/
def ofModifiers (kind : ClauseKind) (args : List Condition) : Template :=
  if args.any (·.fragment?.isSome) then ofText (joinWith " " (args.filterMap Condition.trimmed?))
  else ofConditions kind args

/-- The text of an assigned value, with a slot unless the value is written out. -/
def ofAssigned (value : Value) : Template :=
  if value.isNullToken then [.fixed "NULL"]
  else if value.isPresent then [.fixed "CURRENT_TIMESTAMP()"]
  else [.slot value]

/-- The text of an insertion, with slots for the values. -/
def ofInsertion (verb table : String) (values : Assignments) : Template :=
  .fixed (verb ++ " INTO " ++ trim table ++ " (" ++ joinWith ", " (values.map Prod.fst) ++
    ") VALUES (") :: separated ", " (values.map fun pair => ofAssigned pair.2) ++ [.fixed ")"]

/-- The text of a selection, with slots for the values. -/
def ofSelection (kind : ClauseKind) (table : String) (columns : List String)
    (args : List Condition) : Template :=
  tailed [.fixed ("SELECT " ++ selectList columns ++ " FROM " ++ trim table)]
    (ofModifiers kind args)

/-- The text of assignments, with slots for the values. -/
def ofAssignments (values : Assignments) : Template :=
  separated ", " (values.map fun pair => .fixed (pair.1 ++ " = ") :: ofAssigned pair.2)

end Template

open Template in
/-- The text of a statement, with slots for its values. -/
def Statement.template (kind : ClauseKind) : Statement → Template
  | .select table columns args => ofSelection kind table columns args
  | .createSelect table columns source args =>
    tailed [.fixed ("CREATE TABLE " ++ trim table ++ " AS SELECT " ++ selectList columns ++
      " FROM " ++ trim source)] (ofModifiers kind args)
  | .selectInto table columns source args =>
    tailed [.fixed ("SELECT " ++ selectList columns ++ " INTO " ++ trim table ++ " FROM " ++
      trim source)] (ofModifiers kind args)
  | .insert table values => ofInsertion "INSERT" table values
  | .replace table values => ofInsertion "REPLACE" table values
  | .update table values args =>
    tailed (.fixed ("UPDATE " ++ trim table ++ " SET ") :: ofAssignments values)
      (ofConditions kind args)
  | .delete table args => tailed [.fixed ("DELETE FROM " ++ trim table)] (ofConditions kind args)
  | .insertSelect table columns source sourceColumns args =>
    let target := selectList columns
    let head := if target = "*" then "INSERT INTO " ++ trim table
      else "INSERT INTO " ++ trim table ++ " (" ++ target ++ ")"
    .fixed (head ++ " ") :: ofSelection kind source sourceColumns args

namespace Assembly

variable {α β : Type}

/-- Whether a step gives a result and leaves a compiler behind. -/
def Gives (step : Assembly α) (before : Compiler) (result : α) (after : Compiler) : Prop :=
  step.run.run before = (.ok result, after)

/-- The second of two steps is only reached with what the first one gave. -/
theorem run_bind (step : Assembly α) (next : α → Assembly β) (before : Compiler) :
    (step >>= next).run.run before =
      match step.run.run before with
      | (.ok between, middle) => (next between).run.run middle
      | (.error fault, middle) => (.error fault, middle) := by
  simp only [ExceptT.run_bind, StateT.run_bind]
  rcases step.run.run before with ⟨fault | between, middle⟩ <;> rfl

/-- A step that depends on another one gives a result where both do. -/
theorem gives_bind {step : Assembly α} {next : α → Assembly β} {before after : Compiler}
    {result : β} :
    Gives (step >>= next) before result after ↔
      ∃ between middle, Gives step before between middle ∧
        Gives (next between) middle result after := by
  unfold Gives
  rw [run_bind]
  rcases step.run.run before with ⟨fault | between, middle⟩
  · -- After a fault there is no second step.
    constructor
    · rintro ⟨⟩
    · rintro ⟨_, _, ⟨⟩, _⟩
  · -- Otherwise the second step begins with what the first one left behind.
    constructor
    · intro given
      exact ⟨between, middle, rfl, given⟩
    · rintro ⟨_, _, ⟨⟩, given⟩
      exact given

/-- A step that only gives a result leaves the compiler as it was. -/
theorem gives_pure {result result' : α} {before after : Compiler} :
    Gives (pure result) before result' after ↔ result = result' ∧ before = after := by
  unfold Gives
  constructor
  · -- The result and the compiler are read off one pair.
    rintro ⟨⟩
    exact ⟨rfl, rfl⟩
  · rintro ⟨rfl, rfl⟩
    rfl

/-- A step whose result is only reshaped gives the reshaped result. -/
theorem gives_map {step : Assembly α} {reshape : α → β} {before after : Compiler} {result : β} :
    Gives (step >>= fun given => pure (reshape given)) before result after ↔
      ∃ given, Gives step before given after ∧ reshape given = result := by
  rw [gives_bind]
  constructor
  · -- The reshaping is a step of its own, which leaves the compiler as it is.
    rintro ⟨given, middle, first, last⟩
    obtain ⟨shaped, rfl⟩ := gives_pure.mp last
    exact ⟨given, first, shaped⟩
  · rintro ⟨given, first, shaped⟩
    exact ⟨given, after, first, gives_pure.mpr ⟨shaped, rfl⟩⟩

/-- A step that fails gives nothing. -/
theorem not_gives_throw {fault : ClauseFault} {before after : Compiler} {result : α} :
    ¬Gives (throw fault) before result after := by
  rintro ⟨⟩

/-- A table name that is required is trimmed. -/
theorem gives_requireTable {table result : String} {before after : Compiler}
    (given : Gives (requireTable table) before result after) :
    trim table = result ∧ before = after := by
  -- A blank name is a fault, and any other one is given without its blanks.
  unfold requireTable at given
  split at given
  · exact absurd given not_gives_throw
  · exact gives_pure.mp given

/-- Assignments that are required leave the compiler as it was. -/
theorem gives_requireAssignments {values : Assignments} {before after : Compiler}
    (given : Gives (requireAssignments values) before () after) : before = after := by
  -- Without assignments, or with one that has no column, there is a fault.
  unfold requireAssignments at given
  split at given
  · exact absurd given not_gives_throw
  · exact (gives_pure.mp given).2

/-- The kind of the clause that a compiler makes of conditions. -/
def nextKind (compiler : Compiler) : ClauseKind :=
  if compiler.havingNext then .having else .filter

/-- A template as a compiler writes it. -/
def written (escape : Escape) (compiler : Compiler) (template : Template) : Bound :=
  template.write (compiler.binding escape) compiler.pending.length

/-- What it means that a step writes a template whose slots are for given values. -/
structure Writes (escape : Escape) (step : Assembly String) (template : ClauseKind → Template)
    (bound : List Value) : Prop where
  text : ∀ {before text after}, Gives step before text after →
    text = (written escape before (template (nextKind before))).text
  pending : ∀ {before text after}, Gives step before text after →
    after.pending = before.pending ++ (written escape before (template (nextKind before))).values
  values : ∀ {before text after}, Gives step before text after →
    (template (nextKind before)).values = bound

variable (escape : Escape)

/-- Text without slots is written as it is. -/
theorem write_ofText (binding : Binding) (pending : Nat) (text : String) :
    (Template.ofText text).write binding pending = ⟨text, []⟩ := by
  unfold Template.ofText
  split
  · -- An empty text has no part, and is written as no part is.
    next empty => rw [Template.write_nil, String.isEmpty_iff.mp empty]
  · exact Template.write_fixed binding pending text

/-- Text without slots has no values. -/
theorem values_ofText (text : String) : (Template.ofText text).values = [] := by
  -- Neither form has a slot.
  unfold Template.ofText
  split <;> rfl

section

variable {binding : Binding} {pending : Nat} {kind : ClauseKind} {bound : Bound}

/-- A written clause compiles only by itself, and is then passed on as it is. -/
theorem lone_of_compileClause {text : String} {rest : List Condition}
    (compiled : compileClause binding pending kind (.raw text :: rest) = .ok bound) :
    rest = [] ∧ bound = ⟨text, []⟩ := by
  have alone : rest.isEmpty = true ∧
      Except.ok ⟨text, []⟩ = Except.ok (ε := ClauseFault) bound := by
    rw [compileClause] at compiled
    cases empty : rest.isEmpty with
    -- Only a filter or a HAVING clause may stand alone.
    | true =>
      rw [empty] at compiled
      split at compiled
      · exact ⟨rfl, compiled⟩
      · exact ⟨rfl, compiled⟩
      · cases compiled
    -- With other conditions behind it, every kind of clause is a fault.
    | false =>
      rw [empty] at compiled
      split at compiled <;> cases compiled
  exact ⟨List.isEmpty_iff.mp alone.1, (Except.ok.inj alone.2).symm⟩

/-- Behind a comparison, a clause that compiles has only comparisons, which are valid. -/
theorem comparisons_of_compileClause {terms : Comparison} {rest : List Condition}
    (compiled : compileClause binding pending kind (.comparison terms :: rest) = .ok bound) :
    ∃ comparisons : List Comparison, comparisons ≠ [] ∧
      .comparison terms :: rest = comparisons.map Condition.comparison ∧
        ∀ terms ∈ comparisons, terms.Valid := by
  cases inner : compileAll binding pending (.comparison terms :: rest) with
  | error fault =>
    -- The first condition is a comparison, so all of them are compiled in turn.
    rw [compileClause, inner] at compiled
    · cases compiled
    all_goals simp
  | ok written =>
    obtain ⟨comparisons, shape, valid, -⟩ := (compileAll_eq_ok_iff pending _).mp inner
    refine ⟨comparisons, ?_, shape, valid⟩
    rintro rfl
    cases shape

/-- Conditions give back the comparisons that they are made of. -/
theorem filterMap_terms?_comparison (comparisons : List Comparison) :
    (comparisons.map Condition.comparison).filterMap Condition.terms? = comparisons := by
  have terms : Condition.terms? ∘ Condition.comparison = some := rfl
  rw [List.filterMap_map, terms, List.filterMap_some]

/-- The clause that conditions compile to is written from their template. -/
theorem compileClause_eq_write {conditions : List Condition}
    (compiled : compileClause binding pending kind conditions = .ok bound) :
    bound = (Template.ofConditions kind conditions).write binding pending ∧
      (Template.ofConditions kind conditions).values = conditions.flatMap Condition.bound := by
  match conditions with
  | [] =>
    obtain rfl := Except.ok.inj compiled
    exact ⟨(Template.write_nil binding pending).symm, rfl⟩
  | .raw text :: rest =>
    -- A written clause stands alone, and is passed on as it is.
    obtain ⟨rfl, rfl⟩ := lone_of_compileClause compiled
    exact ⟨(write_ofText binding pending text).symm, values_ofText text⟩
  | .comparison terms :: rest =>
    -- The first condition is a comparison, so all of them have to be.
    obtain ⟨comparisons, nonempty, shape, -⟩ := comparisons_of_compileClause compiled
    -- The template takes the comparisons out of the conditions, which gives them all back.
    have template : Template.ofConditions kind (.comparison terms :: rest) =
        clauseTemplate kind comparisons := by
      rw [Template.ofConditions, shape, filterMap_terms?_comparison]
      all_goals simp
    rw [template]
    rw [shape] at compiled ⊢
    refine ⟨((compileClause_eq_ok_iff pending kind nonempty).mp compiled).2, ?_⟩
    -- The values are those of the comparisons, which are those of the conditions.
    rw [values_clauseTemplate, List.flatMap_map]
    rfl

/-- A clause compiles only where every comparison in it is valid. -/
theorem valid_of_compileClause {conditions : List Condition}
    (compiled : compileClause binding pending kind conditions = .ok bound) :
    ∀ terms ∈ conditions.filterMap Condition.terms?, terms.Valid := by
  match conditions with
  | [] => simp
  | .raw text :: rest =>
    -- A written clause has nothing else beside it.
    obtain ⟨rfl, -⟩ := lone_of_compileClause compiled
    simp [Condition.terms?]
  | .comparison terms :: rest =>
    obtain ⟨comparisons, -, shape, valid⟩ := comparisons_of_compileClause compiled
    rw [shape, filterMap_terms?_comparison]
    exact valid

end

/-- A compiler that gives a clause has compiled it as one of the kind that was announced, and what
the clause binds is pending. -/
theorem eq_of_compile {escape : Escape} {before after : Compiler} {conditions : List Condition}
    {clause : Clause} (ok : before.compile escape conditions = (.ok clause, after)) :
    ∃ bound, compileClause (before.binding escape) before.pending.length (nextKind before)
      conditions = .ok bound ∧
        clause = ⟨nextKind before, bound.text, before.pending.length, bound.values.length⟩ ∧
        after = ⟨before.prepared, before.pending ++ bound.values, false⟩ := by
  unfold Compiler.compile at ok
  unfold nextKind
  dsimp only at ok
  cases inner : compileClause (before.binding escape) before.pending.length
      (if before.havingNext then .having else .filter) conditions with
  -- A fault is no clause.
  | error fault =>
    rw [inner] at ok
    cases ok
  | ok bound =>
    rw [inner] at ok
    cases ok
    exact ⟨bound, rfl, rfl, rfl⟩

/-- A compiler that gives a clause has compiled it, and what the clause binds is pending. -/
theorem exists_of_compile {escape : Escape} {before after : Compiler} {conditions : List Condition}
    {clause : Clause} (ok : before.compile escape conditions = (.ok clause, after)) :
    ∃ bound, compileClause (before.binding escape) before.pending.length (nextKind before)
      conditions = .ok bound ∧ clause.text = bound.text ∧
        after.pending = before.pending ++ bound.values := by
  obtain ⟨bound, compiled, rfl, rfl⟩ := eq_of_compile ok
  exact ⟨bound, compiled, rfl, rfl⟩

/-- Conditions are written from their template. -/
theorem writes_conditions (args : List Condition) :
    Writes escape (conditions escape args) (.ofConditions · args)
      (args.flatMap Condition.bound) := by
  have compiled : ∀ {before text after}, Gives (conditions escape args) before text after →
      ∃ bound, compileClause (before.binding escape) before.pending.length (nextKind before) args =
        .ok bound ∧ text = bound.text ∧ after.pending = before.pending ++ bound.values := by
    -- A compiler that gives a clause has added what the clause binds, and nothing else.
    intro before text after given
    unfold Gives conditions at given
    simp only [ExceptT.run_mk, StateT.run] at given
    split at given
    · next clause left compiled =>
      cases given
      exact exists_of_compile compiled
    · cases given
  constructor
  all_goals
    intro before text after given
    obtain ⟨bound, inner, shown, kept⟩ := compiled given
    obtain ⟨rfl, values⟩ := compileClause_eq_write inner
  · exact shown
  · exact kept
  · exact values

/-- Written clauses are passed on trimmed; there is no comparison among them, and no value. -/
theorem fragments_eq_ok {grouped : Bool} {args : List Condition} {texts : List String}
    (passed : fragments grouped args = .ok texts) :
    texts = args.filterMap Condition.trimmed? ∧ args.flatMap Condition.bound = [] ∧
      args.filterMap Condition.terms? = [] := by
  induction args generalizing grouped texts with
  | nil =>
    -- No clauses are passed on as no texts.
    obtain rfl := Except.ok.inj passed
    exact ⟨rfl, rfl, rfl⟩
  | cons arg args ih =>
    cases arg with
    -- A comparison is no written clause.
    | comparison terms => cases passed
    | raw text =>
      rw [fragments] at passed
      -- A clause out of order fails, and any other one is followed by the rest.
      repeat' split at passed
      all_goals first | cases passed | skip
      -- What is left is a known clause, whose trimmed text stands in front of the others.
      next kind _ _ =>
        cases behind : fragments (grouped || decide (kind = .groupBy)) args with
        | error fault =>
          rw [behind] at passed
          cases passed
        | ok others =>
          rw [behind] at passed
          obtain rfl := Except.ok.inj passed
          obtain ⟨rfl, none⟩ := ih behind
          exact ⟨rfl, none⟩

/-- What ends a selection is written from its template. -/
theorem writes_modifiers (args : List Condition) :
    Writes escape (modifiers escape args) (.ofModifiers · args) (args.flatMap Condition.bound) := by
  unfold Template.ofModifiers
  split
  · next some =>
    -- Written clauses bind nothing, so the compiler stays as it is.
    have passed : ∀ {before text after}, Gives (modifiers escape args) before text after →
        (joinWith " " (args.filterMap Condition.trimmed?) = text ∧ before = after) ∧
          args.flatMap Condition.bound = [] := by
      intro before text after given
      rw [modifiers, if_pos some] at given
      split at given
      · next texts passed =>
        obtain ⟨rfl, none, -⟩ := fragments_eq_ok passed
        exact ⟨gives_pure.mp given, none⟩
      · exact absurd given not_gives_throw
    constructor
    all_goals
      intro before text after given
      obtain ⟨⟨rfl, rfl⟩, none⟩ := passed given
    · -- Text without slots is written as it is, and binds nothing.
      simp [written, write_ofText]
    · simp [written, write_ofText]
    · rw [values_ofText, none]
  · -- Without a written clause the conditions are compiled.
    next none =>
    rw [modifiers, if_neg none]
    exact writes_conditions escape args

variable (binding : Binding) (pending : Nat)

/-- A clause of conditions is empty exactly where it has no part. -/
theorem isEmpty_ofConditions (kind : ClauseKind) (args : List Condition) :
    ((Template.ofConditions kind args).write binding pending).text.isEmpty =
      (Template.ofConditions kind args).isEmpty := by
  match args with
  -- No conditions are no text.
  | [] => simp [Template.ofConditions, Template.write_nil]
  | .raw text :: rest =>
    -- A written clause is its text, which is no part if it is empty.
    rw [Template.ofConditions, write_ofText]
    unfold Template.ofText
    split <;> simp_all
  | .comparison terms :: rest =>
    -- The keyword stands in front.
    rw [Template.ofConditions, clauseTemplate, Template.write_fixed_cons]
    · cases kind <;> simp [ClauseKind.keyword]
    all_goals simp

/-- What ends a selection is empty exactly where it has no part. -/
theorem isEmpty_ofModifiers (kind : ClauseKind) (args : List Condition) :
    ((Template.ofModifiers kind args).write binding pending).text.isEmpty =
      (Template.ofModifiers kind args).isEmpty := by
  unfold Template.ofModifiers
  split
  · -- Written clauses are one text, which is no part if it is empty.
    rw [write_ofText]
    unfold Template.ofText
    split <;> simp_all
  · exact isEmpty_ofConditions binding pending kind args

/-- A head and a tail are written with a space between them if there is a tail. -/
theorem write_tailed {tail : Template}
    (agrees : ∀ pending, (tail.write binding pending).text.isEmpty = tail.isEmpty)
    (head : Template) :
    (Template.tailed head tail).write binding pending =
      let front := head.write binding pending
      let back := tail.write binding (pending + front.values.length)
      ⟨withTail front.text back.text, front.values ++ back.values⟩ := by
  unfold Template.tailed withTail
  simp only [agrees]
  split
  · -- Without a tail there is neither a space nor a value of it.
    next none => simp [List.isEmpty_iff.mp none, Template.write_nil]
  · simp [Template.write_append, Template.write_fixed_cons, String.append_assoc]

/-- A head and a tail have the values of both. -/
theorem values_tailed (head tail : Template) :
    (Template.tailed head tail).values = head.values ++ tail.values := by
  unfold Template.tailed
  -- The space has no value.
  split
  · next none => simp [List.isEmpty_iff.mp none, Template.values]
  · simp [Template.values]

/-- An assigned value is written from its template. -/
theorem assign_eq_write (value : Value) :
    binding.assign pending value = (Template.ofAssigned value).write binding pending := by
  -- The value is looked at in the same way on both sides.
  unfold Binding.assign Template.ofAssigned
  repeat' split
  · rw [Template.write_fixed]
  · rw [Template.write_fixed]
  · rw [Template.write_slot]

/-- The slots of assigned values are those for the values that are bound. -/
theorem values_assigned (values : Assignments) :
    values.flatMap (fun pair => (Template.ofAssigned pair.2).values) = values.bound := by
  -- Each value is bound by itself, unless it is written out.
  induction values with
  | nil => rfl
  | cons pair values ih =>
    rw [List.flatMap_cons, ih]
    unfold Template.ofAssigned Assignments.bound
    cases null : pair.2.isNullToken <;> cases present : pair.2.isPresent <;>
      simp [null, present, Template.values]

/-- The slots of assignments are those for the values that are bound. -/
theorem values_ofAssignments (values : Assignments) :
    (Template.ofAssignments values).values = values.bound := by
  -- The names of columns have no value.
  rw [Template.ofAssignments, Template.values_separated, List.flatMap_map]
  exact values_assigned values

/-- Assigned values are rendered in turn, and those that are bound are pending afterwards. -/
theorem gives_assign {values : Assignments} {texts : List String} {before after : Compiler}
    (given : Gives (assign escape values) before texts after) :
    let pieces := Binding.inTurn (before.binding escape).assign before.pending.length
      (values.map Prod.snd)
    texts = pieces.map Bound.text ∧ after = before.push (pieces.flatMap Bound.values) := by
  -- The step renders all values at once, and gives what they are rendered as.
  cases given
  exact ⟨rfl, rfl⟩

/-- A column with the value that is assigned to it. -/
def assignTo (pair : String × Value) : Bound :=
  ⟨pair.1 ++ " = " ++ (binding.assign pending pair.2).text, (binding.assign pending pair.2).values⟩

/-- Columns are put in front of values that are rendered in turn. -/
theorem zipWith_inTurn_assign (values : Assignments) :
    values.zipWith (fun pair text => pair.1 ++ " = " ++ text)
        ((Binding.inTurn binding.assign pending (values.map Prod.snd)).map Bound.text) =
      (Binding.inTurn (assignTo binding) pending values).map Bound.text ∧
    (Binding.inTurn binding.assign pending (values.map Prod.snd)).flatMap Bound.values =
      (Binding.inTurn (assignTo binding) pending values).flatMap Bound.values := by
  -- A column adds nothing to what is pending for the next value.
  induction values generalizing pending with
  | nil => exact ⟨rfl, rfl⟩
  | cons pair values ih =>
    have rest := ih (pending + (binding.assign pending pair.2).values.length)
    simp [Binding.inTurn, assignTo, rest]

/-- Assignments are joined as their template. -/
theorem joined_assignTo (values : Assignments) :
    Binding.joined ", " (Binding.inTurn (assignTo binding) pending values) =
      (Template.ofAssignments values).write binding pending := by
  -- A column is fixed text in front of its value.
  refine Template.joined_inTurn binding pending ?_ ", " values
  intro pending pair
  rw [Template.write_fixed_cons, ← assign_eq_write]
  rfl

variable {escape} {step : Assembly String} {template : ClauseKind → Template} {bound : List Value}

/-- A step that gives only what another one gives writes what that one writes. -/
theorem Writes.of_gives {step' : Assembly String} (writes : Writes escape step template bound)
    (steps : ∀ {before text after}, Gives step' before text after → Gives step before text after) :
    Writes escape step' template bound where
  text given := writes.text (steps given)
  pending given := writes.pending (steps given)
  values given := writes.values (steps given)

/-- A required table is no part of what is written behind it. -/
theorem Writes.behindTable {table : String} {next : String → Assembly String}
    (writes : Writes escape (next (trim table)) template bound) :
    Writes escape (requireTable table >>= next) template bound := by
  apply writes.of_gives
  intro before text after given
  -- The step behind the table begins with the compiler as it was.
  obtain ⟨name, middle, named, given⟩ := gives_bind.mp given
  obtain ⟨rfl, rfl⟩ := gives_requireTable named
  exact given

/-- Required assignments are no part of what is written behind them. -/
theorem Writes.behindAssignments {values : Assignments}
    (writes : Writes escape step template bound) :
    Writes escape (requireAssignments values >>= fun _ => step) template bound := by
  apply writes.of_gives
  intro before text after given
  -- As behind a table, the compiler is what it was before.
  obtain ⟨_, middle, required, given⟩ := gives_bind.mp given
  obtain rfl := gives_requireAssignments required
  exact given

/-- A head in front of a tail is written as both, with a space between them if there is a tail. -/
theorem Writes.tailed (writes : Writes escape step template bound)
    (agrees : ∀ binding pending kind,
      ((template kind).write binding pending).text.isEmpty = (template kind).isEmpty)
    (head : String) :
    Writes escape (step >>= fun tail => pure (withTail head tail))
      (fun kind => .tailed [.fixed head] (template kind)) bound := by
  constructor
  all_goals
    intro before text after given
    obtain ⟨tail, inner, rfl⟩ := gives_map.mp given
  · rw [writes.text inner, written, written, write_tailed _ _ fun _ => agrees _ _ _]
    simp [Template.write_fixed]
  · rw [writes.pending inner, written, written, write_tailed _ _ fun _ => agrees _ _ _]
    simp [Template.write_fixed]
  · simp [values_tailed, Template.values, writes.values inner]

/-- Fixed text in front of a step is written in front of its template. -/
theorem Writes.behindText (writes : Writes escape step template bound) (head : String) :
    Writes escape (step >>= fun tail => pure (head ++ " " ++ tail))
      (fun kind => .fixed (head ++ " ") :: template kind) bound := by
  constructor
  all_goals
    intro before text after given
    obtain ⟨tail, inner, rfl⟩ := gives_map.mp given
  · rw [writes.text inner, written, written, Template.write_fixed_cons]
  · rw [writes.pending inner, written, written, Template.write_fixed_cons]
  · exact writes.values inner

variable (escape)

/-- Assignments are written from their template, and the values that they bind are pending. -/
theorem gives_assignments {values : Assignments} {texts : List String} {before after : Compiler}
    (given : Gives (assign escape values) before texts after) :
    joinWith ", " (values.zipWith (fun pair text => pair.1 ++ " = " ++ text) texts) =
        (written escape before (.ofAssignments values)).text ∧
      after = before.push (written escape before (.ofAssignments values)).values := by
  -- The names of columns are put in front of texts that are there already.
  obtain ⟨rfl, rfl⟩ := gives_assign escape given
  have columns := zipWith_inTurn_assign (before.binding escape) before.pending.length values
  rw [written, ← joined_assignTo, Binding.joined, ← columns.1, ← columns.2]
  exact ⟨rfl, rfl⟩

/-- An insertion is written from its template. -/
theorem writes_insertion (verb table : String) (values : Assignments) :
    Writes escape (insertion escape verb table values)
      (fun _ => .ofInsertion verb table values) values.bound := by
  unfold insertion
  refine .behindTable (.behindAssignments ?_)
  -- The steps before the last one leave the compiler as it was.
  have steps : ∀ {before text after}, Gives (assign escape values >>= fun texts =>
      pure (verb ++ " INTO " ++ trim table ++ " (" ++ joinWith ", " (values.map Prod.fst) ++
        ") VALUES (" ++ joinWith ", " texts ++ ")")) before text after →
      let bound := written escape before (.ofInsertion verb table values)
      text = bound.text ∧ after.pending = before.pending ++ bound.values := by
    intro before text after given
    obtain ⟨texts, assigned, rfl⟩ := gives_map.mp given
    obtain ⟨rfl, rfl⟩ := gives_assign escape assigned
    have joined := Template.joined_inTurn (before.binding escape) before.pending.length
      (assign_eq_write (before.binding escape)) ", " (values.map Prod.snd)
    rw [List.map_map, Function.comp_def] at joined
    -- The joined values stand between the parentheses.
    rw [written, Template.ofInsertion, List.cons_append, Template.write_fixed_cons,
      Template.write_append, Template.write_fixed, ← joined]
    simp [Binding.joined, Compiler.push, String.append_assoc]
  refine ⟨fun given => (steps given).1, fun given => (steps given).2, fun _ => ?_⟩
  -- Only the assigned values are slots.
  simp [Template.ofInsertion, Template.values, Template.values_separated, List.flatMap_map,
    values_assigned]

/-- A selection is written from its template. -/
theorem writes_selection (table : String) (columns : List String) (args : List Condition) :
    Writes escape (selection escape table columns args)
      (.ofSelection · table columns args) (args.flatMap Condition.bound) :=
  .behindTable ((writes_modifiers escape args).tailed
    (fun binding pending kind => isEmpty_ofModifiers binding pending kind args) _)

/-- An update is written from its template: its conditions count on behind its assignments. -/
theorem writes_update (table : String) (values : Assignments) (args : List Condition) :
    Writes escape (build escape (.update table values args))
      (Statement.template · (.update table values args))
      (values.bound ++ args.flatMap Condition.bound) := by
  unfold build
  refine .behindTable (.behindAssignments ?_)
  -- The conditions are compiled with what the assignments bound pending before them.
  have shape : ∀ before : Compiler,
      written escape before (Statement.template (nextKind before) (.update table values args)) =
        let front := written escape before (.ofAssignments values)
        let back := written escape (before.push front.values) (.ofConditions (nextKind before) args)
        ⟨withTail ("UPDATE " ++ trim table ++ " SET " ++ front.text) back.text,
          front.values ++ back.values⟩ := by
    -- The space behind the assignments is there only if there are conditions.
    intro before
    rw [written, Statement.template, write_tailed _ _ fun pending =>
      isEmpty_ofConditions _ pending _ args, Template.write_fixed_cons]
    simp [written, Compiler.push, Compiler.binding]
  have conditions := writes_conditions escape args
  constructor
  all_goals
    intro before text after given
    obtain ⟨texts, middle, assigned, last⟩ := gives_bind.mp given
    obtain ⟨tail, inner, rfl⟩ := gives_map.mp last
    obtain ⟨joined, rfl⟩ := gives_assignments escape assigned
  · -- The text of the conditions counts on from the values of the assignments.
    rw [shape, conditions.text inner, joined]
    rfl
  · -- The values of the conditions come behind those of the assignments.
    rw [shape, conditions.pending inner]
    simp only [Compiler.push, List.append_assoc]
    rfl
  · -- Both parts have slots for what they bind.
    have tailValues := conditions.values inner
    change (Template.ofConditions (nextKind before) args).values = _ at tailValues
    rw [Statement.template, values_tailed, Template.values, values_ofAssignments, tailValues]

/-- A statement is written from its template. -/
theorem writes_build (statement : Statement) :
    Writes escape (build escape statement) statement.template statement.bound := by
  -- Each statement is a head of fixed text, and a tail that is compiled.
  cases statement with
  | select table columns args => exact writes_selection escape table columns args
  | createSelect table columns source args =>
    exact .behindTable (.behindTable ((writes_modifiers escape args).tailed
      (fun binding pending kind => isEmpty_ofModifiers binding pending kind args) _))
  | selectInto table columns source args =>
    exact .behindTable (.behindTable ((writes_modifiers escape args).tailed
      (fun binding pending kind => isEmpty_ofModifiers binding pending kind args) _))
  | insert table values => exact writes_insertion escape "INSERT" table values
  | replace table values => exact writes_insertion escape "REPLACE" table values
  | update table values args => exact writes_update escape table values args
  | delete table args =>
    exact .behindTable ((writes_conditions escape args).tailed
      (fun binding pending kind => isEmpty_ofConditions binding pending kind args) _)
  | insertSelect table columns source sourceColumns args =>
    exact .behindTable ((writes_selection escape source sourceColumns args).behindText _)

end Assembly

variable {escape : Escape} {compiler after : Compiler} {statement : Statement} {sql : String}

/-- A statement that is assembled is built without a fault. -/
theorem gives_of_assemble (ok : statement.assemble escape compiler = (.ok sql, after)) :
    (Assembly.build escape statement).Gives compiler sql after := by
  unfold Statement.assemble at ok
  unfold Assembly.Gives
  cases run : (Assembly.build escape statement).run.run compiler with
  | mk outcome left =>
    rw [run] at ok
    cases outcome with
    | error fault => cases ok
    | ok text =>
      cases ok
      rfl

/-- A statement that is assembled is written from its template, and its values are pending. -/
theorem assemble_eq_written (ok : statement.assemble escape compiler = (.ok sql, after)) :
    let template := statement.template (Assembly.nextKind compiler)
    let written := template.write (compiler.binding escape) compiler.pending.length
    sql = written.text ∧ after.pending = compiler.pending ++ written.values ∧
      template.values = statement.bound := by
  -- What is built is written from the template.
  have writes := Assembly.writes_build escape statement
  have given := gives_of_assemble ok
  exact ⟨writes.text given, writes.pending given, writes.values given⟩

end Querent
