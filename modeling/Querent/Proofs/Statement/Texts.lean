import Querent.Proofs.Statement.Template

/-! What the fixed text of a statement keeps of the texts that it is given. -/

namespace Querent

/-- Texts that a condition is given and writes as they are. -/
def Condition.givenTexts : Condition → List String
  | .raw text => [text]
  | .comparison terms => [terms.key]

/-- Texts that a statement is given and writes as they are: names, keys and written clauses. -/
def Statement.givenTexts : Statement → List String
  | .select table columns modifiers =>
    table :: columns ++ modifiers.flatMap Condition.givenTexts
  | .createSelect table columns source modifiers =>
    table :: source :: columns ++ modifiers.flatMap Condition.givenTexts
  | .selectInto table columns source modifiers =>
    table :: source :: columns ++ modifiers.flatMap Condition.givenTexts
  | .insert table values => table :: values.map Prod.fst
  | .replace table values => table :: values.map Prod.fst
  | .update table values conditions =>
    table :: values.map Prod.fst ++ conditions.flatMap Condition.givenTexts
  | .delete table conditions => table :: conditions.flatMap Condition.givenTexts
  | .insertSelect table columns source sourceColumns modifiers =>
    table :: source :: columns ++ sourceColumns ++ modifiers.flatMap Condition.givenTexts

/-- Whether a character begins nothing else than words, lists and comparisons. -/
def isPlainChar (c : Char) : Bool :=
  c.isAlpha || [' ', ',', '(', ')', '=', '<', '>', '!', '_'].contains c

/-- Whether a text is not empty, and has only plain characters. -/
def Plain (text : String) : Prop :=
  text ≠ "" ∧ text.toList.all isPlainChar = true

instance (text : String) : Decidable (Plain text) :=
  inferInstanceAs (Decidable (_ ∧ _))

/-- A property that texts keep when they are trimmed, and when plain text is put between them. -/
structure Composable (P : String → Prop) : Prop where
  empty : P ""
  star : P "*"
  between : ∀ {front own back}, P front → Plain own → P back → P (front ++ own ++ back)
  trim : ∀ {text}, P text → P (trim text)

namespace Composable

variable {P : String → Prop} (composable : Composable P)

include composable

/-- Plain text has the property itself. -/
theorem plain {own : String} (isPlain : Plain own) : P own := by
  -- An empty text may stand on both sides.
  have alone := composable.between composable.empty isPlain composable.empty
  simpa using alone

/-- Plain text may be put in front. -/
theorem before {own back : String} (isPlain : Plain own) (given : P back) : P (own ++ back) := by
  have joined := composable.between composable.empty isPlain given
  simpa using joined

/-- Plain text may be put behind. -/
theorem behind {front own : String} (given : P front) (isPlain : Plain own) : P (front ++ own) := by
  have joined := composable.between given isPlain composable.empty
  simpa using joined

/-- Texts may be joined with plain text between them. -/
theorem joinWith {separator : String} (isPlain : Plain separator) {texts : List String}
    (given : ∀ text ∈ texts, P text) : P (joinWith separator texts) := by
  -- Each separator stands between two texts that have the property.
  induction texts with
  | nil => exact composable.empty
  | cons text texts ih =>
    obtain ⟨first, others⟩ := List.forall_mem_cons.mp given
    cases texts with
    | nil => exact first
    | cons next texts => exact composable.between first isPlain (ih others)

/-- Names with commas between them keep the property of the names. -/
theorem columnList {columns : List String} (given : ∀ column ∈ columns, P column) :
    P (columnList columns) := by
  refine composable.joinWith (by decide) ?_
  -- Each name is written without the blanks around it.
  intro text mem
  obtain ⟨column, named, rfl⟩ := List.mem_map.mp (List.mem_of_mem_filter mem)
  exact composable.trim (given column named)

/-- A list of columns keeps the property of the columns. -/
theorem selectList {columns : List String} (given : ∀ column ∈ columns, P column) :
    P (selectList columns) := by
  unfold Querent.selectList
  -- Without a column the star stands for all of them.
  simp only
  split
  · exact composable.star
  · exact composable.columnList given

end Composable

namespace Template

/-- Whether all fixed text of a template has a property. -/
def Fixed (P : String → Prop) (template : Template) : Prop :=
  ∀ text, .fixed text ∈ template → P text

variable {P : String → Prop}

/-- A template without parts has no fixed text. -/
@[simp] theorem fixed_nil : Fixed P [] := by
  simp [Fixed]

/-- Fixed text in front has to have the property. -/
@[simp] theorem fixed_cons_fixed (text : String) (rest : Template) :
    Fixed P (.fixed text :: rest) ↔ P text ∧ Fixed P rest := by
  simp [Fixed, or_imp, forall_and]

/-- A slot in front is no fixed text. -/
@[simp] theorem fixed_cons_slot (value : Value) (rest : Template) :
    Fixed P (.slot value :: rest) ↔ Fixed P rest := by
  simp [Fixed]

/-- Two templates have the fixed text of both. -/
@[simp] theorem fixed_append (front back : Template) :
    Fixed P (front ++ back) ↔ Fixed P front ∧ Fixed P back := by
  simp [Fixed, or_imp, forall_and]

/-- Templates of items with a text between neighbours have the fixed text of all and that text. -/
theorem fixed_separated {α : Type} {template : α → Template} {items : List α}
    (each : ∀ item ∈ items, Fixed P (template item)) {separator : String} (between : P separator) :
    Fixed P (separated separator (items.map template)) := by
  -- The separator stands between two templates.
  induction items with
  | nil => simp [separated]
  | cons item items ih =>
    obtain ⟨first, others⟩ := List.forall_mem_cons.mp each
    have rest := ih others
    cases items with
    | nil => exact first
    | cons next items =>
      rw [List.map_cons] at rest ⊢
      simp [separated_cons, first, between, rest]

end Template

variable {P : String → Prop} (composable : Composable P)

include composable

/-- Slots with plain text between them keep any property. -/
theorem Template.fixed_slots {separator : String} (isPlain : Plain separator)
    (values : List Value) : (Template.slots separator values).Fixed P := by
  -- The only fixed text is the separator.
  apply Template.fixed_separated _ (composable.plain isPlain)
  intro value _
  simp

/-- The fixed text of a comparison keeps the property of its key. -/
theorem Comparison.fixed_template {terms : Comparison} (given : P terms.key) :
    terms.template.Fixed P := by
  -- The key is written without its blanks, and words of the grammar stand behind it.
  have key := composable.trim given
  have words : ∀ operator : Operator, Plain (" " ++ operator.sql ++ " ") := by
    intro operator
    cases operator <;> decide
  have front : ∀ operator : Operator, P (trim terms.key ++ " " ++ operator.sql ++ " ") := by
    intro operator
    have joined := composable.behind key (words operator)
    rwa [← String.append_assoc, ← String.append_assoc] at joined
  -- Slots alone have no fixed text.
  have values : ∀ values : List Value, Template.Fixed P (values.map .slot) := by
    intro values text mem
    obtain ⟨value, -, other⟩ := List.mem_map.mp mem
    cases other
  unfold Comparison.template
  cases terms.operator? with
  -- Without an operator there is no text at all.
  | none => simp
  | some operator =>
    -- The key is all that the caller has put into the text.
    simp only [Option.map_some, Option.getD_some]
    cases operator <;> simp only [templateFor]
    case between | notBetween =>
      rw [Template.fixed_cons_fixed]
      exact ⟨front _, Template.fixed_slots composable (by decide) _⟩
    case isIn =>
      rw [List.cons_append, Template.fixed_cons_fixed, Template.fixed_append,
        Template.fixed_cons_fixed]
      exact ⟨composable.behind key (by decide), Template.fixed_slots composable (by decide) _,
        composable.plain (by decide), Template.fixed_nil⟩
    case isNot =>
      rw [Template.fixed_cons_fixed]
      exact ⟨composable.behind key (by decide), Template.fixed_nil⟩
    -- Null is written out, and any other value has a slot.
    all_goals
      split
      · rw [Template.fixed_cons_fixed]
        exact ⟨composable.behind key (by decide), Template.fixed_nil⟩
      · rw [Template.fixed_cons_fixed]
        exact ⟨front _, values _⟩

/-- The fixed text of a clause keeps the property of the keys. -/
theorem fixed_clauseTemplate (kind : ClauseKind) {comparisons : List Comparison}
    (given : ∀ terms ∈ comparisons, P terms.key) : (clauseTemplate kind comparisons).Fixed P := by
  -- Keyword, space and joiner are all plain.
  have keyword : P kind.keyword := by
    cases kind <;> exact composable.plain (by decide)
  have joiner : ∀ combiner : Combiner, P (" " ++ combiner.sql) := by
    intro combiner
    cases combiner <;> exact composable.plain (by decide)
  have space : P " " := composable.plain (by decide)
  rw [clauseTemplate, Template.fixed_cons_fixed]
  refine ⟨keyword, ?_⟩
  induction comparisons with
  | nil => simp [comparisonsTemplate]
  | cons terms others ih =>
    obtain ⟨first, rest⟩ := List.forall_mem_cons.mp given
    have template := Comparison.fixed_template composable first
    cases others with
    | nil => simp [comparisonsTemplate, space, template]
    | cons next others => simp [comparisonsTemplate_cons, space, template, joiner, ih rest]

omit composable in
/-- Text without slots has the property if the text has it. -/
theorem Template.fixed_ofText {text : String} (given : P text) :
    (Template.ofText text).Fixed P := by
  -- Either there is no text, or this one.
  unfold Template.ofText
  split <;> simp [given]

/-- The fixed text of conditions keeps the property of the texts that they are given. -/
theorem Template.fixed_ofConditions (kind : ClauseKind) {args : List Condition}
    (given : ∀ text ∈ args.flatMap Condition.givenTexts, P text) :
    (Template.ofConditions kind args).Fixed P := by
  match args with
  | [] => simp [Template.ofConditions]
  -- A written clause is the only text.
  | .raw text :: rest =>
    rw [Template.ofConditions]
    exact Template.fixed_ofText (given text (by simp [Condition.givenTexts]))
  | .comparison terms :: rest =>
    rw [Template.ofConditions]
    · -- Only the keys of the comparisons are given.
      refine fixed_clauseTemplate composable kind ?_
      intro other mem
      obtain ⟨condition, condMem, kept⟩ := List.mem_filterMap.mp mem
      cases condition with
      | raw text => cases kept
      | comparison terms =>
        obtain rfl := Option.some.inj kept
        exact given _ (List.mem_flatMap.mpr ⟨_, condMem, by simp [Condition.givenTexts]⟩)
    all_goals simp

/-- The fixed text of what ends a selection keeps the property of the texts that it is given. -/
theorem Template.fixed_ofModifiers (kind : ClauseKind) {args : List Condition}
    (given : ∀ text ∈ args.flatMap Condition.givenTexts, P text) :
    (Template.ofModifiers kind args).Fixed P := by
  unfold Template.ofModifiers
  split
  · -- Written clauses are trimmed, and joined with spaces.
    refine Template.fixed_ofText (composable.joinWith (by decide) ?_)
    intro text mem
    obtain ⟨condition, condMem, kept⟩ := List.mem_filterMap.mp mem
    cases condition with
    | comparison terms => cases kept
    | raw written =>
      obtain rfl := Option.some.inj kept
      exact composable.trim
        (given _ (List.mem_flatMap.mpr ⟨_, condMem, by simp [Condition.givenTexts]⟩))
  · exact Template.fixed_ofConditions composable kind given

/-- A head and a tail have the fixed text of both, and a space between them. -/
theorem Template.fixed_tailed {head tail : Template} (front : head.Fixed P) (back : tail.Fixed P) :
    (Template.tailed head tail).Fixed P := by
  -- The space is there only if the tail is.
  have space : P " " := composable.plain (by decide)
  unfold Template.tailed
  split
  · exact front
  · simp [front, back, space]

/-- An assigned value brings no text of its caller. -/
theorem Template.fixed_ofAssigned (value : Value) : (Template.ofAssigned value).Fixed P := by
  have null : P "NULL" := composable.plain (by decide)
  have present : P "CURRENT_TIMESTAMP()" := composable.plain (by decide)
  unfold Template.ofAssigned
  -- Two values are written out in words of the grammar, and the others are not written.
  repeat' split
  all_goals simp [null, present]

/-- The fixed text of an insertion keeps the property of the table and the columns. -/
theorem Template.fixed_ofInsertion {verb table : String} (isPlain : Plain (verb ++ " INTO "))
    {values : Assignments} (given : ∀ text ∈ table :: values.map Prod.fst, P text) :
    (Template.ofInsertion verb table values).Fixed P := by
  obtain ⟨named, columns⟩ := List.forall_mem_cons.mp given
  -- Behind the verb come the table and the columns, with plain text around them.
  have list : P (joinWith ", " (values.map Prod.fst)) := composable.joinWith (by decide) columns
  have head := composable.before isPlain (composable.trim named)
  rw [Template.ofInsertion, List.cons_append, Template.fixed_cons_fixed, Template.fixed_append,
    Template.fixed_cons_fixed]
  have assigned : ∀ pair ∈ values, (Template.ofAssigned pair.2).Fixed P := fun pair _ =>
    Template.fixed_ofAssigned composable pair.2
  exact ⟨composable.behind (composable.between head (by decide) list) (by decide),
    Template.fixed_separated assigned (composable.plain (by decide)),
    composable.plain (by decide), Template.fixed_nil⟩

/-- The fixed text of assignments keeps the property of the columns. -/
theorem Template.fixed_ofAssignments {values : Assignments}
    (given : ∀ text ∈ values.map Prod.fst, P text) : (Template.ofAssignments values).Fixed P := by
  apply Template.fixed_separated _ (composable.plain (by decide))
  -- Each column is given, and the sign of equality behind it is plain.
  intro pair pairMem
  rw [Template.fixed_cons_fixed]
  exact ⟨composable.behind (given _ (List.mem_map_of_mem pairMem)) (by decide),
    Template.fixed_ofAssigned composable pair.2⟩

/-- A single fixed text may stand in front of a tail. -/
theorem Template.fixed_headed {head : String} {tail : Template} (front : P head)
    (back : tail.Fixed P) : (Template.tailed [.fixed head] tail).Fixed P :=
  Template.fixed_tailed composable (by simpa using front) back

/-- The fixed text of a selection keeps the property of the texts that it is given. -/
theorem Template.fixed_ofSelection (kind : ClauseKind) {table : String} {columns : List String}
    {args : List Condition} (named : P table) (list : ∀ column ∈ columns, P column)
    (given : ∀ text ∈ args.flatMap Condition.givenTexts, P text) :
    (Template.ofSelection kind table columns args).Fixed P := by
  -- The list of columns is between two keywords, and the table ends the head.
  have columns : P ("SELECT " ++ selectList columns) :=
    composable.before (by decide) (composable.selectList list)
  exact Template.fixed_headed composable
    (composable.between columns (by decide) (composable.trim named))
    (Template.fixed_ofModifiers composable kind given)

/-- The fixed text of a statement keeps the property of the texts that it is given. -/
theorem Statement.fixed_template (kind : ClauseKind) {statement : Statement}
    (given : ∀ text ∈ statement.givenTexts, P text) : (statement.template kind).Fixed P := by
  cases statement with
  | select table columns args =>
    -- The table, the columns and the clauses are the given texts.
    simp only [givenTexts, List.cons_append, List.forall_mem_cons, List.forall_mem_append] at given
    obtain ⟨named, list, clauses⟩ := given
    exact Template.fixed_ofSelection composable kind named list clauses
  | createSelect table columns source args =>
    simp only [givenTexts, List.cons_append, List.forall_mem_cons, List.forall_mem_append] at given
    -- Here the source of the rows is given too.
    obtain ⟨named, origin, list, clauses⟩ := given
    refine Template.fixed_headed composable ?_ (Template.fixed_ofModifiers composable kind clauses)
    exact composable.between (composable.between (composable.before (by decide)
      (composable.trim named)) (by decide) (composable.selectList list)) (by decide)
      (composable.trim origin)
  | selectInto table columns source args =>
    simp only [givenTexts, List.cons_append, List.forall_mem_cons, List.forall_mem_append] at given
    -- The same texts stand in another order.
    obtain ⟨named, origin, list, clauses⟩ := given
    refine Template.fixed_headed composable ?_ (Template.fixed_ofModifiers composable kind clauses)
    exact composable.between (composable.between (composable.before (by decide)
      (composable.selectList list)) (by decide) (composable.trim named)) (by decide)
      (composable.trim origin)
  | insert table values => exact Template.fixed_ofInsertion composable (by decide) given
  | replace table values => exact Template.fixed_ofInsertion composable (by decide) given
  | update table values args =>
    simp only [givenTexts, List.cons_append, List.forall_mem_cons, List.forall_mem_append] at given
    -- Columns are given with their values, and the conditions come behind them.
    obtain ⟨named, columns, clauses⟩ := given
    refine Template.fixed_tailed composable ?_ (Template.fixed_ofConditions composable kind clauses)
    rw [Template.fixed_cons_fixed]
    exact ⟨composable.behind (composable.before (by decide) (composable.trim named)) (by decide),
      Template.fixed_ofAssignments composable columns⟩
  | delete table args =>
    obtain ⟨named, clauses⟩ := List.forall_mem_cons.mp given
    exact Template.fixed_headed composable (composable.before (by decide) (composable.trim named))
      (Template.fixed_ofConditions composable kind clauses)
  | insertSelect table columns source sourceColumns args =>
    simp only [givenTexts, List.cons_append, List.append_assoc, List.forall_mem_cons,
      List.forall_mem_append] at given
    obtain ⟨named, origin, list, sourceList, clauses⟩ := given
    -- The target has a list of columns only if one is named.
    have target : P ("INSERT INTO " ++ trim table) :=
      composable.before (by decide) (composable.trim named)
    have listed : P ("INSERT INTO " ++ trim table ++ " (" ++ selectList columns ++ ")") :=
      composable.behind (composable.between target (by decide) (composable.selectList list))
        (by decide)
    rw [template, Template.fixed_cons_fixed]
    refine ⟨composable.behind ?_ (by decide),
      Template.fixed_ofSelection composable kind origin sourceList clauses⟩
    split
    · exact target
    · exact listed

end Querent
