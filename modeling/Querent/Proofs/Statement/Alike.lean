import Querent.Proofs.Statement.Literals

/-! Clauses and statements that differ in the texts of their values have templates of one shape. -/

namespace Querent

/-- Whether an operator writes the same for the values of two comparisons, but for their texts. -/
def Operator.AlikeFor (left right : Comparison) : Operator → Prop
  | between | notBetween => True
  | isIn => left.operand.values.length = right.operand.values.length ∧
      left.combiner = right.combiner
  | is | isNot => left.combiner = right.combiner
  | _ => left.operand.values.map Value.isNullToken = right.operand.values.map Value.isNullToken ∧
      left.combiner = right.combiner

/-- Whether two comparisons differ in the texts of the values that they bind, and in nothing else;
the upper bound of a range is such a value. -/
structure Comparison.Alike (left right : Comparison) : Prop where
  key : left.key = right.key
  operator : left.operator = right.operator
  extra : left.extra = right.extra
  values : ∀ operator, left.operator? = some operator → operator.AlikeFor left right

/-- Whether two conditions differ in the texts of the values that they bind, and in nothing else. -/
inductive Condition.Alike : Condition → Condition → Prop
  | raw (text : String) : Alike (.raw text) (.raw text)
  | comparison {left right : Comparison} :
      left.Alike right → Alike (.comparison left) (.comparison right)

/-- Whether two assignments are to one column, and neither or both are of null or the present time.
-/
structure AssignsAlike (left right : String × Value) : Prop where
  column : left.1 = right.1
  null : left.2.isNullToken = right.2.isNullToken
  present : left.2.isPresent = right.2.isPresent

/-- Whether two statements differ in the texts of the values that they bind, and in nothing else. -/
inductive Statement.Alike : Statement → Statement → Prop
  | select (table : String) (columns : List String) {args others : List Condition} :
      List.Forall₂ Condition.Alike args others →
      Alike (.select table columns args) (.select table columns others)
  | createSelect (table : String) (columns : List String) (source : String)
      {args others : List Condition} :
      List.Forall₂ Condition.Alike args others →
      Alike (.createSelect table columns source args) (.createSelect table columns source others)
  | selectInto (table : String) (columns : List String) (source : String)
      {args others : List Condition} :
      List.Forall₂ Condition.Alike args others →
      Alike (.selectInto table columns source args) (.selectInto table columns source others)
  | insert (table : String) {values values' : Assignments} :
      List.Forall₂ AssignsAlike values values' →
      Alike (.insert table values) (.insert table values')
  | replace (table : String) {values values' : Assignments} :
      List.Forall₂ AssignsAlike values values' →
      Alike (.replace table values) (.replace table values')
  | update (table : String) {values values' : Assignments} {args others : List Condition} :
      List.Forall₂ AssignsAlike values values' → List.Forall₂ Condition.Alike args others →
      Alike (.update table values args) (.update table values' others)
  | delete (table : String) {args others : List Condition} :
      List.Forall₂ Condition.Alike args others →
      Alike (.delete table args) (.delete table others)
  | insertSelect (table : String) (columns : List String) (source : String)
      (sourceColumns : List String) {args others : List Condition} :
      List.Forall₂ Condition.Alike args others →
      Alike (.insertSelect table columns source sourceColumns args)
        (.insertSelect table columns source sourceColumns others)

namespace Template

/-- Fixed text in front is part of the shape. -/
@[simp] theorem shape_fixed_cons (text : String) (rest : Template) :
    shape (.fixed text :: rest) = some text :: shape rest :=
  rfl

/-- The shapes of two templates follow one another. -/
@[simp] theorem shape_append (front back : Template) :
    shape (front ++ back) = shape front ++ shape back :=
  List.map_append

/-- Templates with a text between neighbours have the same shape if each two of them have. -/
theorem shape_separated (separator : String) {templates others : List Template}
    (same : List.Forall₂ (fun template other => shape template = shape other) templates others) :
    shape (separated separator templates) = shape (separated separator others) := by
  induction same with
  | nil => rfl
  | cons first rest ih =>
    -- The separator stands between two templates, so that the last one has none behind it.
    cases rest with
    | nil => exact first
    | cons next later => rw [separated_cons, separated_cons, shape_append, shape_append, first,
        shape_fixed_cons, shape_fixed_cons, ih]

/-- Slots have the same shape if there are as many. -/
theorem shape_map_slot {values others : List Value} (same : values.length = others.length) :
    shape (values.map .slot) = shape (others.map .slot) := by
  -- A slot has no text.
  have none : ∀ values : List Value,
      shape (values.map .slot) = List.replicate values.length none := by
    intro values
    induction values with
    | nil => rfl
    | cons value values ih => exact congrArg (none :: ·) ih
  rw [none, none, same]

/-- Slots with a text between them have the same shape if there are as many. -/
theorem shape_slots (separator : String) {values others : List Value}
    (same : values.length = others.length) :
    shape (slots separator values) = shape (slots separator others) := by
  apply shape_separated
  rw [List.forall₂_map_left_iff, List.forall₂_map_right_iff, List.forall₂_iff_get]
  exact ⟨same, fun _ _ _ => rfl⟩

end Template

namespace Comparison

variable {left right : Comparison}

/-- For one operator, comparisons of one key that bind as many values have templates of one shape.
-/
theorem shape_templateFor {operator : Operator} (key : left.key = right.key)
    (same : (left.boundFor operator).length = (right.boundFor operator).length) :
    (left.templateFor operator).shape = (right.templateFor operator).shape := by
  have empty : (left.boundFor operator).isEmpty = (right.boundFor operator).isEmpty := by
    rw [Bool.eq_iff_iff, List.isEmpty_iff_length_eq_zero, List.isEmpty_iff_length_eq_zero, same]
  -- Ranges and choices have slots with a word between them, and all others have one slot at most.
  cases operator <;> simp only [templateFor, key]
  case between | notBetween =>
    rw [Template.shape_fixed_cons, Template.shape_fixed_cons, Template.shape_slots " AND " same]
  case isIn =>
    rw [List.cons_append, List.cons_append, Template.shape_fixed_cons, Template.shape_fixed_cons,
      Template.shape_append, Template.shape_append, Template.shape_slots ", " same]
  -- Without a value null is written out, in both.
  all_goals
    rw [empty]
    split
    · rfl
    · rw [Template.shape_fixed_cons, Template.shape_fixed_cons, Template.shape_map_slot same]

/-- A range has two bounds where it fits its operator. -/
theorem length_boundFor_range {terms : Comparison} {operator : Operator}
    (range : operator.isRange = true) (fits : terms.Fits operator) :
    (terms.boundFor operator).length = 2 := by
  cases operator
  case between | notBetween =>
    obtain ⟨low, high, single, upper⟩ := fits
    rw [boundFor, single, upper]
    rfl
  all_goals cases range

/-- Values that are null together are bound together. -/
theorem length_filter_isNullToken {values others : List Value}
    (same : values.map Value.isNullToken = others.map Value.isNullToken) :
    (values.filter fun value => !value.isNullToken).length =
      (others.filter fun value => !value.isNullToken).length := by
  -- The number is told by which of the values are null.
  have counted : ∀ values : List Value, (values.filter fun value => !value.isNullToken).length =
      ((values.map Value.isNullToken).filter (!·)).length := by
    intro values
    rw [List.filter_map, List.length_map]
    rfl
  rw [counted, counted, same]

/-- Alike comparisons that are valid have templates of one shape, and the same joiner. -/
theorem Alike.shape_template (alike : left.Alike right) (valid : left.Valid)
    (valid' : right.Valid) :
    left.template.shape = right.template.shape ∧ left.joiner = right.joiner := by
  obtain ⟨operator, named, fits⟩ := valid.fits
  obtain ⟨operator', named', fits'⟩ := valid'.fits
  -- One token names one operator.
  have same : left.operator? = right.operator? := by
    rw [operator?, operator?, alike.operator]
  obtain rfl : operator = operator' := Option.some.inj (named.symm.trans (same.trans named'))
  have values := alike.values operator named
  rw [template, template, joiner, joiner, named, named', Option.map_some, Option.map_some,
    Option.map_some, Option.map_some, Option.getD_some, Option.getD_some, Option.getD_some,
    Option.getD_some, joinerFor, joinerFor, alike.extra]
  cases range : operator.isRange with
  | true =>
    -- Behind a range the joiner is in a place of its own.
    refine ⟨shape_templateFor alike.key ?_, by rw [if_pos rfl, if_pos rfl]⟩
    rw [length_boundFor_range range fits, length_boundFor_range range fits']
  | false =>
    have lengths : (left.boundFor operator).length = (right.boundFor operator).length ∧
        left.combiner = right.combiner := by
      cases operator
      case between | notBetween => cases range
      case isIn => exact values
      case is | isNot => exact ⟨rfl, values⟩
      all_goals exact ⟨length_filter_isNullToken values.1, values.2⟩
    exact ⟨shape_templateFor alike.key lengths.1, by rw [lengths.2]⟩

end Comparison

namespace Condition.Alike

variable {left right : Condition} {args others : List Condition}

/-- Alike conditions are given the same texts, and pass on the same written clauses. -/
theorem texts (alike : left.Alike right) :
    left.givenTexts = right.givenTexts ∧ left.trimmed? = right.trimmed? ∧
      left.fragment? = right.fragment? := by
  cases alike with
  | raw text => exact ⟨rfl, rfl, rfl⟩
  | comparison alike => exact ⟨congrArg ([·]) alike.key, rfl, rfl⟩

/-- Alike conditions are given the same texts. -/
theorem givenTexts_eq (alike : List.Forall₂ Condition.Alike args others) :
    args.flatMap Condition.givenTexts = others.flatMap Condition.givenTexts := by
  induction alike with
  | nil => rfl
  | cons first _ ih => rw [List.flatMap_cons, List.flatMap_cons, first.texts.1, ih]

/-- Alike conditions have alike comparisons. -/
theorem comparisons (alike : List.Forall₂ Condition.Alike args others) :
    List.Forall₂ Comparison.Alike (args.filterMap Condition.terms?)
      (others.filterMap Condition.terms?) := by
  induction alike with
  | nil => exact .nil
  | cons first _ ih =>
    cases first with
    | raw text => exact ih
    | comparison alike => exact .cons alike ih

/-- Alike conditions pass on the same written clauses. -/
theorem fragments_eq (alike : List.Forall₂ Condition.Alike args others) :
    args.any (·.fragment?.isSome) = others.any (·.fragment?.isSome) ∧
      args.filterMap Condition.trimmed? = others.filterMap Condition.trimmed? := by
  induction alike with
  | nil => exact ⟨rfl, rfl⟩
  | cons first _ ih =>
    -- A comparison passes on nothing, and a written clause is the same in both.
    obtain ⟨-, trimmed, fragment⟩ := first.texts
    simp only [List.any_cons, List.filterMap_cons, trimmed, fragment, ih.1, ih.2, and_self]

end Condition.Alike

/-- Clauses of alike comparisons that are valid have templates of one shape. -/
theorem shape_clauseTemplate (kind : ClauseKind) {comparisons others : List Comparison}
    (alike : List.Forall₂ Comparison.Alike comparisons others)
    (valid : ∀ terms ∈ comparisons, terms.Valid) (valid' : ∀ terms ∈ others, terms.Valid) :
    (clauseTemplate kind comparisons).shape = (clauseTemplate kind others).shape := by
  refine congrArg (some kind.keyword :: ·) ?_
  change (comparisonsTemplate comparisons).shape = (comparisonsTemplate others).shape
  induction alike with
  | nil => rfl
  | cons first rest ih =>
    rw [List.forall_mem_cons] at valid valid'
    obtain ⟨shape, joiner⟩ := first.shape_template valid.1 valid'.1
    have later := ih valid.2 valid'.2
    -- The last comparison has no joiner behind it.
    cases rest with
    | nil => exact congrArg (some " " :: ·) shape
    | cons next more =>
      rw [comparisonsTemplate_cons, comparisonsTemplate_cons]
      simp only [List.cons_append, Template.shape_fixed_cons, Template.shape_append, shape, joiner,
        later]

namespace Template

variable (kind : ClauseKind) {args others : List Condition}

/-- Alike conditions have templates of one shape. -/
theorem shape_ofConditions (alike : List.Forall₂ Condition.Alike args others)
    (valid : ∀ terms ∈ args.filterMap Condition.terms?, terms.Valid)
    (valid' : ∀ terms ∈ others.filterMap Condition.terms?, terms.Valid) :
    (ofConditions kind args).shape = (ofConditions kind others).shape := by
  have comparisons := Condition.Alike.comparisons alike
  -- By the first condition, as in the template.
  cases alike with
  | nil => rfl
  | cons first rest =>
    cases first with
    | raw text => rw [ofConditions, ofConditions]
    | comparison alike =>
      rw [ofConditions, ofConditions]
      · exact shape_clauseTemplate kind comparisons valid valid'
      all_goals simp

/-- What ends two selections has templates of one shape, where the conditions are alike. -/
theorem shape_ofModifiers (alike : List.Forall₂ Condition.Alike args others)
    (valid : ∀ terms ∈ args.filterMap Condition.terms?, terms.Valid)
    (valid' : ∀ terms ∈ others.filterMap Condition.terms?, terms.Valid) :
    (ofModifiers kind args).shape = (ofModifiers kind others).shape := by
  obtain ⟨some, trimmed⟩ := Condition.Alike.fragments_eq alike
  unfold ofModifiers
  -- Written clauses end the selection in both, or conditions do.
  rw [some, trimmed]
  split
  · rfl
  · exact shape_ofConditions kind alike valid valid'

/-- Heads and tails of one shape have one shape. -/
theorem shape_tailed {head head' tail tail' : Template} (front : head.shape = head'.shape)
    (back : tail.shape = tail'.shape) : (tailed head tail).shape = (tailed head' tail').shape := by
  have empty : tail.isEmpty = tail'.isEmpty := by
    have lengths := congrArg List.length back
    simp only [shape, List.length_map] at lengths
    rw [Bool.eq_iff_iff, List.isEmpty_iff_length_eq_zero, List.isEmpty_iff_length_eq_zero, lengths]
  unfold tailed
  rw [empty]
  -- A tail is there in both or in none.
  split
  · exact front
  · rw [shape_append, shape_append, shape_fixed_cons, shape_fixed_cons, front, back]

/-- Alike assigned values have templates of one shape. -/
theorem shape_ofAssigned {left right : String × Value} (alike : AssignsAlike left right) :
    (ofAssigned left.2).shape = (ofAssigned right.2).shape := by
  unfold ofAssigned
  rw [alike.null, alike.present]
  -- The same branch is taken for both values.
  repeat' split
  all_goals rfl

variable {values values' : Assignments}

/-- Alike assignments are to the same columns. -/
theorem columns_eq (alike : List.Forall₂ AssignsAlike values values') :
    values.map Prod.fst = values'.map Prod.fst := by
  induction alike with
  | nil => rfl
  | cons first _ ih => rw [List.map_cons, List.map_cons, first.column, ih]

/-- Alike insertions have templates of one shape. -/
theorem shape_ofInsertion (verb table : String) (alike : List.Forall₂ AssignsAlike values values') :
    (ofInsertion verb table values).shape = (ofInsertion verb table values').shape := by
  have list : shape (separated ", " (values.map fun pair => ofAssigned pair.2)) =
      shape (separated ", " (values'.map fun pair => ofAssigned pair.2)) := by
    apply shape_separated
    rw [List.forall₂_map_left_iff, List.forall₂_map_right_iff]
    exact alike.imp fun _ _ => shape_ofAssigned
  simp only [ofInsertion, List.cons_append, shape_fixed_cons, shape_append, columns_eq alike, list]

/-- Alike assignments have templates of one shape. -/
theorem shape_ofAssignments (alike : List.Forall₂ AssignsAlike values values') :
    (ofAssignments values).shape = (ofAssignments values').shape := by
  apply shape_separated
  rw [List.forall₂_map_left_iff, List.forall₂_map_right_iff]
  refine alike.imp ?_
  intro left right alike
  rw [shape_fixed_cons, shape_fixed_cons, alike.column, shape_ofAssigned alike]

/-- Alike selections have templates of one shape. -/
theorem shape_ofSelection (table : String) (columns : List String)
    (alike : List.Forall₂ Condition.Alike args others)
    (valid : ∀ terms ∈ args.filterMap Condition.terms?, terms.Valid)
    (valid' : ∀ terms ∈ others.filterMap Condition.terms?, terms.Valid) :
    (ofSelection kind table columns args).shape = (ofSelection kind table columns others).shape :=
  shape_tailed rfl (shape_ofModifiers kind alike valid valid')

end Template

namespace Statement.Alike

variable {left right : Statement}

/-- Alike statements are given the same texts. -/
theorem givenTexts_eq (alike : left.Alike right) : left.givenTexts = right.givenTexts := by
  cases alike with
  | insert table values | replace table values =>
    exact congrArg (table :: ·) (Template.columns_eq values)
  | update table values args =>
    simp only [givenTexts, Template.columns_eq values, Condition.Alike.givenTexts_eq args]
  | _ =>
    next args => simp only [givenTexts, Condition.Alike.givenTexts_eq args]

/-- Alike statements have templates of one shape. -/
theorem shape_template (alike : left.Alike right) (kind : ClauseKind)
    (valid : ∀ terms ∈ left.conditions.filterMap Condition.terms?, terms.Valid)
    (valid' : ∀ terms ∈ right.conditions.filterMap Condition.terms?, terms.Valid) :
    (left.template kind).shape = (right.template kind).shape := by
  -- The heads have no values, but for those of assignments.
  cases alike with
  | select table columns args =>
    exact Template.shape_ofSelection kind table columns args valid valid'
  | createSelect table columns source args =>
    exact Template.shape_tailed rfl (Template.shape_ofModifiers kind args valid valid')
  | selectInto table columns source args =>
    exact Template.shape_tailed rfl (Template.shape_ofModifiers kind args valid valid')
  | insert table values => exact Template.shape_ofInsertion "INSERT" table values
  | replace table values => exact Template.shape_ofInsertion "REPLACE" table values
  | update table values args =>
    exact Template.shape_tailed (congrArg (some _ :: ·) (Template.shape_ofAssignments values))
      (Template.shape_ofConditions kind args valid valid')
  | delete table args =>
    exact Template.shape_tailed rfl (Template.shape_ofConditions kind args valid valid')
  | insertSelect table columns source sourceColumns args =>
    exact congrArg (some _ :: ·)
      (Template.shape_ofSelection kind source sourceColumns args valid valid')

end Statement.Alike

end Querent
