import Mathlib.Data.List.Chain
import Querent.Proofs.Statement.Texts

/-! The parts of a statement have plain text between them, so nothing begins where two parts meet.
-/

namespace Querent

/-- Whether the end of a part is plain text. -/
def Piece.EndsPlain : Piece → Prop
  | fixed text => ∃ front own, text = front ++ own ∧ Plain own
  | slot _ => False

/-- Whether a part begins with plain text. -/
def Piece.BeginsPlain : Piece → Prop
  | fixed text => ∃ own back, text = own ++ back ∧ Plain own
  | slot _ => False

/-- Whether plain text stands where two parts meet. -/
def Piece.Meets (front back : Piece) : Prop :=
  front.EndsPlain ∨ back.BeginsPlain

/-- Plain text ends plainly, whatever stands in front of it. -/
theorem Piece.endsPlain_append (front : String) {own : String} (plain : Plain own) :
    EndsPlain (.fixed (front ++ own)) :=
  ⟨front, own, rfl, plain⟩

/-- Plain text ends plainly. -/
theorem Piece.endsPlain {own : String} (plain : Plain own) : EndsPlain (.fixed own) :=
  ⟨"", own, String.empty_append.symm, plain⟩

/-- Plain text begins plainly. -/
theorem Piece.beginsPlain {own : String} (plain : Plain own) : BeginsPlain (.fixed own) :=
  ⟨own, "", String.append_empty.symm, plain⟩

namespace Template

/-- Whether every two neighbours of a template meet at plain text. -/
def Joined (template : Template) : Prop :=
  List.IsChain Piece.Meets template

/-- A single part has no neighbour. -/
theorem joined_singleton (piece : Piece) : Joined [piece] :=
  .singleton piece

/-- Text that ends plainly may stand in front. -/
theorem Joined.behind {text : String} {rest : Template} (joined : rest.Joined)
    (ends : Piece.EndsPlain (.fixed text)) : Joined (.fixed text :: rest) :=
  List.isChain_cons.mpr ⟨fun _ _ => .inl ends, joined⟩

/-- Plain text may stand between two templates. -/
theorem Joined.between {front back : Template} (joined : front.Joined) (joined' : back.Joined)
    {text : String} (plain : Plain text) : Joined (front ++ .fixed text :: back) := by
  refine List.isChain_append.mpr ⟨joined, joined'.behind (Piece.endsPlain plain), ?_⟩
  -- What the front ends in is followed by the plain text.
  intro last _ first mem
  cases mem
  exact .inr (Piece.beginsPlain plain)

/-- Templates of items are joined by plain text between neighbours. -/
theorem joined_separated {α : Type} {template : α → Template}
    (each : ∀ item, (template item).Joined) {separator : String} (plain : Plain separator)
    (items : List α) : (separated separator (items.map template)).Joined := by
  induction items with
  | nil => exact .nil
  | cons item items ih =>
    cases items with
    | nil => exact each item
    | cons next items =>
      rw [List.map_cons, List.map_cons, separated_cons]
      exact (each item).between ih plain

/-- Slots are joined by plain text between them. -/
theorem joined_slots {separator : String} (plain : Plain separator) (values : List Value) :
    (slots separator values).Joined :=
  joined_separated (fun value => joined_singleton (.slot value)) plain values

/-- A slot by itself, or none, is joined. -/
theorem joined_map_slot {values : List Value} (few : values.length ≤ 1) :
    Joined (values.map .slot) := by
  cases values with
  | nil => exact .nil
  | cons value others =>
    -- There is no room for a second one.
    have none : others = [] := by simpa using few
    rw [none]
    exact joined_singleton (.slot value)

end Template

namespace Comparison

variable {terms : Comparison} {operator : Operator}

/-- A comparison that fits an operator of one value binds one value at most. -/
theorem length_boundFor_le (fits : terms.Fits operator) (range : operator.isRange = false)
    (choice : operator ≠ .isIn) : (terms.boundFor operator).length ≤ 1 := by
  -- Patterns have a condition more, but are single values too.
  have single : ∃ value, terms.operand = .single value := by
    cases operator
    case isIn => exact absurd rfl choice
    case between | notBetween => cases range
    case like | notLike =>
      obtain ⟨value, single, -⟩ := fits
      exact ⟨value, single⟩
    all_goals exact fits
  obtain ⟨value, single⟩ := single
  have within : (terms.operand.values.filter fun value => !value.isNullToken).length ≤ 1 := by
    refine (List.length_filter_le _ _).trans ?_
    rw [single]
    exact Nat.le_refl 1
  cases operator
  case isIn => exact absurd rfl choice
  case between | notBetween => cases range
  case is | isNot => exact Nat.zero_le 1
  all_goals exact within

/-- The template of a comparison that fits its operator is joined. -/
theorem joined_templateFor (fits : terms.Fits operator) : (terms.templateFor operator).Joined := by
  -- The text of the key and the operator ends in a space.
  have space : Plain " " := by decide
  cases operator <;> simp only [templateFor]
  case between | notBetween =>
    exact (Template.joined_slots (by decide) _).behind (Piece.endsPlain_append _ space)
  case isIn =>
    -- Behind the list stands the bracket that closes it.
    have list : Template.Joined (Template.slots ", " (terms.boundFor .isIn) ++ [.fixed ")"]) :=
      (Template.joined_slots (by decide) _).between .nil (by decide)
    exact list.behind (Piece.endsPlain_append _ (by decide))
  case isNot => exact Template.joined_singleton _
  -- Null is written out, and any other value has a slot behind the text.
  all_goals
    split
    · exact Template.joined_singleton _
    · exact (Template.joined_map_slot (length_boundFor_le fits rfl (by decide))).behind
        (Piece.endsPlain_append _ space)

/-- The template of a valid comparison is joined. -/
theorem joined_template (valid : terms.Valid) : terms.template.Joined := by
  obtain ⟨operator, named, fits⟩ := valid.fits
  rw [template, named, Option.map_some, Option.getD_some]
  exact joined_templateFor fits

end Comparison

/-- The template of a clause of valid comparisons is joined by the spaces between them. -/
theorem joined_clauseTemplate (kind : ClauseKind) {comparisons : List Comparison}
    (valid : ∀ terms ∈ comparisons, terms.Valid) : (clauseTemplate kind comparisons).Joined := by
  have space : Piece.EndsPlain (.fixed " ") := Piece.endsPlain (by decide)
  have joiner : ∀ combiner : Combiner, Plain (" " ++ combiner.sql) := by
    intro combiner
    cases combiner <;> decide
  have inner : (comparisonsTemplate comparisons).Joined := by
    induction comparisons with
    | nil => exact .nil
    | cons terms others ih =>
      obtain ⟨first, rest⟩ := List.forall_mem_cons.mp valid
      have template := Comparison.joined_template first
      cases others with
      | nil => exact template.behind space
      | cons next others =>
        -- The joiner has a space in front, and a letter at its end.
        rw [comparisonsTemplate_cons]
        exact (template.between (ih rest) (joiner _)).behind space
  refine inner.behind (Piece.endsPlain ?_)
  cases kind <;> decide

namespace Template

/-- Text without slots is joined. -/
theorem joined_ofText (text : String) : (ofText text).Joined := by
  unfold ofText
  split
  · exact .nil
  · exact joined_singleton _

/-- The template of conditions is joined where their comparisons are valid. -/
theorem joined_ofConditions (kind : ClauseKind) {args : List Condition}
    (valid : ∀ terms ∈ args.filterMap Condition.terms?, terms.Valid) :
    (ofConditions kind args).Joined := by
  match args with
  | [] => exact .nil
  | .raw text :: _ => exact joined_ofText text
  -- Comparisons have their own template, and the other rules for clauses do not apply.
  | .comparison terms :: rest =>
    rw [ofConditions]
    · exact joined_clauseTemplate kind valid
    all_goals simp

/-- The template of what ends a selection is joined where its comparisons are valid. -/
theorem joined_ofModifiers (kind : ClauseKind) {args : List Condition}
    (valid : ∀ terms ∈ args.filterMap Condition.terms?, terms.Valid) :
    (ofModifiers kind args).Joined := by
  unfold ofModifiers
  split
  · exact joined_ofText _
  · exact joined_ofConditions kind valid

/-- A head and a tail are joined by the space between them. -/
theorem joined_tailed {head tail : Template} (front : head.Joined) (back : tail.Joined) :
    (tailed head tail).Joined := by
  unfold tailed
  split
  · exact front
  · exact front.between back (by decide)

/-- An assigned value is a single part. -/
theorem joined_ofAssigned (value : Value) : (ofAssigned value).Joined := by
  unfold ofAssigned
  repeat' split
  all_goals exact joined_singleton _

/-- The template of an insertion is joined, by commas and brackets. -/
theorem joined_ofInsertion (verb table : String) (values : Assignments) :
    (ofInsertion verb table values).Joined := by
  have list : (separated ", " (values.map fun pair => ofAssigned pair.2)).Joined :=
    joined_separated (fun pair => joined_ofAssigned pair.2) (by decide) values
  -- The head ends in an opening bracket.
  have closed : Plain ")" := by decide
  exact (list.between .nil closed).behind (Piece.endsPlain_append _ (by decide))

/-- The template of assignments is joined, by commas and signs of equality. -/
theorem joined_ofAssignments (values : Assignments) : (ofAssignments values).Joined := by
  apply joined_separated _ (by decide)
  intro pair
  exact (joined_ofAssigned pair.2).behind (Piece.endsPlain_append _ (by decide))

/-- The template of a selection is joined where its comparisons are valid. -/
theorem joined_ofSelection (kind : ClauseKind) (table : String) (columns : List String)
    {args : List Condition}
    (valid : ∀ terms ∈ args.filterMap Condition.terms?, terms.Valid) :
    (ofSelection kind table columns args).Joined :=
  joined_tailed (joined_singleton _) (joined_ofModifiers kind valid)

end Template

/-- The conditions of a statement. -/
def Statement.conditions : Statement → List Condition
  | .select _ _ modifiers => modifiers
  | .createSelect _ _ _ modifiers => modifiers
  | .selectInto _ _ _ modifiers => modifiers
  | .insert _ _ => []
  | .replace _ _ => []
  | .update _ _ conditions => conditions
  | .delete _ conditions => conditions
  | .insertSelect _ _ _ _ modifiers => modifiers

/-- The template of a statement is joined where its comparisons are valid. -/
theorem Statement.joined_template (kind : ClauseKind) {statement : Statement}
    (valid : ∀ terms ∈ statement.conditions.filterMap Condition.terms?, terms.Valid) :
    (statement.template kind).Joined := by
  -- A head is a single part, and a space is in front of every tail.
  cases statement with
  | select table columns args => exact Template.joined_ofSelection kind table columns valid
  | createSelect table columns source args =>
    exact Template.joined_tailed (.singleton _) (Template.joined_ofModifiers kind valid)
  | selectInto table columns source args =>
    exact Template.joined_tailed (.singleton _) (Template.joined_ofModifiers kind valid)
  | insert table values => exact Template.joined_ofInsertion "INSERT" table values
  | replace table values => exact Template.joined_ofInsertion "REPLACE" table values
  | update table values args =>
    -- The head ends in the keyword for the assignments, and a space.
    have assigns : Plain " SET " := by decide
    have head := (Template.joined_ofAssignments values).behind
      (Piece.endsPlain_append ("UPDATE " ++ trim table) assigns)
    exact Template.joined_tailed head (Template.joined_ofConditions kind valid)
  | delete table args =>
    exact Template.joined_tailed (.singleton _) (Template.joined_ofConditions kind valid)
  | insertSelect table columns source sourceColumns args =>
    exact (Template.joined_ofSelection kind source sourceColumns valid).behind
      (Piece.endsPlain_append _ (by decide))

namespace Assembly

variable {α β : Type}

/-- Whether a step that gives a result settles that something holds. -/
structure Settles (step : Assembly α) (fact : Prop) : Prop where
  of_gives : ∀ {before result after}, Gives step before result after → fact

/-- What the first of two steps settles is settled by both. -/
theorem Settles.first {step : Assembly α} {next : α → Assembly β} {fact : Prop}
    (settles : Settles step fact) : Settles (step >>= next) fact := by
  constructor
  intro before result after given
  obtain ⟨between, middle, inner, -⟩ := gives_bind.mp given
  exact settles.of_gives inner

/-- What the second of two steps settles is settled by both. -/
theorem Settles.second {step : Assembly α} {next : α → Assembly β} {fact : Prop}
    (settles : ∀ between, Settles (next between) fact) : Settles (step >>= next) fact := by
  constructor
  intro before result after given
  obtain ⟨between, middle, -, later⟩ := gives_bind.mp given
  exact (settles between).of_gives later

variable (escape : Escape)

/-- Conditions that compile have valid comparisons. -/
theorem settles_conditions (args : List Condition) :
    Settles (conditions escape args)
      (∀ terms ∈ args.filterMap Condition.terms?, terms.Valid) := by
  constructor
  intro before text after given
  -- The step gives a text only where the clause compiles.
  unfold Gives conditions at given
  simp only [ExceptT.run_mk, StateT.run] at given
  split at given
  · next clause left compiled =>
    obtain ⟨bound, inner, -⟩ := exists_of_compile compiled
    exact valid_of_compileClause inner
  · cases given

/-- What ends a selection has valid comparisons. -/
theorem settles_modifiers (args : List Condition) :
    Settles (modifiers escape args)
      (∀ terms ∈ args.filterMap Condition.terms?, terms.Valid) := by
  constructor
  intro before text after given
  unfold modifiers at given
  split at given
  · -- Written clauses have no comparison among them.
    split at given
    · next texts passed =>
      rw [(fragments_eq_ok passed).2.2]
      simp
    · exact absurd given not_gives_throw
  · exact (settles_conditions escape args).of_gives given

/-- A statement that is built has valid comparisons. -/
theorem settles_build (statement : Statement) :
    Settles (build escape statement)
      (∀ terms ∈ statement.conditions.filterMap Condition.terms?, terms.Valid) := by
  cases statement with
  -- The conditions are compiled behind the table, and before the text is put together.
  | select table columns args => exact .second fun _ => .first (settles_modifiers escape args)
  | createSelect table columns source args =>
    exact .second fun _ => .second fun _ => .first (settles_modifiers escape args)
  | selectInto table columns source args =>
    exact .second fun _ => .second fun _ => .first (settles_modifiers escape args)
  | insert table values => exact ⟨fun _ => by simp [Statement.conditions]⟩
  | replace table values => exact ⟨fun _ => by simp [Statement.conditions]⟩
  | update table values args =>
    exact .second fun _ => .second fun _ => .second fun _ => .first (settles_conditions escape args)
  | delete table args => exact .second fun _ => .first (settles_conditions escape args)
  | insertSelect table columns source sourceColumns args =>
    exact .second fun _ => .first (.second fun _ => .first (settles_modifiers escape args))

end Assembly

/-- The template of an assembled statement is joined. -/
theorem joined_of_assemble {escape : Escape} {compiler after : Compiler} {statement : Statement}
    {sql : String} (ok : statement.assemble escape compiler = (.ok sql, after))
    (kind : ClauseKind) :
    (statement.template kind).Joined :=
  statement.joined_template kind ((Assembly.settles_build escape statement).of_gives
    (gives_of_assemble ok))

end Querent
