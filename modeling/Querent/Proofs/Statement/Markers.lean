import Querent.Proofs.Statement.Texts

/-! The placeholders of an assembled statement are numbered like the values that it binds. -/

namespace Querent

/-- The digits behind each question mark of a text, from left to right. -/
def markers : List Char → List (List Char)
  | [] => []
  | c :: rest => if c = '?' then rest.takeWhile Char.isDigit :: markers rest else markers rest

/-- Text without a question mark has no marker. -/
theorem markers_append_of_notMem {front : List Char} (plain : '?' ∉ front) (back : List Char) :
    markers (front ++ back) = markers back := by
  -- Each character in front is passed over.
  induction front with
  | nil => rfl
  | cons c front ih =>
    obtain ⟨other, plain⟩ : '?' ≠ c ∧ '?' ∉ front := by simpa using plain
    rw [List.cons_append, markers, if_neg (Ne.symm other), ih plain]

/-- A marker is its digits, when no further digit follows them. -/
theorem markers_placeholder {digits rest : List Char} (run : ∀ c ∈ digits, c.isDigit = true)
    (stop : ∀ c ∈ rest.head?, c.isDigit = false) :
    markers ('?' :: (digits ++ rest)) = digits :: markers rest := by
  -- The digits have no question mark among them, and nothing is taken behind them.
  have marks : '?' ∉ digits := fun mem => absurd (run '?' mem) (by decide)
  have taken : rest.takeWhile Char.isDigit = [] := by
    cases rest with
    | nil => rfl
    | cons c rest => simp [stop c rfl]
  rw [markers, if_pos rfl, markers_append_of_notMem marks, List.takeWhile_append_of_pos run, taken,
    List.append_nil]

/-- A quote ends what a marker may reach. -/
theorem markers_append_quote (front back : List Char) :
    markers (front ++ '\'' :: back) = markers (front ++ ['\'']) ++ markers back := by
  -- No run of digits goes on behind the quote.
  induction front with
  | nil => simp [markers]
  | cons c front ih =>
    have reach : (front ++ '\'' :: back).takeWhile Char.isDigit =
        (front ++ ['\'']).takeWhile Char.isDigit := by
      simp [List.takeWhile_append, Char.isDigit]
    rw [List.cons_append, List.cons_append, markers, markers, ih, reach]
    split <;> rfl

namespace Template

/-- The first character of a template, where a slot begins with a mark of its own. -/
def opening : Template → Option Char
  | [] => none
  | .fixed text :: rest => text.toList.head?.or (opening rest)
  | .slot _ :: _ => some '?'

/-- Whether no slot is followed by a digit, which would be read as a part of its number. -/
def Parted : Template → Prop
  | [] => True
  | .fixed _ :: rest => Parted rest
  | .slot _ :: rest => (∀ c ∈ opening rest, c.isDigit = false) ∧ Parted rest

/-- With placeholders in its slots, a template begins with its first character. -/
theorem head?_numbered (pending : Nat) (template : Template) :
    (template.numbered pending).toList.head? = template.opening := by
  -- Only empty text lets through what comes behind it.
  induction template with
  | nil => rfl
  | cons piece rest ih =>
    cases piece with
    | fixed text => simp [numbered, opening, ih]
    | slot value => simp [numbered, opening]

/-- The first character of two templates is that of the first one, if it has any text. -/
theorem opening_append (front back : Template) :
    opening (front ++ back) = (opening front).or (opening back) := by
  -- What comes first in the first template hides what comes behind it.
  induction front with
  | nil => simp [opening]
  | cons piece front ih => cases piece <;> simp [opening, ih, Option.or_assoc]

/-- Templates stay parted behind one another, if the second one does not begin with a digit. -/
theorem Parted.append {front back : Template} (parted : front.Parted) (parted' : back.Parted)
    (stop : ∀ c ∈ opening back, c.isDigit = false) : Parted (front ++ back) := by
  induction front with
  | nil => exact parted'
  | cons piece front ih =>
    cases piece with
    | fixed text => exact ih parted
    | slot value =>
      refine ⟨?_, ih parted.2⟩
      -- Behind the slot stands what stood there before, or else the second template.
      intro c mem
      change c ∈ opening (front ++ back) at mem
      rw [opening_append] at mem
      rcases Option.or_eq_some_iff.mp mem with inside | ⟨-, behind⟩
      · exact parted.1 c inside
      · exact stop c behind

/-- Numbered from behind what is pending, the slots have one marker each, in their order. -/
theorem markers_numbered {template : Template} (parted : template.Parted)
    (plain : template.Fixed fun text => '?' ∉ text.toList) (pending : Nat) :
    markers (template.numbered pending).toList =
      (List.range' (pending + 1) template.values.length).map (Nat.toDigits 10) := by
  -- Each slot uses up a number, and fixed text has no question mark.
  induction template generalizing pending with
  | nil => rfl
  | cons piece rest ih =>
    cases piece with
    | fixed text =>
      obtain ⟨first, others⟩ := (fixed_cons_fixed text rest).mp plain
      rw [numbered, String.toList_append, markers_append_of_notMem first, values]
      exact ih parted others pending
    | slot value =>
      have others := (fixed_cons_slot value rest).mp plain
      -- What stands behind the number is no digit, so the marker is the whole number.
      have stop : ∀ c ∈ (numbered (pending + 1) rest).toList.head?, c.isDigit = false := by
        rw [head?_numbered]
        exact parted.1
      have digits : ∀ c ∈ Nat.toDigits 10 (pending + 1), c.isDigit = true := fun c mem =>
        Nat.isDigit_of_mem_toDigits (by decide) (by decide) mem
      have shown := markers_placeholder digits stop
      rw [ih parted.2 others] at shown
      simpa [numbered, values, List.range'_succ] using shown

/-- With literals, all markers are inside of the literals, one after another. -/
theorem markers_literals (escape : Escape) {template : Template}
    (plain : template.Fixed fun text => '?' ∉ text.toList) :
    markers (template.literals escape).toList =
      template.values.flatMap fun value => markers (literal escape value).toList := by
  -- Fixed text has no question mark, and each literal is closed by its quote.
  induction template with
  | nil => rfl
  | cons piece rest ih =>
    cases piece with
    | fixed text =>
      obtain ⟨first, others⟩ := (fixed_cons_fixed text rest).mp plain
      rw [literals, String.toList_append, markers_append_of_notMem first, values]
      exact ih others
    | slot value =>
      have others := (fixed_cons_slot value rest).mp plain
      rw [literals, values, List.flatMap_cons, ← ih others]
      -- A literal stands between two quotes, of which the second one ends its last marker.
      have shut : ∀ text : List Char, (literal escape value).toList ++ text =
          '\'' :: ((escape value.sqlText).toList ++ '\'' :: text) := by
        intro text
        simp [literal]
      have alone := shut []
      rw [List.append_nil] at alone
      rw [String.toList_append, shut, alone]
      exact markers_append_quote ('\'' :: (escape value.sqlText).toList) _

/-- Text that does not begin with a digit parts what is in front of it. -/
theorem Parted.fixed {front rest : Template} (parted : front.Parted) (parted' : rest.Parted)
    {text : String} {c : Char} (first : text.toList.head? = some c) (mark : c.isDigit = false) :
    Parted (front ++ .fixed text :: rest) := by
  -- A slot at the end of the front is followed by this text.
  refine parted.append parted' ?_
  intro d mem
  rw [opening, first] at mem
  cases mem
  exact mark

/-- Text that does not begin with a digit parts the templates of items that it stands between. -/
theorem parted_separated {α : Type} {template : α → Template}
    (each : ∀ item, (template item).Parted) {separator : String} {c : Char}
    (first : separator.toList.head? = some c) (mark : c.isDigit = false) (items : List α) :
    (separated separator (items.map template)).Parted := by
  -- What stands behind a template is the separator, or nothing.
  induction items with
  | nil => exact trivial
  | cons item items ih =>
    cases items with
    | nil => exact each item
    | cons next items =>
      rw [List.map_cons, List.map_cons, separated_cons]
      exact (each item).fixed ih first mark

/-- Slots alone are parted, each by the mark of the next one. -/
theorem parted_map_slot (values : List Value) : Parted (values.map .slot) := by
  induction values with
  | nil => exact trivial
  | cons value values ih =>
    -- Behind a slot stands the mark of the next one, or nothing.
    refine ⟨?_, ih⟩
    intro c mem
    cases values with
    | nil => cases mem
    | cons next values =>
      cases mem
      decide

/-- Slots are parted by text between them that does not begin with a digit. -/
theorem parted_slots {separator : String} {c : Char} (first : separator.toList.head? = some c)
    (mark : c.isDigit = false) (values : List Value) : (slots separator values).Parted := by
  -- Each of the templates in between is a single slot.
  apply parted_separated _ first mark
  intro value
  exact parted_map_slot [value]

/-- The template of a comparison is parted. -/
theorem parted_comparison (terms : Comparison) : terms.template.Parted := by
  unfold Comparison.template
  cases terms.operator? with
  | none => exact trivial
  | some operator =>
    simp only [Option.map_some, Option.getD_some]
    cases operator <;> simp only [Comparison.templateFor]
    -- The bounds of a range have a word between them.
    case between | notBetween => exact parted_slots rfl (by decide) _
    -- A list has commas between its values, and a bracket behind them.
    case isIn =>
      have behind : Parted [] := trivial
      exact (parted_slots rfl (by decide) _).fixed behind rfl (by decide)
    case isNot => exact trivial
    -- Any other operator has one slot at most, which nothing follows.
    all_goals
      split
      · exact trivial
      · exact parted_map_slot _

/-- The template of a clause is parted: a space is in front of each comparison and each joiner. -/
theorem parted_clauseTemplate (kind : ClauseKind) (comparisons : List Comparison) :
    (clauseTemplate kind comparisons).Parted := by
  have inner : (comparisonsTemplate comparisons).Parted := by
    induction comparisons with
    | nil => exact trivial
    | cons terms others ih =>
      cases others with
      | nil => exact parted_comparison terms
      | cons next others =>
        -- The space in front of the joiner follows whatever the comparison ends in.
        have first : (" " ++ terms.joiner.sql).toList.head? = some ' ' := by simp
        rw [comparisonsTemplate_cons]
        exact (parted_comparison terms).fixed ih first (by decide)
  exact inner

/-- The template of what is assigned is parted. -/
theorem parted_ofAssigned (value : Value) : (ofAssigned value).Parted := by
  unfold ofAssigned
  -- Only one of the three forms has a slot.
  repeat' split
  · exact trivial
  · exact trivial
  · exact parted_map_slot [value]

/-- Text without slots is parted. -/
theorem parted_ofText (text : String) : (ofText text).Parted := by
  unfold ofText
  split <;> exact trivial

/-- The template of conditions is parted. -/
theorem parted_ofConditions (kind : ClauseKind) (args : List Condition) :
    (ofConditions kind args).Parted := by
  match args with
  | [] => exact trivial
  | .raw text :: _ => exact parted_ofText text
  -- Comparisons have their own template, and the other rules for clauses do not apply.
  | .comparison terms :: rest =>
    rw [ofConditions]
    · exact parted_clauseTemplate kind _
    all_goals simp

/-- The template of what ends a selection is parted. -/
theorem parted_ofModifiers (kind : ClauseKind) (args : List Condition) :
    (ofModifiers kind args).Parted := by
  unfold ofModifiers
  split
  · exact parted_ofText _
  · exact parted_ofConditions kind args

/-- A head and a tail are parted by the space between them. -/
theorem parted_tailed {head tail : Template} (front : head.Parted) (back : tail.Parted) :
    (tailed head tail).Parted := by
  unfold tailed
  split
  · exact front
  · exact front.fixed back rfl (by decide)

/-- The template of an insertion is parted, by commas and the bracket at the end. -/
theorem parted_ofInsertion (verb table : String) (values : Assignments) :
    (ofInsertion verb table values).Parted := by
  -- The values have commas between them.
  have list : (separated ", " (values.map fun pair => ofAssigned pair.2)).Parted :=
    parted_separated (fun pair => parted_ofAssigned pair.2) rfl (by decide) values
  have behind : Parted [] := trivial
  exact list.fixed behind rfl (by decide)

/-- The template of assignments is parted by commas. -/
theorem parted_ofAssignments (values : Assignments) : (ofAssignments values).Parted := by
  -- A column is fixed text in front of what is assigned to it.
  apply parted_separated _ rfl (by decide)
  intro pair
  exact parted_ofAssigned pair.2

/-- The template of a selection is parted. -/
theorem parted_ofSelection (kind : ClauseKind) (table : String) (columns : List String)
    (args : List Condition) : (ofSelection kind table columns args).Parted :=
  parted_tailed trivial (parted_ofModifiers kind args)

end Template

/-- The template of a statement is parted: no placeholder is followed by a digit. -/
theorem Statement.parted_template (kind : ClauseKind) (statement : Statement) :
    (statement.template kind).Parted := by
  -- Heads without values need no care, and a space is in front of every tail.
  cases statement with
  | select table columns args => exact Template.parted_ofSelection kind table columns args
  | createSelect table columns source args =>
    exact Template.parted_tailed trivial (Template.parted_ofModifiers kind args)
  | selectInto table columns source args =>
    exact Template.parted_tailed trivial (Template.parted_ofModifiers kind args)
  | insert table values => exact Template.parted_ofInsertion "INSERT" table values
  | replace table values => exact Template.parted_ofInsertion "REPLACE" table values
  | update table values args =>
    exact Template.parted_tailed (Template.parted_ofAssignments values)
      (Template.parted_ofConditions kind args)
  | delete table args =>
    exact Template.parted_tailed trivial (Template.parted_ofConditions kind args)
  | insertSelect table columns source sourceColumns args =>
    exact Template.parted_ofSelection kind source sourceColumns args

/-- That a text has no question mark is kept by all that a statement does with it. -/
theorem composable_unmarked : Composable fun text => '?' ∉ text.toList where
  empty := by decide
  star := by decide
  between := by
    -- Plain characters are no question marks.
    intro front own back before isPlain behind
    simp only [String.toList_append, List.mem_append, not_or]
    exact ⟨⟨before, fun mem => absurd (List.all_eq_true.mp isPlain.2 '?' mem) (by decide)⟩, behind⟩
  trim := by
    -- Trimming leaves a part of the text.
    intro text given mem
    rw [trim, String.toList_ofList] at mem
    exact given ((trimEnds_within text.toList).subset mem)

section

variable {escape : Escape} {compiler after : Compiler} {statement : Statement} {sql : String}

/-- With placeholders, an assembled statement has one for each bound value, in their order and
numbered from behind what was pending. With literals nothing is pending, and a question mark is only
found inside of a literal. Either way, a value stands where the template of the statement has its
slot, behind the column that it belongs to. -/
theorem markers_of_assemble (plain : ∀ text ∈ statement.givenTexts, '?' ∉ text.toList)
    (ok : statement.assemble escape compiler = (.ok sql, after)) :
    let template := statement.template (Assembly.nextKind compiler)
    template.values = statement.bound ∧
    if compiler.prepared then
      markers sql.toList =
          (List.range' (compiler.pending.length + 1) statement.bound.length).map (Nat.toDigits 10) ∧
        after.pending = compiler.pending ++ statement.bound ∧
        sql = template.numbered compiler.pending.length
    else
      markers sql.toList =
          statement.bound.flatMap (fun value => markers (literal escape value).toList) ∧
        after.pending = compiler.pending ∧
        sql = template.literals escape := by
  intro template
  -- The text is that of the template, whose fixed parts have no question mark.
  obtain ⟨rfl, kept, bound⟩ := assemble_eq_written ok
  have fixed := statement.fixed_template composable_unmarked (Assembly.nextKind compiler) plain
  have parted := statement.parted_template (Assembly.nextKind compiler)
  refine ⟨bound, ?_⟩
  rw [kept, ← bound]
  -- The mode of the compiler is that of its binding.
  cases mode : compiler.prepared with
  | true =>
    rw [Template.write, if_pos (show (compiler.binding escape).prepared = true from mode),
      if_pos rfl]
    exact ⟨Template.markers_numbered parted fixed compiler.pending.length, rfl, rfl⟩
  | false =>
    have inline : ¬(compiler.binding escape).prepared = true := by simp [Compiler.binding, mode]
    rw [Template.write, if_neg inline, if_neg Bool.false_ne_true, List.append_nil]
    exact ⟨Template.markers_literals escape fixed, rfl, rfl⟩

/-- An update with a value pending numbers one of its columns, and then the bounds of its range. -/
theorem markers_of_update :
    let range : Comparison := ⟨"d", some "between", .single (.int 1), some (.int 2), none⟩
    let statement : Statement :=
      .update "t" [("a", .text "x"), ("b", .null), ("c", .text "now()")] [.comparison range]
    let sql := "UPDATE t SET a = ?2, b = NULL, c = CURRENT_TIMESTAMP() WHERE d BETWEEN ?3 AND ?4"
    let after : Compiler := ⟨true, [.int 7, .text "x", .int 1, .int 2], false⟩
    (∀ text ∈ statement.givenTexts, '?' ∉ text.toList) ∧
      statement.assemble doubleQuotes ⟨true, [.int 7], false⟩ = (.ok sql, after) ∧
      markers sql.toList = [['2'], ['3'], ['4']] ∧
      after.pending = [.int 7] ++ statement.bound ∧
      (statement.template .filter).numbered 1 = sql := by
  intro range statement sql after
  have plain : ∀ text ∈ statement.givenTexts, '?' ∉ text.toList := by decide
  have ok : statement.assemble doubleQuotes ⟨true, [.int 7], false⟩ = (.ok sql, after) := by
    simp only [statement, range, sql, after]
    rfl
  obtain ⟨-, shown, kept, written⟩ := markers_of_assemble plain ok
  exact ⟨plain, ok, shown, kept, written.symm⟩

end

end Querent
