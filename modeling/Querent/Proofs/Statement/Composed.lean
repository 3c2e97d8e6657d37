import Querent.Proofs.Statement.Grouping

/-! Clauses that are compiled one after another and passed on together to a selection. -/

namespace Querent

/-- A trimmed text ends with no blank, if there is anything left of it. -/
theorem endsSolid_trim {text : String} (some : trim text ≠ "") : EndsSolid (trim text) := by
  -- A trimmed text is trimmed again to itself, so that its last character is no blank.
  have kept := ((trimEnds_eq_self_iff _).mp (trimEnds_trimEnds text.toList)).2
  have full : trimEnds text.toList ≠ [] := by
    intro none
    exact some (by rw [trim, none])
  rw [List.getLast?_map, List.getLast?_eq_some_getLast full] at kept
  refine ⟨(trimEnds text.toList).getLast full, ?_, by simpa using kept⟩
  rw [trim, String.toList_ofList]
  exact List.getLast?_eq_some_getLast full

/-- A text that ends with a character is not empty. -/
theorem EndsSolid.isEmpty_eq_false {text : String} (solid : EndsSolid text) :
    text.isEmpty = false := by
  rw [Bool.eq_false_iff]
  intro none
  obtain ⟨c, last, -⟩ := solid
  rw [String.isEmpty_iff.mp none] at last
  cases last

/-- Texts with a separator between them end as the last one does. -/
theorem endsSolid_joinWith (separator : String) {texts : List String} (some : texts ≠ [])
    (each : ∀ text ∈ texts, EndsSolid text) : EndsSolid (joinWith separator texts) := by
  -- Whatever stands in front, the last text has the last character.
  induction texts with
  | nil => exact absurd rfl some
  | cons text texts ih =>
    cases texts with
    | nil => exact each text (List.mem_cons_self ..)
    | cons next texts =>
      have later := ih (List.cons_ne_nil next texts)
        fun own mem => each own (List.mem_cons_of_mem _ mem)
      exact later.append (text ++ separator)

/-- The characters of a grouping. -/
theorem grouping_toList (list : String) :
    ("GROUP BY " ++ list).toList = "GROUP BY".toList ++ ' ' :: list.toList := by
  simp

/-- The characters of a sorting. -/
theorem sorting_toList (list : String) (direction : Direction) :
    ("ORDER BY " ++ list ++ " " ++ direction.sql).toList =
      "ORDER BY".toList ++ ' ' :: (list.toList ++ ' ' :: direction.sql.toList) := by
  simp

section

variable {list : String} (absent : ∀ kind : ClauseKind, ¬kind.keyword.toList <:+: list.toList)

include absent

/-- A grouping by a list without keywords is told to be one. -/
theorem ofText?_grouping : ClauseKind.ofText? ("GROUP BY " ++ list) = some .groupBy := by
  -- A keyword without a blank stands in one of the words or in the list.
  have noFilter : holds ("GROUP BY " ++ list) "WHERE" = false := by
    rw [← Bool.not_eq_true, holds_iff, grouping_toList, infix_append_solid_iff (by decide)]
    rintro (inside | inside)
    · exact absurd inside (by decide)
    · exact absent .filter inside
  have grouping : holds ("GROUP BY " ++ list) "GROUP BY" = true := by
    rw [holds_iff, grouping_toList]
    exact (List.prefix_append ..).isInfix
  simp [ClauseKind.ofText?, ClauseKind.keyword, noFilter, grouping]

/-- A keyword of one word stands in the words of a sorting or in its list. -/
theorem holds_sorting_eq_false (kind : ClauseKind) (direction : Direction)
    (solid : ' ' ∉ kind.keyword.toList) (before : ¬kind.keyword.toList <:+: "ORDER BY".toList)
    (behind : ¬kind.keyword.toList <:+: direction.sql.toList) :
    holds ("ORDER BY " ++ list ++ " " ++ direction.sql) kind.keyword = false := by
  rw [← Bool.not_eq_true, holds_iff, sorting_toList]
  -- It is in the words in front, in the list, or in the direction behind.
  intro within
  rcases (infix_append_solid_iff solid _ _).mp within with here | within
  · exact before here
  · rcases (infix_append_solid_iff solid _ _).mp within with here | here
    · exact absent kind here
    · exact behind here

/-- A sorting by a list without keywords is told to be one. -/
theorem ofText?_sorting (direction : Direction) :
    ClauseKind.ofText? ("ORDER BY " ++ list ++ " " ++ direction.sql) = some .orderBy := by
  have noFilter := holds_sorting_eq_false absent .filter direction (by decide) (by decide)
    (by cases direction <;> decide)
  have noHaving := holds_sorting_eq_false absent .having direction (by decide) (by decide)
    (by cases direction <;> decide)
  -- The words of GROUP BY do not meet where the parts do.
  have noGrouping : holds ("ORDER BY " ++ list ++ " " ++ direction.sql)
      ClauseKind.groupBy.keyword = false := by
    rw [← Bool.not_eq_true, holds_iff, sorting_toList]
    intro within
    have apart : ¬"BY".toList <+: direction.sql.toList ∧
        ¬"GROUP BY".toList <:+: direction.sql.toList := by
      cases direction <;> decide
    rcases (groupBy_infix_iff _ _).mp within with here | within | ⟨meets, -⟩
    · exact absurd here (by decide)
    · rcases (groupBy_infix_iff _ _).mp within with here | here | ⟨-, meets⟩
      · exact absent .groupBy here
      · exact apart.2 here
      · exact apart.1 meets
    · exact absurd meets (by decide)
  have sorting : holds ("ORDER BY " ++ list ++ " " ++ direction.sql)
      ClauseKind.orderBy.keyword = true := by
    rw [holds_iff, sorting_toList]
    exact (List.prefix_append ..).isInfix
  simp [ClauseKind.ofText?, noFilter, noGrouping, noHaving, sorting]

end

section

variable {columns : List String}

/-- A list with a column in it ends with no blank. -/
theorem endsSolid_columnList (some : ∃ column ∈ columns, isBlankText column = false) :
    EndsSolid (columnList columns) := by
  refine endsSolid_joinWith ", " ?_ fun text mem => ?_
  · obtain ⟨column, mem, full⟩ := some
    -- The column that is there is in the list, so that the list is not empty.
    have kept : trim column ≠ "" := by
      intro none
      rw [isBlankText, none] at full
      cases full
    exact List.ne_nil_of_mem (List.mem_filter.mpr
      ⟨List.mem_map.mpr ⟨column, mem, rfl⟩, by simpa using kept⟩)
  · obtain ⟨shown, kept⟩ := List.mem_filter.mp mem
    obtain ⟨column, -, rfl⟩ := List.mem_map.mp shown
    exact endsSolid_trim (by simpa using kept)

/-- A word that stands in a list with commas, without having one itself, stands in one of the
texts. -/
theorem exists_of_infix_joinWith {word : List Char} (solid : ',' ∉ word) (some : word ≠ [])
    (first : ∀ c ∈ word.head?, isBlank c = false) {texts : List String}
    (within : word <:+: (joinWith ", " texts).toList) : ∃ text ∈ texts, word <:+: text.toList := by
  induction texts with
  | nil => exact absurd (List.infix_nil.mp within) some
  | cons text texts ih =>
    cases texts with
    | nil => exact ⟨text, List.mem_cons_self .., within⟩
    | cons next texts =>
      have shape : (joinWith ", " (text :: next :: texts)).toList =
          text.toList ++ ',' :: ([' '] ++ (joinWith ", " (next :: texts)).toList) := by
        simp [joinWith]
      -- Neither the comma nor the blank behind it can be in the word or begin it.
      have space : ∀ c ∈ [' '], isBlank c = true := List.forall_mem_singleton.mpr (by decide)
      rw [shape, infix_append_solid_iff solid, infix_behind_blanks first space] at within
      rcases within with here | later
      · exact ⟨text, List.mem_cons_self .., here⟩
      · obtain ⟨own, mem, inside⟩ := ih later
        exact ⟨own, List.mem_cons_of_mem _ mem, inside⟩

/-- A keyword that no column holds is not in their list. -/
theorem not_keyword_infix_columnList (kind : ClauseKind)
    (absent : ∀ column ∈ columns, holds column kind.keyword = false) :
    ¬kind.keyword.toList <:+: (columnList columns).toList := by
  intro within
  obtain ⟨text, mem, inside⟩ := exists_of_infix_joinWith (by cases kind <;> decide)
    (by cases kind <;> decide) kind.keyword_solid.1 within
  -- What is in the list is a trimmed column, and a keyword in that is in the column.
  obtain ⟨column, given, rfl⟩ := List.mem_map.mp (List.mem_filter.mp mem).1
  have held := (keyword_infix_trim kind).mp inside
  rw [absent column given] at held
  cases held

/-- Columns of which one is there are the list that a clause requires. -/
theorem requireColumns_eq_ok (some : ∃ column ∈ columns, isBlankText column = false)
    (kind : ClauseKind) : requireColumns kind columns = .ok (columnList columns) := by
  rw [requireColumns, (endsSolid_columnList some).isEmpty_eq_false]
  rfl

variable (some : ∃ column ∈ columns, isBlankText column = false)
  (plain : ∀ column ∈ columns, ∀ kind : ClauseKind, holds column kind.keyword = false)

include some plain

/-- Columns of which one is there are grouped by, in a clause that has no blanks at its ends and is
told to group rows. -/
theorem groupBy_of_columns :
    ∃ clause, groupBy columns = .ok clause ∧ clause.kind = .groupBy ∧
      trim clause.text = clause.text ∧ ClauseKind.ofText? clause.text = .some .groupBy := by
  refine ⟨.fragment .groupBy ("GROUP BY " ++ columnList columns), ?_, rfl, ?_, ?_⟩
  · rw [groupBy, requireColumns_eq_ok some]
    rfl
  · -- It begins with a letter and ends as the list does.
    refine trim_eq_self (c := 'G') ?_ (by decide) ((endsSolid_columnList some).append _)
    rw [Clause.fragment, grouping_toList]
    rfl
  · exact ofText?_grouping fun kind =>
      not_keyword_infix_columnList kind fun column mem => plain column mem kind

/-- Columns of which one is there are sorted by, in a clause that has no blanks at its ends and is
told to sort rows. -/
theorem orderBy_of_columns (direction : Direction) :
    ∃ clause, orderBy columns direction = .ok clause ∧ clause.kind = .orderBy ∧
      trim clause.text = clause.text ∧ ClauseKind.ofText? clause.text = .some .orderBy := by
  have ends : EndsSolid direction.sql := by
    cases direction <;> exact ⟨'C', rfl, by decide⟩
  refine ⟨.fragment .orderBy ("ORDER BY " ++ columnList columns ++ " " ++ direction.sql), ?_, rfl,
    ?_, ?_⟩
  · rw [orderBy, requireColumns_eq_ok some]
    rfl
  · -- It begins with a letter and ends with the direction.
    refine trim_eq_self (c := 'O') ?_ (by decide) (ends.append _)
    rw [Clause.fragment, sorting_toList]
    rfl
  · exact ofText?_sorting (fun kind => not_keyword_infix_columnList kind fun column mem =>
      plain column mem kind) direction

end

/-- A text that holds the keyword of a kind names a clause. -/
theorem named_of_holds {text : String} (kind : ClauseKind)
    (held : holds text kind.keyword = true) : Named text := by
  rw [Named, ClauseKind.ofText?, List.find?_isSome]
  exact ⟨kind, by cases kind <;> decide, held⟩

/-- A text that names a clause and has no blanks at its ends ends with no blank. -/
theorem endsSolid_of_named {text : String} (named : Named text) (trimmed : trim text = text) :
    EndsSolid text := by
  rw [← trimmed]
  refine endsSolid_trim ?_
  rintro none
  rw [← trimmed, none] at named
  exact absurd named (by decide)

/-- Clauses of the four kinds are guarded in their order, if the HAVING clause is only among them
together with the grouping. -/
theorem guarded_of_sublist {filter grouping having ordering : Clause} {selected : List Clause}
    (filters : ClauseKind.ofText? filter.text = some .filter)
    (groups : ClauseKind.ofText? grouping.text = some .groupBy)
    (sorts : ClauseKind.ofText? ordering.text = some .orderBy)
    (within : selected.Sublist [filter, grouping, having, ordering])
    (grouped : having ∈ selected → grouping ∈ selected) : Guarded (selected.map Clause.text) := by
  intro front text back shape told
  obtain ⟨before, behind, rfl, rfl, later⟩ := List.map_eq_append_iff.mp shape
  obtain ⟨own, after, rfl, rfl, rfl⟩ := List.map_eq_cons_iff.mp later
  -- Only the HAVING clause can be told to be one.
  have mem := within.subset (List.mem_append_right before (List.mem_cons_self ..))
  obtain rfl : own = having := by
    simp only [List.mem_cons, List.not_mem_nil, or_false] at mem
    rcases mem with rfl | rfl | rfl | rfl
    · cases told.symm.trans filters
    · cases told.symm.trans groups
    · rfl
    · cases told.symm.trans sorts
  -- No grouping comes behind a clause that restricts groups, as the clauses are in their order.
  have order : [filter, grouping, own, ordering].Pairwise fun first next =>
      ClauseKind.ofText? first.text = some .having →
        ClauseKind.ofText? next.text ≠ some .groupBy := by
    simp [filters, groups, sorts]
  -- No clause behind it groups rows, so the grouping stands before it.
  have kept := (List.pairwise_cons.mp (List.pairwise_append.mp (order.sublist within)).2.1).1
  rcases List.mem_append.mp (grouped (List.mem_append_right before (List.mem_cons_self ..)))
    with first | later
  · exact ⟨_, List.mem_map_of_mem first, groups⟩
  · rcases List.mem_cons.mp later with rfl | later
    · cases told.symm.trans groups
    · exact absurd groups (kept grouping later told)

/-- Whether a clause is written from a template with numbered markers in its slots, and each of them
has its own value at its number among those pending. -/
structure Clause.Marks (clause : Clause) (template : Template) (pending : List Value) : Prop where
  text : clause.text = template.numbered clause.first
  own : ∀ (front : Template) (value : Value) (back : Template),
    template = front ++ .slot value :: back →
      let place := clause.first + front.values.length
      clause.text = front.numbered clause.first ++
          ("?" ++ toString (place + 1) ++ back.numbered (place + 1)) ∧
        pending[place]? = some value

/-- Markers are numbered by the values that were pending before, so they have theirs behind those,
whatever follows. -/
theorem Clause.marks_of_pending {clause : Clause} {template : Template} {before : List Value}
    (first : clause.first = before.length) (text : clause.text = template.numbered before.length)
    (behind : List Value) :
    clause.Marks template (before ++ template.values ++ behind) := by
  rw [← first] at text
  refine ⟨text, ?_⟩
  rintro front value back rfl
  constructor
  · rw [text, Template.numbered_append]
    rfl
  · have values : before ++ Template.values (front ++ .slot value :: back) ++ behind =
        (before ++ front.values) ++ value :: (back.values ++ behind) := by
      simp [Template.values]
    rw [values, first, ← List.length_append, List.getElem?_append_right le_rfl, Nat.sub_self]
    rfl

/-- Clauses that are let through stand behind a selection as they are, and leave what is pending. -/
theorem Statement.Selects.assemble_clauses {statement : List Condition → Statement} {head : String}
    (selects : Selects statement head) (escape : Escape) {selected : List Clause}
    (some : selected ≠ [])
    (each : ∀ clause ∈ selected, Named clause.text ∧ trim clause.text = clause.text)
    (guarded : Guarded (selected.map Clause.text)) (before : Compiler) :
    (statement (selected.map Clause.toCondition)).assemble escape before =
      (.ok (head ++ " " ++ joinWith " " (selected.map Clause.text)), before) := by
  have full : selected.map Clause.text ≠ [] := by simpa using some
  have named : ∀ text ∈ selected.map Clause.text, Named text :=
    List.forall_mem_map.mpr fun clause mem => (each clause mem).1
  have trimmed : (selected.map Clause.text).map trim = selected.map Clause.text := by
    rw [List.map_map]
    exact List.map_congr_left fun clause mem => (each clause mem).2
  -- There is text behind the head, so it comes with a space.
  have ends : EndsSolid (joinWith " " (selected.map Clause.text)) :=
    endsSolid_joinWith " " full <| List.forall_mem_map.mpr fun clause mem =>
      endsSolid_of_named (each clause mem).1 (each clause mem).2
  -- Fragments that name clauses and are guarded are passed on trimmed, which they are.
  have passed := (Assembly.run_modifiers_raw escape before full named).1 guarded
  have raw : selected.map Clause.toCondition = (selected.map Clause.text).map .raw := by
    rw [List.map_map]
    rfl
  rw [selects.assemble_eq, raw, passed, trimmed]
  simp only [withTail, ends.isEmpty_eq_false, Bool.false_eq_true, if_false]

section

variable {escape : Escape} {prepared announced : Bool} {pending : List Value} {after : Compiler}
  {comparisons : List Comparison} {clause : Clause}

/-- A clause of comparisons is written from its template, behind what was pending, and its values
are pending behind that if they are not in the text. -/
theorem written_of_compile (some : comparisons ≠ [])
    (made : (Compiler.mk prepared pending announced).compile escape
      (comparisons.map .comparison) = (.ok clause, after)) :
    let template := clauseTemplate (if announced then .having else .filter) comparisons
    clause.first = pending.length ∧
      (prepared = true → clause.text = template.numbered pending.length) ∧
      after = ⟨prepared, pending ++ if prepared then template.values else [], false⟩ := by
  -- A clause that compiles is what its template gives, and only the mode decides how.
  obtain ⟨bound, compiled, rfl, rfl⟩ := Assembly.eq_of_compile made
  obtain ⟨-, rfl⟩ := (compileClause_eq_ok_iff _ _ some).mp compiled
  refine ⟨rfl, ?_, ?_⟩
  · rintro rfl
    rfl
  · cases prepared <;> rfl

/-- A HAVING clause of comparisons names a clause, and has no blanks at its ends. -/
theorem named_of_compileHaving (some : comparisons ≠ [])
    (made : (Compiler.mk prepared pending announced).compileHaving escape
      (comparisons.map .comparison) = (.ok clause, after)) :
    Named clause.text ∧ trim clause.text = clause.text := by
  obtain ⟨bound, compiled, text, -⟩ := Assembly.exists_of_compile made
  obtain ⟨begins, trimmed⟩ := begins_of_compileClause some compiled
  rw [text]
  exact ⟨named_of_holds .having ((holds_iff _ _).mpr begins.isInfix), trimmed⟩

end

/-- A filter, a grouping, a HAVING clause and a sorting that are compiled one after another can be
passed on to a selection in any choice of them, as long as they are in this order and the HAVING
clause comes with the grouping. They stand behind its head as they are, with spaces between them,
and leave what is pending; no column may hold a keyword for this, but a value may. Values that are
not in the text are pending behind those that were before, and each marker stands for its own. -/
theorem Statement.Selects.assemble_composed {statement : List Condition → Statement}
    {head : String} (selects : Selects statement head) {escape : Escape} {prepared : Bool}
    {pending : List Value} {middle last : Compiler} {filters havings : List Comparison}
    {filter having : Clause} {groups orders : List String} (direction : Direction)
    (someFilters : filters ≠ []) (someHavings : havings ≠ [])
    (filtered : (Compiler.mk prepared pending false).compile escape (filters.map .comparison) =
      (.ok filter, middle))
    (restricted : middle.compileHaving escape (havings.map .comparison) = (.ok having, last))
    (grouped : ∃ column ∈ groups, isBlankText column = false)
    (sorted : ∃ column ∈ orders, isBlankText column = false)
    (plain : ∀ column ∈ groups ++ orders, ∀ kind : ClauseKind,
      holds column kind.keyword = false) :
    ∃ grouping ordering, groupBy groups = .ok grouping ∧ orderBy orders direction = .ok ordering ∧
      (∀ clauses, clauses ≠ [] → clauses.Sublist [filter, grouping, having, ordering] →
        (having ∈ clauses → grouping ∈ clauses) →
        (statement (clauses.map Clause.toCondition)).assemble escape last =
          (.ok (head ++ " " ++ joinWith " " (clauses.map Clause.text)), last)) ∧
      let values := filters.flatMap Comparison.bound ++ havings.flatMap Comparison.bound
      last = ⟨prepared, pending ++ if prepared then values else [], false⟩ ∧
      (prepared = true → filter.Marks (clauseTemplate .filter filters) last.pending ∧
        having.Marks (clauseTemplate .having havings) last.pending) := by
  obtain ⟨grouping, made, -, trimmedGrouping, groups⟩ :=
    groupBy_of_columns grouped fun column mem => plain column (List.mem_append_left _ mem)
  obtain ⟨ordering, made', -, trimmedOrdering, sorts⟩ :=
    orderBy_of_columns sorted (fun column mem => plain column (List.mem_append_right _ mem))
      direction
  -- The filter is told by its first word, whatever its values hold.
  obtain ⟨told, trimmedFilter⟩ := filter_of_compile someFilters filtered
  obtain ⟨first, text, rfl⟩ := written_of_compile someFilters filtered
  obtain ⟨named, trimmedHaving⟩ := named_of_compileHaving someHavings restricted
  obtain ⟨first', text', rfl⟩ := written_of_compile someHavings restricted
  refine ⟨grouping, ordering, made, made', fun clauses some within together => ?_, ?_, ?_⟩
  · refine selects.assemble_clauses escape some (fun clause mem => ?_)
      (guarded_of_sublist told groups sorts within together) _
    -- Every clause is known by its keyword, so that all are let through.
    have named_of_told : ∀ {clause : Clause} {kind : ClauseKind},
        ClauseKind.ofText? clause.text = .some kind → Named clause.text :=
      fun told => named_of_holds _ (holds_of_ofText? told)
    have one := within.subset mem
    simp only [List.mem_cons, List.not_mem_nil, or_false] at one
    rcases one with rfl | rfl | rfl | rfl
    · exact ⟨named_of_told told, trimmedFilter⟩
    · exact ⟨named_of_told groups, trimmedGrouping⟩
    · exact ⟨named, trimmedHaving⟩
    · exact ⟨named_of_told sorts, trimmedOrdering⟩
  · cases prepared <;> simp [values_clauseTemplate]
  · rintro rfl
    constructor
    · -- The values of the HAVING clause come behind those of the filter.
      exact Clause.marks_of_pending first (text rfl) _
    · have last := Clause.marks_of_pending first' (text' rfl) []
      rw [List.append_nil] at last
      exact last

/-- Grown people are counted by city while one value is pending; the one that is compared with the
count holds a keyword. -/
theorem Statement.Selects.assemble_composed_by_city :
    let age : Comparison := ⟨"age", some ">=", .single (.int 18), none, none⟩
    let count : Comparison := ⟨"count(*)", some ">", .single (.text "WHERE"), none, none⟩
    let filter : Clause := ⟨.filter, "WHERE age >= ?2", 1, 1⟩
    let having : Clause := ⟨.having, "HAVING count(*) > ?3", 2, 1⟩
    let grouping : Clause := .fragment .groupBy "GROUP BY city"
    let ordering : Clause := .fragment .orderBy "ORDER BY city DESC"
    let middle : Compiler := ⟨true, [.int 7, .int 18], false⟩
    let last : Compiler := ⟨true, [.int 7, .int 18, .text "WHERE"], false⟩
    (Compiler.mk true [.int 7] false).compile doubleQuotes ([age].map .comparison) =
        (.ok filter, middle) ∧
      middle.compileHaving doubleQuotes ([count].map .comparison) = (.ok having, last) ∧
      groupBy [" city "] = .ok grouping ∧ orderBy ["city"] .descending = .ok ordering ∧
      (Statement.select "t" [] ([filter, grouping, having, ordering].map
          Clause.toCondition)).assemble doubleQuotes last = (.ok
        "SELECT * FROM t WHERE age >= ?2 GROUP BY city HAVING count(*) > ?3 ORDER BY city DESC",
          last) ∧
      having.Marks (clauseTemplate .having [count]) last.pending := by
  intro age count filter having grouping ordering middle last
  have validAge : age.Valid :=
    ⟨by decide, ⟨">=", rfl, by decide⟩, .greaterOrEqual, by decide, .int 18, rfl⟩
  have validCount : count.Valid :=
    ⟨by decide, ⟨">", rfl, by decide⟩, .greater, by decide, .text "WHERE", rfl⟩
  -- The filter counts on from the value that is pending.
  have filtered : (Compiler.mk true [.int 7] false).compile doubleQuotes
      ([age].map .comparison) = (.ok filter, middle) := by
    have text : ((clauseTemplate .filter [age]).write ⟨true, doubleQuotes⟩ 1).text =
        "WHERE age >= ?2" := by decide
    rw [Compiler.compile_of_valid (List.cons_ne_nil age [])
      (List.forall_mem_singleton.mpr validAge)]
    simp only [Compiler.binding, Bool.false_eq_true, if_false, List.length_singleton, text]
    rfl
  -- The HAVING clause counts on from the filter.
  have restricted : middle.compileHaving doubleQuotes ([count].map .comparison) =
      (.ok having, last) := by
    have text : ((clauseTemplate .having [count]).write ⟨true, doubleQuotes⟩ 2).text =
        "HAVING count(*) > ?3" := by decide
    rw [Compiler.compileHaving, Compiler.compile_of_valid (List.cons_ne_nil count [])
      (List.forall_mem_singleton.mpr validCount)]
    simp only [Compiler.binding, if_true, middle, List.length_cons, List.length_nil, text]
    rfl
  have grouped : groupBy [" city "] = .ok grouping := by rfl
  have sorted : orderBy ["city"] .descending = .ok ordering := by rfl
  have plain : ∀ column ∈ [" city "] ++ ["city"], ∀ kind : ClauseKind,
      holds column kind.keyword = false := by
    rintro column mem kind
    rcases List.mem_pair.mp mem with rfl | rfl <;> cases kind <;> decide
  have selects : Statement.Selects (.select "t" []) "SELECT * FROM t" := .select (by decide)
  obtain ⟨_, _, made, made', selected, -, marks⟩ :=
    selects.assemble_composed .descending (List.cons_ne_nil age []) (List.cons_ne_nil count [])
      filtered restricted ⟨" city ", by decide, by decide⟩ ⟨"city", by decide, by decide⟩ plain
  obtain rfl := Except.ok.inj (made.symm.trans grouped)
  obtain rfl := Except.ok.inj (made'.symm.trans sorted)
  have whole := selected [filter, grouping, having, ordering] (List.cons_ne_nil _ _)
    (List.Sublist.refl _) fun _ => by simp
  exact ⟨filtered, restricted, grouped, sorted, whole, (marks rfl).2⟩

end Querent
