import Querent.Proofs.Statement.Calls

/-! A compiled clause that is passed on to a statement stands for the conditions it was made of,
unless it was made of none. -/

namespace Querent

/-- Whether a text ends with a character that is no blank. -/
def EndsSolid (text : String) : Prop :=
  ∃ c ∈ text.toList.getLast?, isBlank c = false

/-- What ends a text decides how the whole text ends. -/
theorem EndsSolid.append {back : String} (solid : EndsSolid back) (front : String) :
    EndsSolid (front ++ back) := by
  obtain ⟨c, last, full⟩ := solid
  refine ⟨c, ?_, full⟩
  -- The last character of the back is the last one of the whole.
  rw [String.toList_append]
  exact List.mem_getLast?_append_of_mem_getLast? last

/-- A text is as it is trimmed if it begins and ends with characters that are no blanks. -/
theorem trim_eq_self {text : String} {c : Char} (first : text.toList.head? = some c)
    (full : isBlank c = false) (solid : EndsSolid text) : trim text = text := by
  have whole : trimEnds text.toList = text.toList := by
    apply (trimEnds_eq_self_iff _).mpr
    obtain ⟨d, last, full'⟩ := solid
    rw [List.head?_map, first, List.getLast?_map, Option.mem_def.mp last]
    simp [full, full']
  rw [trim, whole, String.ofList_toList]

/-- A number ends with a digit. -/
theorem endsSolid_number (number : Nat) : EndsSolid (toString number) := by
  have digits : (toString number).toList = Nat.toDigits 10 number := Nat.toList_repr
  have some : Nat.toDigits 10 number ≠ [] := Nat.toDigits_ne_nil
  refine ⟨(Nat.toDigits 10 number).getLast some, ?_, ?_⟩
  · rw [digits]
    exact List.getLast?_eq_some_getLast some
  · have digit : ((Nat.toDigits 10 number).getLast some).isDigit = true :=
      Nat.isDigit_of_mem_toDigits (by decide) le_rfl (List.getLast_mem some)
    exact isBlank_of_isDigit digit

/-- A value ends with its number as a placeholder, and with a quote as a literal. -/
theorem endsSolid_bind (binding : Binding) (pending : Nat) (value : Value) :
    EndsSolid (binding.bind pending value).text := by
  unfold Binding.bind
  -- A marker ends with its number, and a literal with its quote.
  split
  · exact (endsSolid_number (pending + 1)).append "?"
  · have quote : EndsSolid "'" := ⟨'\'', rfl, by decide⟩
    exact quote.append _

/-- Whether the last part of a template is a slot, or text that ends with no blank. -/
inductive Template.Ends : Template → Prop
  | slot (front : Template) (value : Value) : Ends (front ++ [.slot value])
  | fixed (front : Template) {text : String} (solid : EndsSolid text) :
    Ends (front ++ [.fixed text])

namespace Template

/-- What ends a template decides how the whole template ends. -/
theorem Ends.append {back : Template} (ends : back.Ends) (front : Template) :
    Ends (front ++ back) := by
  cases ends with
  | slot between value =>
    rw [← List.append_assoc]
    exact .slot (front ++ between) value
  | fixed between solid =>
    rw [← List.append_assoc]
    exact .fixed (front ++ between) solid

/-- A template is written with the end of its last part. -/
theorem Ends.write {template : Template} (ends : template.Ends) (binding : Binding)
    (pending : Nat) : EndsSolid (template.write binding pending).text := by
  cases ends with
  | slot front value =>
    rw [write_append, write_slot]
    exact (endsSolid_bind binding _ value).append _
  | fixed front solid =>
    rw [write_append, write_fixed]
    exact solid.append _

/-- Slots end with the last of them. -/
theorem ends_slots (separator : String) {values : List Value} (some : values ≠ []) :
    (slots separator values).Ends := by
  induction values with
  | nil => exact absurd rfl some
  | cons value values ih =>
    -- Behind the first slot there is a separator and the others, or nothing.
    cases values with
    | nil => exact .slot [] value
    | cons next values =>
      have others := ih (List.cons_ne_nil next values)
      exact (others.append [.fixed separator]).append [.slot value]

end Template

namespace Comparison

variable {terms : Comparison}

/-- A valid comparison ends with a value, with a parenthesis or with the word for null. -/
theorem Valid.ends (valid : terms.Valid) : terms.template.Ends := by
  have word : ∀ {word : String}, EndsSolid word → Template.Ends [.fixed (trim terms.key ++ word)] :=
    fun solid => .fixed [] (solid.append _)
  obtain ⟨-, -, operator, named, fits⟩ := valid
  rw [template, named, Option.map_some, Option.getD_some]
  cases operator <;> simp only [templateFor]
  case between | notBetween =>
    -- The two bounds are there, and the upper one is written last.
    obtain ⟨low, high, single, upper⟩ := fits
    have some : terms.operand.values ++ terms.combiner.toList ≠ [] := by
      rw [single, upper]
      exact List.cons_ne_nil low [high]
    exact (Template.ends_slots " AND " some).append [_]
  case isIn =>
    exact .fixed (_ :: Template.slots ", " _) ⟨')', rfl, by decide⟩
  case isNot => exact word ⟨'L', rfl, by decide⟩
  all_goals
    split
    · exact word ⟨'L', rfl, by decide⟩
    · next some =>
      -- The last of the values that are bound is written last.
      have bound := List.isEmpty_eq_false_iff.mp (Bool.eq_false_iff.mpr some)
      obtain ⟨front, last, shape⟩ := (List.eq_nil_or_concat' _).resolve_left bound
      rw [shape, List.map_append]
      exact .slot (_ :: front.map .slot) last

/-- Valid comparisons in turn end as the last of them does. -/
theorem ends_template {comparisons : List Comparison} (some : comparisons ≠ [])
    (valid : ∀ terms ∈ comparisons, terms.Valid) : (comparisonsTemplate comparisons).Ends := by
  induction comparisons with
  | nil => exact absurd rfl some
  | cons terms others ih =>
    obtain ⟨first, behind⟩ := List.forall_mem_cons.mp valid
    -- The last comparison decides.
    cases others with
    | nil => exact first.ends.append [.fixed " "]
    | cons next others =>
      have rest := ih (List.cons_ne_nil next others) behind
      rw [comparisonsTemplate_cons]
      exact (rest.append [_]).append (.fixed " " :: terms.template)

end Comparison

/-- A run of characters occurs at the front of what it begins. -/
theorem occursIn_append (run rest : List Char) : occursIn run (run ++ rest) = true := by
  have begins : run.isPrefixOf (run ++ rest) = true := by simp
  cases whole : run ++ rest with
  | nil => rw [(List.append_eq_nil_iff.mp whole).1, occursIn, List.isEmpty_nil]
  | cons c others =>
    rw [whole] at begins
    rw [occursIn, begins, Bool.true_or]

section

variable {binding : Binding} {pending : Nat} {comparisons : List Comparison} {bound : Bound}

/-- A clause that is made of comparisons begins with its keyword, and has no blanks at its ends. -/
theorem begins_of_compileClause {kind : ClauseKind} (some : comparisons ≠ [])
    (compiled : compileClause binding pending kind (comparisons.map .comparison) = .ok bound) :
    kind.keyword.toList <+: bound.text.toList ∧ trim bound.text = bound.text := by
  obtain ⟨valid, rfl⟩ := (compileClause_eq_ok_iff pending kind some).mp compiled
  have ends := ((Comparison.ends_template some valid).append
    [.fixed kind.keyword]).write binding pending
  have text : ((clauseTemplate kind comparisons).write binding pending).text =
      kind.keyword ++ ((comparisonsTemplate comparisons).write binding pending).text := by
    rw [clauseTemplate, Template.write_fixed_cons]
  constructor
  · rw [text, String.toList_append]
    exact List.prefix_append ..
  · -- A keyword begins with a letter, which is no blank.
    have first : ∃ c, kind.keyword.toList.head? = .some c ∧ isBlank c = false := by
      cases kind <;> exact ⟨_, rfl, by decide⟩
    obtain ⟨c, head, solid⟩ := first
    refine trim_eq_self (c := c) ?_ solid ends
    rw [text, String.toList_append, List.head?_append, head, Option.some_or]

/-- A filter that is made of comparisons is told by its keyword, and has no blanks at its ends. -/
theorem filter_of_compileClause (some : comparisons ≠ [])
    (compiled : compileClause binding pending .filter (comparisons.map .comparison) = .ok bound) :
    ClauseKind.ofText? bound.text = .some .filter ∧ trim bound.text = bound.text := by
  obtain ⟨⟨rest, shape⟩, trimmed⟩ := begins_of_compileClause some compiled
  refine ⟨?_, trimmed⟩
  -- The word for a filter is looked for before all others.
  have found : holds bound.text ClauseKind.filter.keyword = true := by
    rw [holds, ← shape]
    exact occursIn_append _ _
  rw [ClauseKind.ofText?]
  exact List.find?_cons_of_pos found

end

namespace Assembly

variable {escape : Escape} {before after : Compiler} {comparisons : List Comparison}
  {clause : Clause} {ending : List Condition → Assembly String}

/-- What the conditions of a statement run to is what they compile to. -/
theorem run_conditions (args : List Condition) :
    (conditions escape args).run.run before =
      ((before.compile escape args).1.map Clause.text, (before.compile escape args).2) := by
  unfold conditions
  simp only [ExceptT.run_mk, StateT.run]
  split <;> next compiled => rw [compiled]; rfl

/-- Conditions that are no written clauses are compiled at the end of a selection, too. -/
theorem modifiers_of_unwritten {args : List Condition}
    (unwritten : args.any (·.fragment?.isSome) = false) :
    modifiers escape args = conditions escape args := by
  rw [modifiers, unwritten]
  rfl

/-- A statement with a table and an ending fails without the table, and else as the ending does. -/
theorem run_ended (table : String) (head : String → String) (ending : Assembly String) :
    (requireTable table >>= fun table => ending >>= fun text =>
        pure (withTail (head table) text)).run.run before =
      if isBlankText table then (.error .missingTable, before)
      else ((ending.run.run before).1.map (withTail (head (trim table))),
        (ending.run.run before).2) := by
  have required : (requireTable table).run.run before =
      (if isBlankText table then .error .missingTable else .ok (trim table), before) := by
    unfold requireTable
    split <;> rfl
  rw [run_bind, required]
  by_cases blank : isBlankText table = true
  · rw [if_pos blank, if_pos blank]
  · -- The table is there, and the ending runs next.
    rw [if_neg blank, if_neg blank]
    dsimp only
    rw [run_bind]
    rcases ending.run.run before with ⟨fault | text, after⟩ <;> rfl

/-- A selection and a deletion have a table and an ending, which is made of their conditions. -/
theorem exists_ending (escape : Escape) {table : String} {columns : List String}
    {statement : List Condition → Statement}
    (which : statement ∈ [Statement.select table columns, Statement.delete table]) :
    ∃ (head : String → String) (ending : List Condition → Assembly String),
      (ending = modifiers escape ∨ ending = conditions escape) ∧
        ∀ args, build escape (statement args) = requireTable table >>= fun table =>
          ending args >>= fun text => pure (withTail (head table) text) := by
  rcases List.mem_pair.mp which with rfl | rfl
  · exact ⟨fun table => "SELECT " ++ selectList columns ++ " FROM " ++ table, _, .inl rfl,
      fun _ => rfl⟩
  · exact ⟨fun table => "DELETE FROM " ++ table, _, .inr rfl, fun _ => rfl⟩

/-- An ending of comparisons is the clause that they compile to. -/
theorem run_ending (which : ending = modifiers escape ∨ ending = conditions escape)
    (made : before.compile escape (comparisons.map .comparison) = (.ok clause, after)) :
    (ending (comparisons.map .comparison)).run.run before = (.ok clause.text, after) := by
  -- No comparison is a written clause, so both endings compile them.
  have unwritten : (comparisons.map Condition.comparison).any (·.fragment?.isSome) = false := by
    simp [Condition.fragment?]
  have compiled : (conditions escape (comparisons.map .comparison)).run.run before =
      (.ok clause.text, after) := by
    rw [run_conditions, made]
    rfl
  rcases which with rfl | rfl
  · rw [modifiers_of_unwritten unwritten, compiled]
  · exact compiled

/-- A filter that is passed on is an ending as it is, and adds nothing to what is pending. -/
theorem run_ending_of_filter (which : ending = modifiers escape ∨ ending = conditions escape)
    (unannounced : before.havingNext = false) {text : String}
    (filter : ClauseKind.ofText? text = some .filter) (trimmed : trim text = text) :
    (ending [.raw text]).run.run before = (.ok text, before) := by
  obtain ⟨prepared, pending, _⟩ := before
  subst unannounced
  rcases which with rfl | rfl
  · -- The end of a selection passes it on trimmed.
    have written : [Condition.raw text].any (·.fragment?.isSome) = true := by
      simp [Condition.fragment?, filter]
    have passed : fragments false [.raw text] = .ok [text] := by
      simp [fragments, filter, trimmed, Except.map]
    rw [modifiers, written, passed]
    rfl
  · -- A deletion compiles it, which leaves its text as it is.
    have compiled : (Compiler.mk prepared pending false).compile escape [.raw text] =
        (.ok ⟨.filter, text, pending.length, 0⟩, ⟨prepared, pending, false⟩) := by
      simp [Compiler.compile, compileClause, filter, Compiler.push]
    rw [run_conditions, compiled]
    rfl

/-- An empty text is refused as a clause, and nothing is pending any more. -/
theorem run_ending_of_empty (which : ending = modifiers escape ∨ ending = conditions escape) :
    (ending [.raw ""]).run.run before =
      (.error (.notLoneFragment ""), .fresh before.prepared) := by
  have none : ClauseKind.ofText? "" = none := by decide
  -- An empty text names no clause, and stands for no condition either.
  have compiled : (conditions escape [.raw ""]).run.run before =
      (.error (.notLoneFragment ""), .fresh before.prepared) := by
    rw [run_conditions]
    simp [Compiler.compile, compileClause, none, Compiler.clear, Compiler.fresh, Except.map]
  have unwritten : [Condition.raw ""].any (·.fragment?.isSome) = false := by
    simp [Condition.fragment?, none]
  rcases which with rfl | rfl
  · rw [modifiers_of_unwritten unwritten, compiled]
  · exact compiled

end Assembly

variable {escape : Escape}

/-- What is assembled from a statement with a table and an ending. -/
theorem Statement.assemble_ended {statement : Statement} {table : String} {head : String → String}
    {ending : Assembly String}
    (built : Assembly.build escape statement = Assembly.requireTable table >>= fun table =>
      ending >>= fun text => pure (withTail (head table) text)) (before : Compiler) :
    statement.assemble escape before =
      if isBlankText table then (.error .missingTable, before.clear)
      else match ending.run.run before with
        | (.ok text, after) => (.ok (withTail (head (trim table)) text), after)
        | (.error fault, after) => (.error fault, after.clear) := by
  rw [assemble, built, Assembly.run_ended]
  -- To assemble is to run and to clear where that fails.
  by_cases blank : isBlankText table = true
  · rw [if_pos blank, if_pos blank]
  · rw [if_neg blank, if_neg blank]
    rcases ending.run.run before with ⟨fault | text, after⟩ <;> rfl

variable {prepared : Bool} {pending : List Value} {comparisons : List Comparison}
  {clause : Clause} {after : Compiler}

/-- A clause of comparisons is a filter, which is passed on as it is. -/
theorem filter_of_compile (some : comparisons ≠ [])
    (made : (Compiler.mk prepared pending false).compile escape (comparisons.map .comparison) =
      (.ok clause, after)) :
    ClauseKind.ofText? clause.text = .some .filter ∧ trim clause.text = clause.text := by
  obtain ⟨bound, compiled, text, -⟩ := Assembly.exists_of_compile made
  rw [text]
  exact filter_of_compileClause some compiled

/-- Comparisons that compile to a clause are as good for a selection or a deletion as the clause
itself, with the same values pending behind it, exactly if there is a comparison or the table is
missing. The clause of no comparisons is refused where having no conditions is not, and what was
pending is lost. -/
theorem assemble_toCondition_eq_iff
    (made : (Compiler.mk prepared pending false).compile escape (comparisons.map .comparison) =
      (.ok clause, after)) (table : String) (columns : List String) :
    ∀ statement ∈ [Statement.select table columns, Statement.delete table],
      let passed := (statement [clause.toCondition]).assemble escape after
      let direct := (statement (comparisons.map .comparison)).assemble escape
        (Compiler.mk prepared pending false)
      (passed = direct ↔ comparisons ≠ [] ∨ isBlankText table = true) ∧
        (comparisons = [] → isBlankText table = false →
          passed = (.error (.notLoneFragment ""), .fresh prepared) ∧
            ∃ sql, direct = (.ok sql, Compiler.mk prepared pending false)) := by
  intro statement which
  obtain ⟨head, ending, either, built⟩ := Assembly.exists_ending escape which
  have left := (Compiler.compile_made _ _ _ made).2
  have directly := Assembly.run_ending either made
  dsimp only
  rw [Statement.assemble_ended (built _), Statement.assemble_ended (built _), directly]
  cases blank : isBlankText table with
  | true =>
    -- Both ways fail at the table, with nothing pending.
    rw [if_pos rfl, if_pos rfl, left]
    exact ⟨iff_of_true rfl (.inr rfl), fun _ full => nomatch full⟩
  | false =>
    rw [if_neg Bool.false_ne_true, if_neg Bool.false_ne_true, Clause.toCondition]
    by_cases some : comparisons = []
    · -- The clause of no comparisons is an empty text.
      subst some
      obtain ⟨bound, compiled, text, kept⟩ := Assembly.exists_of_compile made
      obtain rfl := Except.ok.inj compiled
      rw [kept, List.append_nil] at left
      rw [text, left, Assembly.run_ending_of_empty either]
      refine ⟨iff_of_false ?_ (by simp), fun _ _ => ⟨rfl, _, rfl⟩⟩
      intro same
      cases congrArg Prod.fst same
    · -- The clause of some comparisons is passed on, and adds nothing to what is pending.
      obtain ⟨filter, trimmed⟩ := filter_of_compile some made
      have unannounced : after.havingNext = false := by rw [left]
      have passed := Assembly.run_ending_of_filter either unannounced filter trimmed
      rw [passed]
      exact ⟨iff_of_true rfl (.inl some), fun none => absurd none some⟩

/-- One value is pending, and a comparison that binds another one is compiled and passed on. -/
theorem assemble_toCondition_age :
    let age : Comparison := ⟨"age", some ">=", .single (.int 18), none, none⟩
    let clause : Clause := ⟨.filter, "WHERE age >= ?2", 1, 1⟩
    let before := Compiler.mk true [.int 7] false
    let after := Compiler.mk true [.int 7, .int 18] false
    before.compile doubleQuotes ([age].map .comparison) = (.ok clause, after) ∧
      (Statement.select "t" [] [clause.toCondition]).assemble doubleQuotes after =
        (Statement.select "t" [] [.comparison age]).assemble doubleQuotes before := by
  intro age clause before after
  have valid : age.Valid :=
    ⟨by decide, ⟨">=", rfl, by decide⟩, .greaterOrEqual, by decide, .int 18, rfl⟩
  have text : ((clauseTemplate .filter [age]).write ⟨true, doubleQuotes⟩ 1).text =
      "WHERE age >= ?2" := by decide
  have values : ((clauseTemplate .filter [age]).write ⟨true, doubleQuotes⟩ 1).values =
      [.int 18] := rfl
  have compiled : compileClause ⟨true, doubleQuotes⟩ 1 .filter ([age].map .comparison) =
      .ok ((clauseTemplate .filter [age]).write ⟨true, doubleQuotes⟩ 1) :=
    (compileClause_eq_ok_iff 1 .filter (List.cons_ne_nil age [])).mpr
      ⟨List.forall_mem_singleton.mpr valid, rfl⟩
  have made : before.compile doubleQuotes ([age].map .comparison) = (.ok clause, after) := by
    unfold Compiler.compile
    simp only [Compiler.binding, before, Bool.false_eq_true, if_false, List.length_singleton,
      compiled, text, values]
    rfl
  have same := assemble_toCondition_eq_iff made "t" []
    (Statement.select "t" []) (List.mem_cons_self ..)
  exact ⟨made, same.1.mpr (.inl (List.cons_ne_nil age []))⟩

/-- While one value is pending, the clause of no conditions is passed on to a selection and to a
deletion. Both refuse it, and the value is lost; without the clause neither does. -/
theorem assemble_toCondition_ne_of_empty :
    let before := Compiler.mk true [.int 7] false
    let clause : Clause := ⟨.filter, "", 1, 0⟩
    before.compile doubleQuotes [] = (.ok clause, before) ∧
      ∀ statement ∈ [Statement.select "t" [], Statement.delete "t"],
        (statement [clause.toCondition]).assemble doubleQuotes before =
            (.error (.notLoneFragment ""), .fresh true) ∧
          ∃ sql, (statement []).assemble doubleQuotes before = (.ok sql, before) := by
  refine ⟨rfl, ?_⟩
  simp only [List.forall_mem_cons, List.not_mem_nil, false_imp_iff, implies_true, and_true]
  exact ⟨⟨rfl, _, rfl⟩, rfl, _, rfl⟩

end Querent
