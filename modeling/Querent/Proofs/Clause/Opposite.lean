import Querent.Proofs.Statement.Template

/-! Conditions that are meant to say the opposite of each other compile to different texts, unless
they compare with null. -/

namespace Querent

/-- Two conditions on a key of which each is meant to say what the other denies, with the operand
that they compare the key with; tests for null and ranges have no such operand. -/
inductive Opposite (key : String) : Option Operand → Condition → Condition → Prop
  | equal (operand : Operand) : Opposite key (some operand) (.eq key operand) (.neq key operand)
  | lessOrGreater (operand : Operand) :
    Opposite key (some operand) (.eq key operand) (.ne key operand)
  | pattern (operand : Operand) :
    Opposite key (some operand) (.like key operand) (.notLike key operand)
  | less (operand : Operand) : Opposite key (some operand) (.lt key operand) (.gte key operand)
  | greater (operand : Operand) : Opposite key (some operand) (.gt key operand) (.lte key operand)
  | null : Opposite key none (.isNull key) (.isNotNull key)
  | range (low high : Value) :
    Opposite key none (.between key low high) (.notBetween key low high)

namespace Comparison

variable {terms : Comparison} {operator : Operator}

/-- What is written behind the key: the test for null, or the operator and what stands behind it. -/
theorem text_of_single (binding : Binding) (pending : Nat) (named : terms.operator? = some operator)
    (compares : operator.comparesValue = true) {value : Value}
    (operand : terms.operand = .single value) :
    (terms.template.write binding pending).text = trim terms.key ++ " " ++
      if value.isNullToken then "IS NULL"
      else operator.sql ++ " " ++ (binding.bind pending value).text := by
  -- Null is written as a test whatever the operator; any other value has the slot behind the
  -- operator.
  by_cases null : value.isNullToken = true
  · rw [template_of_null named compares operand null, Template.write_fixed, if_pos null]
    simp [String.append_assoc]
  · obtain ⟨single, choice, test, test'⟩ := Operator.takes_of_comparesValue compares
    rw [template, named, Option.map_some, Option.getD_some,
      templateFor_of_some operand single choice (by simp [null, test, test']),
      Template.write_fixed_cons, Template.write_slot, if_neg null]
    simp [String.append_assoc]

/-- What is written behind the key of a range: the operator and the bounds. -/
theorem text_of_range (binding : Binding) (pending : Nat) (named : terms.operator? = some operator)
    (range : operator.isRange = true) :
    (terms.template.write binding pending).text = trim terms.key ++ " " ++ operator.sql ++ (" " ++
      ((Template.slots " AND " (terms.operand.values ++ terms.combiner.toList)).write binding
        pending).text) := by
  rw [template, named, Option.map_some, Option.getD_some, templateFor_of_range range,
    Template.write_fixed_cons]
  simp only [String.append_assoc]

/-- What is written behind the key of a test for null. -/
theorem text_of_test (binding : Binding) (pending : Nat) (named : terms.operator? = some operator)
    (test : operator = .is ∨ operator = .isNot) {value : Value}
    (operand : terms.operand = .single value) :
    (terms.template.write binding pending).text =
      trim terms.key ++ " " ++ operator.sql ++ " NULL" := by
  rw [template, named, Option.map_some, Option.getD_some]
  -- The two operators differ in their words alone.
  rcases test with rfl | rfl
  · rw [templateFor_of_null operand rfl (by decide) (.inr (.inl rfl)), Template.write_fixed]
    rfl
  · rw [templateFor_of_null operand rfl (by decide) (.inr (.inr rfl)), Template.write_fixed]
    rfl

/-- A valid comparison with a value has a single one. -/
theorem Valid.exists_single (valid : terms.Valid) (named : terms.operator? = some operator)
    (compares : operator.comparesValue = true) : ∃ value, terms.operand = .single value := by
  obtain ⟨-, -, found, named', fits⟩ := valid
  obtain rfl := Option.some.inj (named.symm.trans named')
  -- What fits an operator is said case by case: only lists and ranges take more than one value.
  cases operator
  case isIn | between | notBetween => cases compares
  case like | notLike =>
    obtain ⟨value, operand, -⟩ := fits
    exact ⟨value, operand⟩
  all_goals exact fits

/-- Comparisons of a key with an operand by different operators are written alike exactly if the
operand is null. -/
theorem text_eq_iff_null {key : String} {operand : Operand} {operator other : Operator}
    (different : operator ≠ other) (compares : operator.comparesValue = true)
    (compares' : other.comparesValue = true)
    (valid : Valid ⟨key, some operator.sql, operand, none, none⟩) (binding : Binding)
    (pending : Nat) :
    ((template ⟨key, some operator.sql, operand, none, none⟩).write binding pending).text =
        ((template ⟨key, some other.sql, operand, none, none⟩).write binding pending).text ↔
      ∃ value, operand = .single value ∧ value.isNullToken = true := by
  -- The operand fits the first operator, and with that it is a single value for both.
  obtain ⟨value, rfl⟩ := valid.exists_single (operator?_of_sql rfl) compares
  rw [text_of_single binding pending (operator?_of_sql rfl) compares rfl,
    text_of_single binding pending (operator?_of_sql rfl) compares' rfl]
  by_cases null : value.isNullToken = true
  · simp only [null, if_true, true_iff]
    exact ⟨value, rfl, null⟩
  · -- Key and value are the same, and the operators are not.
    have apart : operator.sql ≠ other.sql := fun same =>
      different (Operator.sql_injective same)
    simp only [null, if_neg, Bool.false_eq_true, not_false_eq_true, String.append_right_inj,
      String.append_left_inj, apart, false_iff]
    rintro ⟨value', same, null'⟩
    obtain rfl := Operand.single.inj same
    exact null null'

end Comparison

section

variable {compiler after after' : Compiler} {escape : Escape} {clause clause' : Clause}

/-- A comparison alone is a valid one, which is written behind the keyword of its clause. -/
theorem written_of_compile_lone {terms : Comparison}
    (made : compiler.compile escape [.comparison terms] = (.ok clause, after)) :
    terms.Valid ∧ clause.kind = Assembly.nextKind compiler ∧
      clause.text = clause.kind.keyword ++ " " ++
        (terms.template.write (compiler.binding escape) compiler.pending.length).text := by
  -- A clause of one condition has no connective, so its text is the keyword and the comparison.
  obtain ⟨bound, compiled, rfl, -⟩ := Assembly.eq_of_compile made
  obtain ⟨valid, rfl⟩ := (compileClause_eq_ok_iff _ _ (List.cons_ne_nil terms [])).mp compiled
  exact ⟨valid terms (List.mem_singleton_self terms), rfl,
    by rw [write_clauseTemplate_lone]⟩

/-- Comparisons that are written alike but for different operators are clauses with different
texts. -/
theorem text_ne_of_operators {terms terms' : Comparison} {operator other : Operator}
    {front back : String} (different : operator ≠ other)
    (made : compiler.compile escape [.comparison terms] = (.ok clause, after))
    (made' : compiler.compile escape [.comparison terms'] = (.ok clause', after'))
    (written : (terms.template.write (compiler.binding escape) compiler.pending.length).text =
      front ++ operator.sql ++ back)
    (written' : (terms'.template.write (compiler.binding escape) compiler.pending.length).text =
      front ++ other.sql ++ back) : clause.text ≠ clause'.text := by
  -- Keyword, front and back are the same on both sides, and so cancel.
  obtain ⟨-, kind, text⟩ := written_of_compile_lone made
  obtain ⟨-, kind', text'⟩ := written_of_compile_lone made'
  rw [text, text', kind, kind', written, written']
  simpa only [ne_eq, String.append_right_inj, String.append_left_inj] using
    Operator.sql_injective.ne different

/-- Two conditions that compare a key with an operand by different operators have the same text
exactly if the operand is null: then both ask whether the key is null. -/
theorem text_eq_iff_of_compare {key : String} {operand : Operand} {operator other : Operator}
    (different : operator ≠ other) (compares : operator.comparesValue = true)
    (compares' : other.comparesValue = true)
    (made : compiler.compile escape [.compare key operator.sql operand] = (.ok clause, after))
    (made' : compiler.compile escape [.compare key other.sql operand] = (.ok clause', after')) :
    (clause.text = clause'.text ↔
      ∃ value, some operand = some (.single value) ∧ value.isNullToken = true) ∧
    ∀ value, some operand = some (.single value) → value.isNullToken = true →
      clause.text = clause.kind.keyword ++ " " ++ trim key ++ " IS NULL" := by
  obtain ⟨valid, kind, text⟩ := written_of_compile_lone made
  obtain ⟨-, kind', text'⟩ := written_of_compile_lone made'
  constructor
  · rw [text, text', kind, kind', String.append_right_inj,
      Comparison.text_eq_iff_null different compares compares' valid]
    simp
  · -- With null there, the text names no operator at all.
    rintro value ⟨⟩ null
    rw [text, Comparison.text_of_single _ _ (Comparison.operator?_of_sql rfl) compares rfl,
      if_pos null]
    simp [String.append_assoc]

/-- Two conditions that are meant to be opposite and both compile, from the same state, have
different texts, unless they compare with null: then both ask whether the key is null. -/
theorem text_eq_iff_of_opposite {key : String} {compared : Option Operand}
    {left right : Condition} (opposite : Opposite key compared left right)
    (made : compiler.compile escape [left] = (.ok clause, after))
    (made' : compiler.compile escape [right] = (.ok clause', after')) :
    (clause.text = clause'.text ↔
      ∃ value, compared = some (.single value) ∧ value.isNullToken = true) ∧
    ∀ value, compared = some (.single value) → value.isNullToken = true →
      clause.text = clause.kind.keyword ++ " " ++ trim key ++ " IS NULL" := by
  -- Five pairs compare with an operand, and two have operators without one.
  cases opposite with
  | equal operand =>
    have different : Operator.equal ≠ .notEqual := by decide
    exact text_eq_iff_of_compare different rfl rfl made made'
  | lessOrGreater operand =>
    have different : Operator.equal ≠ .lessOrGreater := by decide
    exact text_eq_iff_of_compare different rfl rfl made made'
  | pattern operand =>
    have different : Operator.like ≠ .notLike := by decide
    exact text_eq_iff_of_compare different rfl rfl made made'
  | less operand =>
    have different : Operator.less ≠ .greaterOrEqual := by decide
    exact text_eq_iff_of_compare different rfl rfl made made'
  | greater operand =>
    have different : Operator.greater ≠ .lessOrEqual := by decide
    exact text_eq_iff_of_compare different rfl rfl made made'
  | null =>
    -- Both tests are written with their own operators in front of the word for null.
    have different : Operator.is ≠ .isNot := by decide
    have apart := text_ne_of_operators different made made'
      (Comparison.text_of_test _ _ (Comparison.operator?_of_sql rfl) (.inl rfl) rfl)
      (Comparison.text_of_test _ _ (Comparison.operator?_of_sql rfl) (.inr rfl) rfl)
    exact ⟨iff_of_false apart (by simp), by simp⟩
  | range low high =>
    -- Both ranges are written with their own operators in front of the same bounds.
    have different : Operator.between ≠ .notBetween := by decide
    have apart := text_ne_of_operators different made made'
      (Comparison.text_of_range _ _ (Comparison.operator?_of_sql rfl) rfl)
      (Comparison.text_of_range _ _ (Comparison.operator?_of_sql rfl) rfl)
    exact ⟨iff_of_false apart (by simp), by simp⟩

end

/-- A key is tested for lying below a value and for not doing so, while one value is pending. -/
theorem text_eq_iff_of_opposite_less :
    let before : Compiler := ⟨true, [.int 7], false⟩
    let after : Compiler := ⟨true, [.int 7, .text "5"], false⟩
    let below : Clause := ⟨.filter, "WHERE age < ?2", 1, 1⟩
    let above : Clause := ⟨.filter, "WHERE age >= ?2", 1, 1⟩
    Opposite "age" (some (.single (.text "5"))) (.lt "age" (.single (.text "5")))
        (.gte "age" (.single (.text "5"))) ∧
      before.compile doubleQuotes [.lt "age" (.single (.text "5"))] = (.ok below, after) ∧
      before.compile doubleQuotes [.gte "age" (.single (.text "5"))] = (.ok above, after) ∧
      below.text ≠ above.text := by
  intro before after below above
  -- The pair is one of those that compare with an operand.
  have opposite : Opposite "age" (some (.single (.text "5"))) (.lt "age" (.single (.text "5")))
      (.gte "age" (.single (.text "5"))) := .less _
  have made : before.compile doubleQuotes [.lt "age" (.single (.text "5"))] =
      (.ok below, after) := by
    simp only [before, below, after]
    rfl
  have made' : before.compile doubleQuotes [.gte "age" (.single (.text "5"))] =
      (.ok above, after) := by
    simp only [before, above, after]
    rfl
  refine ⟨opposite, made, made', fun same => ?_⟩
  -- Equal texts would make the operand null, which it is not.
  obtain ⟨value, compared, null⟩ := (text_eq_iff_of_opposite opposite made made').1.mp same
  cases compared
  exact absurd null (by decide)

/-- A key that is equal to null and one that is not compile to the same clause. -/
theorem text_eq_of_null :
    let equal := Condition.eq "a" (.single .null)
    let other := Condition.neq "a" (.single .null)
    let clause : Clause := ⟨.filter, "WHERE a IS NULL", 0, 0⟩
    Opposite "a" (some (.single .null)) equal other ∧
      (Compiler.fresh true).compile doubleQuotes [equal] = (.ok clause, .fresh true) ∧
      (Compiler.fresh true).compile doubleQuotes [other] = (.ok clause, .fresh true) :=
  ⟨.equal _, rfl, rfl⟩

end Querent
