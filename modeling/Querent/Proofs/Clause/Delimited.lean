import Querent.Proofs.Clause.Combined
import Querent.Proofs.Text.Fields

/-! Conditions that are written as one text, with two spaces between their fields. -/

namespace Querent

/-- Whether a text can be a field among others with two spaces between them: no blank at its ends,
no two spaces side by side, and no keyword of a clause. -/
structure IsField (text : String) : Prop where
  trimmed : trim text = text
  single : SingleSpaced text.toList
  plain : ∀ kind : ClauseKind, holds text kind.keyword = false

instance (text : String) : Decidable (IsField text) :=
  decidable_of_iff (trim text = text ∧ SingleSpaced text.toList ∧
      ∀ kind ∈ [ClauseKind.filter, .having, .groupBy, .orderBy], holds text kind.keyword = false)
    ⟨fun ⟨trimmed, single, plain⟩ =>
      ⟨trimmed, single, fun kind => plain kind (by cases kind <;> simp)⟩,
      fun field => ⟨field.trimmed, field.single, fun kind _ => field.plain kind⟩⟩

/-- A field stays single-spaced before a space. -/
theorem IsField.single_concat {text : String} (field : IsField text) :
    SingleSpaced (text.toList ++ [' ']) := by
  have whole : trimEnds text.toList = text.toList := by
    conv_rhs => rw [← field.trimmed, trim, String.toList_ofList]
  refine (singleSpaced_concat_iff text.toList).mpr ⟨fun ends => ?_, field.single⟩
  -- A space at the end would be trimmed.
  have last := ((trimEnds_eq_self_iff text.toList).mp whole).2
  rw [List.getLast?_map, ends] at last
  exact last rfl

/-- Fields with two spaces between them name no clause. -/
theorem ofText?_joined {parts : List String} (each : ∀ part ∈ parts, IsField part) :
    ClauseKind.ofText? (joinWith "  " parts) = none := by
  rw [ClauseKind.ofText?, List.find?_eq_none]
  intro kind _ held
  -- A keyword stays single-spaced between spaces, so it would stand in one of the fields.
  have solid : SingleSpaced (' ' :: (kind.keyword.toList ++ [' '])) := by cases kind <;> decide
  obtain ⟨part, mem, within⟩ := exists_of_infix_joined solid ((holds_iff _ _).mp held)
  have absent := (each part mem).plain kind
  rw [(holds_iff part kind.keyword).mpr within] at absent
  cases absent

/-- Fields are read back from their text: a key, an operator unless it is missing or empty, and what
the operator makes of the others. -/
theorem Condition.parse_joined {parts : List String} (nonempty : parts ≠ [])
    (each : ∀ part ∈ parts, IsField part) :
    Condition.parse (joinWith "  " parts) =
      let operator := parts[1]?.filter (· ≠ "")
      if operator.bind Operator.parse? = some .isIn then
        .comparison ⟨parts.headD "", operator, .list ((parts.drop 2).map .text), none, none⟩
      else .comparison ⟨parts.headD "", operator, .single (.text (parts[2]?.getD "")),
        parts[3]?.map .text, parts[4]?⟩ := by
  -- Cut at two spaces, the text gives its fields, none of which is shortened by trimming.
  have read : (fields (joinWith "  " parts).toList).map
      (fun field => String.ofList (trimEnds field)) = parts := by
    rw [fields_joinWith nonempty fun part mem => (each part mem).single_concat, List.map_map]
    exact (List.map_congr_left fun part mem => (each part mem).trimmed).trans (List.map_id parts)
  unfold Condition.parse
  rw [ofText?_joined each, read]
  rfl

namespace Comparison

variable {binding : Binding} {pending : Nat} {terms other : Comparison}

/-- Comparisons compile alike if they agree but for tokens that name the same. -/
theorem compile_congr (key : terms.key = other.key)
    (operator : terms.requireOperator (trim other.key) = other.requireOperator (trim other.key))
    (operand : terms.operand = other.operand) (combiner : terms.combiner = other.combiner)
    (extra : Combiner.resolve terms.extra = .resolve other.extra) :
    terms.compile binding pending = other.compile binding pending := by
  -- Behind the operator, each kind of comparison looks at the operand and at its own joiner.
  have choice : terms.compileChoice binding pending (trim other.key) =
      other.compileChoice binding pending (trim other.key) := by
    simp only [compileChoice, usualCombiner, operand, combiner]
  have range : ∀ named, terms.compileRange binding pending (trim other.key) named =
      other.compileRange binding pending (trim other.key) named := by
    intro named
    simp only [compileRange, singleValue, operand, combiner, extra]
  have single : ∀ named, terms.compileSingle binding pending (trim other.key) named =
      other.compileSingle binding pending (trim other.key) named := by
    intro named
    simp only [compileSingle, singleValue, usualCombiner, operand, combiner]
  simp only [compile, key, operator, choice, range, single]

end Comparison

/-- Among other conditions, a comparison can be exchanged for one that compiles alike. -/
theorem compileAll_exchange {binding : Binding} {terms other : Comparison}
    (same : ∀ pending, terms.compile binding pending = other.compile binding pending)
    (pending : Nat) (front back : List Condition) :
    compileAll binding pending (front ++ .comparison terms :: back) =
      compileAll binding pending (front ++ .comparison other :: back) := by
  -- What stands in front moves the place where the exchanged one begins to bind.
  induction front generalizing pending with
  | nil => simp only [List.nil_append, compileAll, same]
  | cons condition front ih =>
    cases condition with
    | raw text => rfl
    | comparison first =>
      -- The conditions behind the first one are there in both lists.
      have some : ∀ terms : Comparison,
          (front ++ Condition.comparison terms :: back).isEmpty = false := by simp
      simp only [List.cons_append, compileAll, ih, some]

/-- A compiler makes the same of conditions if a comparison among them is exchanged for one that
compiles alike. -/
theorem Compiler.compile_exchange {terms other : Comparison}
    (same : ∀ binding pending, terms.compile binding pending = other.compile binding pending)
    (compiler : Compiler) (escape : Escape) (front back : List Condition) :
    compiler.compile escape (front ++ .comparison terms :: back) =
      compiler.compile escape (front ++ .comparison other :: back) := by
  have clause : ∀ binding pending kind,
      compileClause binding pending kind (front ++ .comparison terms :: back) =
        compileClause binding pending kind (front ++ .comparison other :: back) := by
    intro binding pending kind
    have exchanged := compileAll_exchange (same binding) pending front back
    match front with
    | [] =>
      simp only [List.nil_append] at exchanged ⊢
      simp [compileClause, exchanged]
    -- A written clause in front is refused before the others are looked at.
    | .raw text :: front => simp [compileClause]
    | .comparison first :: front =>
      simp only [List.cons_append] at exchanged ⊢
      simp [compileClause, exchanged]
  simp only [Compiler.compile, clause]

section

variable {key token : String}

/-- Behind a token that names no choice, the fields are a value, the place of the combiner and that
of the extra one. -/
theorem Condition.parse_fields {value : String} {rest : List String}
    (each : ∀ part ∈ key :: token :: value :: rest, IsField part)
    (other : Operator.parse? token ≠ some .isIn) :
    Condition.parse (joinWith "  " (key :: token :: value :: rest)) =
      .comparison ⟨key, (some token).filter (· ≠ ""), .single (.text value), rest[0]?.map .text,
        rest[1]?⟩ := by
  -- An empty token is no name of an operator.
  have unnamed : ((some token).filter (· ≠ "")).bind Operator.parse? ≠ some .isIn := by
    intro named
    obtain ⟨found, kept, named⟩ := Option.bind_eq_some_iff.mp named
    obtain rfl := Option.some.inj (Option.eq_some_of_filter_eq_some kept)
    exact other named
  rw [parse_joined (List.cons_ne_nil _ _) each]
  exact if_neg unnamed

/-- An empty token is missing. -/
theorem requireOperator_filter {terms other : Comparison}
    (given : terms.operator = (some token).filter (· ≠ "")) (given' : other.operator = some token) :
    terms.requireOperator key = other.requireOperator key := by
  unfold Comparison.requireOperator
  rw [given, given']
  -- A missing token and an empty one are refused alike.
  by_cases empty : token = ""
  · subst empty
    rfl
  · simp [Option.filter, empty]

/-- A token that names an operator requires this operator. -/
theorem requireOperator_named {terms : Comparison} {operator : Operator}
    (given : terms.operator = some token) (named : Operator.parse? token = some operator) :
    terms.requireOperator key = .ok operator := by
  refine (Comparison.requireOperator_eq_ok_iff key operator).mpr
    ⟨⟨token, given, Operator.isBlankText_of_named named⟩, ?_⟩
  rw [Comparison.operator?, given, Option.bind_some, named]

end

/-- A condition is read back from its fields with two spaces between them: the key, the operator
unless it is missing or empty, and behind an operator that names a choice all other fields as its
values, behind any other one a value, what is in the place of the combiner and what is extra. Among
any other conditions, it compiles as the comparison of these fields does, and a range as the one
between its bounds with the combiner that the extra field names. -/
theorem Condition.parse_delimited :
    (∀ parts : List String, parts ≠ [] → (∀ part ∈ parts, IsField part) →
      ∃ terms, parse (joinWith "  " parts) = .comparison terms ∧
        terms.key = parts.headD "" ∧ terms.operator = parts[1]?.filter (· ≠ "") ∧
        (terms.operator? = some .isIn → terms.operand = .list ((parts.drop 2).map .text) ∧
          terms.combiner = none ∧ terms.extra = none) ∧
        (terms.operator? ≠ some .isIn → terms.operand = .single (.text (parts[2]?.getD "")) ∧
          terms.combiner = parts[3]?.map .text ∧ terms.extra = parts[4]?)) ∧
    ∀ (compiler : Compiler) (escape : Escape) (front back : List Condition),
      let compiled := fun condition => compiler.compile escape (front ++ condition :: back)
      (∀ (key token value : String) (rest : List String),
        (∀ part ∈ key :: token :: value :: rest, IsField part) →
        Operator.parse? token ≠ some .isIn →
        compiled (parse (joinWith "  " (key :: token :: value :: rest))) =
          compiled (.comparison ⟨key, some token, .single (.text value), rest[0]?.map .text,
            rest[1]?⟩)) ∧
      ∀ key token low high extra : String,
        (∀ part ∈ [key, token, low, high, extra], IsField part) →
        Operator.parse? token = some .between →
        compiled (parse (joinWith "  " [key, token, low, high, extra])) =
          compiled ((between key (.text low) (.text high)).combine (.resolve (some extra))) := by
  refine ⟨fun parts nonempty each => ?_, fun compiler escape front back => ⟨?_, ?_⟩⟩
  · rw [parse_joined nonempty each]
    dsimp only
    split
    · next choice =>
      exact ⟨_, rfl, rfl, rfl, fun _ => ⟨rfl, rfl, rfl⟩, fun other => absurd choice other⟩
    · next other =>
      exact ⟨_, rfl, rfl, rfl, fun choice => absurd choice other, fun _ => ⟨rfl, rfl, rfl⟩⟩
  · intro key token value rest each other
    rw [parse_fields each other]
    refine compiler.compile_exchange (fun binding pending => ?_) escape front back
    exact Comparison.compile_congr rfl (requireOperator_filter rfl rfl) rfl rfl rfl
  · intro key token low high extra each named
    have other : Operator.parse? token ≠ some .isIn := by simp [named]
    have range : (Condition.between key (.text low) (.text high)).combine (.resolve (some extra)) =
        .comparison ⟨key, some "BETWEEN", .single (.text low), some (.text high),
          some (Combiner.resolve (some extra)).sql⟩ := by
      rw [Condition.between, Condition.range, Comparison.combine_comparison, Comparison.combined,
        Comparison.operator?_of_sql rfl]
      rfl
    rw [parse_fields each other, range]
    refine compiler.compile_exchange (fun binding pending => ?_) escape front back
    -- Both tokens name the same operator, and both words of the combiner the same combiner.
    refine Comparison.compile_congr rfl ?_ rfl rfl (Combiner.resolve_sql _).symm
    let tuple : Comparison := ⟨key, some token, .single (.text low), none, none⟩
    have given : tuple.operator = some token := rfl
    rw [requireOperator_filter rfl given, requireOperator_named given named,
      requireOperator_named rfl (Operator.parse?_sql .between)]

/-- A choice with an empty value, a pattern, and a range from an empty text on are read from their
fields. -/
theorem Condition.parse_delimited_fields :
    let compiled := fun condition => (Compiler.fresh true).compile doubleQuotes [condition]
    (∀ part ∈ ["id", "In", "1", "", "3"], IsField part) ∧
      (∃ terms, parse "id  In  1    3" = .comparison terms ∧ terms.key = "id" ∧
        terms.operand = .list [.text "1", .text "", .text "3"]) ∧
      (∀ part ∈ ["name", "not like", "a%", "Or"], IsField part) ∧
      Operator.parse? "not like" = some .notLike ∧
      compiled (parse "name  not like  a%  Or") =
        compiled (.comparison ⟨"name", some "not like", .single (.text "a%"), some (.text "Or"),
          none⟩) ∧
      (∀ part ∈ ["id", "between", "", "5", "or"], IsField part) ∧
      Operator.parse? "between" = some .between ∧
      compiled (parse "id  between    5  or") =
        compiled ((between "id" (.text "") (.text "5")).combine .or) := by
  intro compiled
  have choice : ∀ part ∈ ["id", "In", "1", "", "3"], IsField part := by decide
  have pattern : ∀ part ∈ ["name", "not like", "a%", "Or"], IsField part := by decide
  have range : ∀ part ∈ ["id", "between", "", "5", "or"], IsField part := by decide
  obtain ⟨read, exchange⟩ := parse_delimited
  obtain ⟨single, bounds⟩ := exchange (.fresh true) doubleQuotes [] []
  obtain ⟨terms, shape, key, operator, values, -⟩ := read _ (by decide) choice
  -- The token of a choice is read whatever its letters look like.
  have named : terms.operator? = some .isIn := by
    rw [Comparison.operator?, operator]
    decide
  exact ⟨choice, ⟨terms, shape, key, (values named).1⟩, pattern, by decide,
    single "name" "not like" "a%" ["Or"] pattern (by decide), range, by decide,
    bounds "id" "between" "" "5" "or" range (by decide)⟩

end Querent
