import Querent.Proofs.Clause.Compiler

/-! Setting the combiner of a condition changes what joins it to the next one, and nothing else. -/

namespace Querent

/-- The word of a combiner names it. -/
theorem Combiner.resolve_sql (combiner : Combiner) : resolve (some combiner.sql) = combiner := by
  cases combiner <;> decide

namespace Comparison

variable {terms : Comparison} (combiner : Combiner)

/-- A comparison with another combiner, which for a range goes behind the upper bound. -/
def combined (terms : Comparison) : Comparison :=
  if (terms.operator?.map Operator.isRange).getD false then
    { terms with extra := some combiner.sql }
  else { terms with combiner := some (.text combiner.sql) }

/-- Setting the combiner of a comparison leaves a comparison. -/
theorem combine_comparison (terms : Comparison) :
    Condition.combine combiner (.comparison terms) = .comparison (terms.combined combiner) :=
  (apply_ite Condition.comparison _ _ _).symm

/-- What is compared, and how, is kept; so is the upper bound of a range. -/
structure Keeps (terms other : Comparison) : Prop where
  key : other.key = terms.key
  operator : other.operator = terms.operator
  operand : other.operand = terms.operand
  bound : ∀ operator, terms.operator? = some operator → operator.isRange = true →
    other.combiner = terms.combiner

/-- Setting the combiner keeps what is compared, and how. -/
theorem keeps_combined (terms : Comparison) : terms.Keeps (terms.combined combiner) := by
  unfold combined
  -- A range takes the new word into its extra place, and anything else into the usual one.
  split
  · exact ⟨rfl, rfl, rfl, fun _ _ _ => rfl⟩
  · next single =>
    refine ⟨rfl, rfl, rfl, fun operator named range => ?_⟩
    simp [named, range] at single

/-- The combiner that was set last is the one that counts. -/
theorem combined_combined (earlier : Combiner) (terms : Comparison) :
    (terms.combined earlier).combined combiner = terms.combined combiner := by
  have same : (terms.combined earlier).operator? = terms.operator? := by
    unfold operator?
    rw [(terms.keeps_combined earlier).operator]
  rw [combined, same]
  -- Both go into the same place, which the operator decides.
  cases range : (terms.operator?.map Operator.isRange).getD false <;> simp [combined, range]

namespace Keeps

variable {other : Comparison} (keeps : terms.Keeps other)

include keeps

/-- What is compared by an operator is the same. -/
theorem operator? : other.operator? = terms.operator? := by
  unfold Comparison.operator?
  rw [keeps.operator]

/-- The values that are bound are the same. -/
theorem boundFor {operator : Operator} (named : terms.operator? = some operator) :
    other.boundFor operator = terms.boundFor operator := by
  -- Only a range has a value in the place of the combiner.
  cases operator <;> simp only [Comparison.boundFor, keeps.operand]
  all_goals rw [keeps.bound _ named rfl]

/-- The text is the same, with slots for the same values. -/
theorem template : other.template = terms.template := by
  unfold Comparison.template
  rw [keeps.operator?]
  -- Without an operator there is nothing to write in either.
  cases named : terms.operator? with
  | none => rw [Option.map_none, Option.map_none]
  | some operator =>
    simp only [Option.map_some, templateFor, keeps.key, keeps.boundFor named]

/-- The one is valid if the other is. -/
theorem valid (valid : terms.Valid) : other.Valid := by
  obtain ⟨key, token, operator, named, fits⟩ := valid
  refine ⟨keeps.key ▸ key, keeps.operator ▸ token, operator, keeps.operator?.trans named, ?_⟩
  -- Only a range asks for what stands in the place of the combiner.
  cases operator <;> simp only [Fits, keeps.operand] at fits ⊢
  case between | notBetween => rwa [keeps.bound _ named rfl]
  all_goals exact fits

end Keeps

/-- What joins a comparison to the next one is the combiner that was set. -/
theorem joiner_combined (valid : terms.Valid) : (terms.combined combiner).joiner = combiner := by
  -- The joiner is looked up where the word was put.
  obtain ⟨operator, named, -⟩ := valid.fits
  rw [joiner, (terms.keeps_combined combiner).operator?, named, Option.map_some, Option.getD_some,
    joinerFor, combined, named]
  cases range : operator.isRange <;> simp [range, Value.asText?, Combiner.resolve_sql]

end Comparison

/-- A condition with some combiners set, one after another. -/
def Condition.combineAll (combiners : List Combiner) (condition : Condition) : Condition :=
  combiners.foldl (fun condition combiner => condition.combine combiner) condition

/-- Of the combiners that are set on a comparison, the last one stays. -/
theorem Condition.combineAll_concat (earlier : List Combiner) (last : Combiner)
    (terms : Comparison) :
    Condition.combineAll (earlier ++ [last]) (.comparison terms) =
      .comparison (terms.combined last) := by
  unfold combineAll
  induction earlier generalizing terms with
  | nil => exact terms.combine_comparison last
  | cons first earlier ih =>
    -- Behind the first combiner, the last one is set on a comparison that has it already.
    rw [List.cons_append, List.foldl_cons, Comparison.combine_comparison, ih,
      Comparison.combined_combined]

namespace Compiler

/-- The clause of two fragments with a combiner between them, and the compiler behind it. -/
def joined (compiler : Compiler) (first second : Bound) (combiner : Combiner) :
    Except ClauseFault Clause × Compiler :=
  let kind := if compiler.havingNext then ClauseKind.having else ClauseKind.filter
  let text := kind.keyword ++ " " ++ first.text ++ " " ++ combiner.sql ++ " " ++ second.text
  let values := first.values ++ second.values
  (.ok ⟨kind, text, compiler.pending.length, values.length⟩,
    ⟨compiler.prepared, compiler.pending ++ values, false⟩)

/-- Two valid comparisons compile to their fragments with the joiner of the first one between
them. -/
theorem compile_pair (compiler : Compiler) (escape : Escape) {terms next : Comparison}
    (valid : terms.Valid) (valid' : next.Valid) :
    let first := terms.template.write (compiler.binding escape) compiler.pending.length
    let second := next.template.write (compiler.binding escape)
      (compiler.pending.length + first.values.length)
    compiler.compile escape [.comparison terms, .comparison next] =
      compiler.joined first second terms.joiner := by
  intro first second
  -- The pair is the shortest list that shows a joiner.
  have both : ∀ one ∈ [terms, next], one.Valid := by simp [valid, valid']
  have compiled : compiler.compile escape ([terms, next].map .comparison) = _ :=
    compile_of_valid (List.cons_ne_nil terms [next]) both
  simp only [write_clauseTemplate_pair] at compiled
  exact compiled

end Compiler

/-- Setting combiners on a comparison, the last one of which stays, changes the word between it and
the next one and nothing else, by whatever spelling the operator is named. What is compared is kept,
with both bounds of a range. If both comparisons compile, their clause is made of the fragment of
the first one, the combiner that was set last and the fragment of the second one, with the values
that are bound without it; and a written clause behind the first one is refused as it is without
it. -/
theorem compile_combineAll (compiler : Compiler) (escape : Escape) {terms next : Comparison}
    {binding binding' : Binding} {pending pending' : Nat} {fragment fragment' : Fragment}
    (compiles : terms.compile binding pending = .ok fragment)
    (compiles' : next.compile binding' pending' = .ok fragment')
    (earlier : List Combiner) (last : Combiner) :
    let combined := Condition.combineAll (earlier ++ [last]) (.comparison terms)
    (∃ first second : Fragment,
      terms.compile (compiler.binding escape) compiler.pending.length = .ok first ∧
      next.compile (compiler.binding escape)
        (compiler.pending.length + first.bound.values.length) = .ok second ∧
      compiler.compile escape [combined, .comparison next] =
        compiler.joined first.bound second.bound last ∧
      compiler.compile escape [.comparison terms, .comparison next] =
        compiler.joined first.bound second.bound first.combiner) ∧
    (∃ kept, combined = .comparison kept ∧ terms.Keeps kept) ∧
    ∀ text, compiler.compile escape [combined, .raw text] =
      compiler.compile escape [.comparison terms, .raw text] := by
  intro combined
  have valid := (Comparison.compile_eq_ok_iff.mp compiles).1
  have valid' := (Comparison.compile_eq_ok_iff.mp compiles').1
  have keeps := terms.keeps_combined last
  have shape : combined = .comparison (terms.combined last) :=
    Condition.combineAll_concat earlier last terms
  rw [shape]
  -- Of all combiners, only the last one is left to be looked at.
  refine ⟨⟨_, _, Comparison.compile_eq_ok_iff.mpr ⟨valid, rfl⟩,
    Comparison.compile_eq_ok_iff.mpr ⟨valid', rfl⟩, ?_, compiler.compile_pair escape valid valid'⟩,
    ⟨_, rfl, keeps⟩, fun text => ?_⟩
  · rw [compiler.compile_pair escape (keeps.valid valid) valid', keeps.template,
      Comparison.joiner_combined last valid]
  · -- The first comparison compiles in either case, and then the written clause is a fault.
    have fault : ∀ {terms : Comparison}, terms.Valid → ∀ binding pending kind,
        compileClause binding pending kind [.comparison terms, .raw text] =
          .error .mixedFragments := by
      intro terms valid binding pending kind
      rw [compileClause, compileAll, Comparison.compile_eq_ok_iff.mpr ⟨valid, rfl⟩]
      · rfl
      all_goals simp
    simp only [Compiler.compile, fault valid, fault (keeps.valid valid)]

/-- While one value is pending, a range that is spelled in its own way is joined by NOT and then by
OR. -/
theorem compile_combineAll_between :
    let range : Comparison := ⟨"id", some " beTween ", .single (.int 1), some (.int 5), none⟩
    let flag : Comparison := ⟨"flag", some "=", .single (.bool true), none, none⟩
    let compiler : Compiler := ⟨true, [.int 7], false⟩
    let after : Compiler := ⟨true, [.int 7, .int 1, .int 5, .bool true], false⟩
    range.compile (compiler.binding doubleQuotes) 1 =
        .ok ⟨⟨"id BETWEEN ?2 AND ?3", [.int 1, .int 5]⟩, .and⟩ ∧
      flag.compile (compiler.binding doubleQuotes) 3 = .ok ⟨⟨"flag = ?4", [.bool true]⟩, .and⟩ ∧
      compiler.compile doubleQuotes
          [.combineAll [.not, .or] (.comparison range), .comparison flag] =
        (.ok ⟨.filter, "WHERE id BETWEEN ?2 AND ?3 OR flag = ?4", 1, 3⟩, after) := by
  intro range flag compiler after
  have first : range.compile (compiler.binding doubleQuotes) 1 =
      .ok ⟨⟨"id BETWEEN ?2 AND ?3", [.int 1, .int 5]⟩, .and⟩ := by
    simp only [range, compiler]
    rfl
  have second : flag.compile (compiler.binding doubleQuotes) 3 =
      .ok ⟨⟨"flag = ?4", [.bool true]⟩, .and⟩ := by
    simp only [flag, compiler]
    rfl
  -- The fragments that the law speaks of are the ones that were compiled.
  obtain ⟨⟨own, next, made, made', combined, -⟩, -⟩ :=
    compile_combineAll compiler doubleQuotes first second [.not] .or
  obtain rfl := Except.ok.inj (first.symm.trans made)
  obtain rfl := Except.ok.inj (second.symm.trans made')
  refine ⟨first, second, combined.trans ?_⟩
  simp only [compiler, after]
  rfl

end Querent
