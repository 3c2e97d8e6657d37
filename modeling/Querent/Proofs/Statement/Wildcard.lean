import Querent.Proofs.Statement.Calls
import Querent.Proofs.Statement.Joined

/-! Patterns without a wildcard are refused wherever they stand, unless they are null. -/

namespace Querent

namespace Comparison

variable {terms : Comparison}

/-- Whether a comparison matches a key with a value that has no wildcard in its text. -/
structure LacksWildcard (terms : Comparison) : Prop where
  pattern : terms.operator? = some .like ∨ terms.operator? = some .notLike
  plain : ∃ value ∈ terms.operand.values, ∀ c ∈ ['_', '%', '?'], c ∉ value.sqlText.toList

/-- A match with a value that has no wildcard is only valid with null alone. -/
theorem LacksWildcard.null_of_valid (lacks : terms.LacksWildcard) (valid : terms.Valid) :
    ∃ value, terms.operand = .single value ∧ value.isNullToken = true := by
  obtain ⟨pattern, value, mem, plain⟩ := lacks
  obtain ⟨operator, named, fits⟩ := valid.fits
  -- A valid match is with a single value, which is null or has a wildcard; both operators ask for
  -- the same.
  have fitting : ∃ value, terms.operand = .single value ∧
      (value.isNullToken = true ∨ ∃ c ∈ value.sqlText.toList, c ∈ ['_', '%', '?']) := by
    rcases pattern with like | notLike
    · obtain rfl := Option.some.inj (like.symm.trans named)
      exact fits
    · obtain rfl := Option.some.inj (notLike.symm.trans named)
      exact fits
  obtain ⟨only, operand, null | ⟨c, inside, wildcard⟩⟩ := fitting
  · exact ⟨only, operand, null⟩
  · -- The value without a wildcard is the only one.
    rw [operand, Operand.values, List.mem_singleton] at mem
    exact absurd (mem ▸ inside) (plain c wildcard)

/-- A match of a key with null is valid, and is the test for null. -/
theorem LacksWildcard.of_null (lacks : terms.LacksWildcard) (key : isBlankText terms.key = false)
    {value : Value} (operand : terms.operand = .single value) (null : value.isNullToken = true) :
    terms.Valid ∧ terms.template = [.fixed (trim terms.key ++ " IS NULL")] := by
  -- Both operators compare a value, and null alone fits either of them.
  obtain ⟨operator, named, compares, fits⟩ : ∃ operator, terms.operator? = some operator ∧
      operator.comparesValue = true ∧ terms.Fits operator := by
    rcases lacks.pattern with named | named
    all_goals exact ⟨_, named, rfl, value, operand, .inl null⟩
  -- An operator that is known is not blank, as a condition must not be without one.
  obtain ⟨token, given, named'⟩ := Option.bind_eq_some_iff.mp named
  have valid : terms.Valid :=
    ⟨key, ⟨token, given, Operator.isBlankText_of_named named'⟩, operator, named, fits⟩
  exact ⟨valid, template_of_null named compares operand null⟩

end Comparison

variable {terms : Comparison} {compiler : Compiler} {escape : Escape}

/-- What is not valid among conditions makes their clause fail, and nothing is pending then. -/
theorem Compiler.compile_of_not_valid (compiler : Compiler) (invalid : ¬terms.Valid)
    {conditions : List Condition} (mem : .comparison terms ∈ conditions) :
    ∃ fault, compiler.compile escape conditions = (.error fault, .fresh compiler.prepared) := by
  cases made : compiler.compile escape conditions with
  | mk outcome after =>
    -- A clause is only compiled if all of its comparisons are valid.
    cases outcome with
    | error fault =>
      rw [compiler.compile_failed escape conditions made]
      exact ⟨fault, rfl⟩
    | ok clause =>
      obtain ⟨bound, compiled, -⟩ := Assembly.eq_of_compile made
      have valid := Assembly.valid_of_compileClause compiled
      exact absurd (valid terms (List.mem_filterMap.mpr ⟨_, mem, rfl⟩)) invalid

/-- What is not valid among the conditions of a statement makes it fail, and nothing is pending
then. -/
theorem Statement.assemble_of_not_valid (invalid : ¬terms.Valid) {statement : Statement}
    (mem : .comparison terms ∈ statement.conditions) :
    ∃ fault, (statement.assemble escape compiler).1 = .error fault ∧
      (statement.assemble escape compiler).2.pending = [] := by
  cases made : statement.assemble escape compiler with
  | mk outcome after =>
    -- A statement is only built if its conditions are valid, and a fault empties the store.
    cases outcome with
    | error fault =>
      refine ⟨fault, rfl, ?_⟩
      unfold Statement.assemble at made
      split at made
      · cases made
      · cases made
        rfl
    | ok sql =>
      have valid := (Assembly.settles_build escape statement).of_gives (gives_of_assemble made)
      exact absurd (valid terms (List.mem_filterMap.mpr ⟨_, mem, rfl⟩)) invalid

/-- A match with a value that has no wildcard in its text is refused wherever it stands among
conditions: neither a clause, announced or not, nor a statement is made of them, and nothing is
pending then. Only null alone is no pattern: a key is matched with it by the test for null. -/
theorem refused_of_lacksWildcard (lacks : terms.LacksWildcard) (compiler : Compiler)
    (escape : Escape) :
    ((∀ value, terms.operand = .single value → value.isNullToken = false) →
      (∀ (announced : Bool) (conditions : List Condition), .comparison terms ∈ conditions →
        ∃ fault, (if announced then compiler.compileHaving escape conditions
          else compiler.compile escape conditions) = (.error fault, .fresh compiler.prepared)) ∧
      ∀ statement : Statement, .comparison terms ∈ statement.conditions →
        ∃ fault, (statement.assemble escape compiler).1 = .error fault ∧
          (statement.assemble escape compiler).2.pending = []) ∧
    ∀ value, terms.operand = .single value → value.isNullToken = true →
      isBlankText terms.key = false →
        let kind := Assembly.nextKind compiler
        compiler.compile escape [.comparison terms] =
          (.ok ⟨kind, kind.keyword ++ " " ++ trim terms.key ++ " IS NULL",
            compiler.pending.length, 0⟩, { compiler with havingNext := false }) := by
  constructor
  · -- A value other than null leaves the comparison invalid, wherever it stands.
    intro some
    have invalid : ¬terms.Valid := fun valid => by
      obtain ⟨value, operand, null⟩ := lacks.null_of_valid valid
      rw [some value operand] at null
      cases null
    refine ⟨fun announced conditions mem => ?_, fun statement mem =>
      Statement.assemble_of_not_valid invalid mem⟩
    -- An announced clause is compiled with the switch for it on.
    cases announced with
    | true => exact { compiler with havingNext := true }.compile_of_not_valid invalid mem
    | false => exact compiler.compile_of_not_valid invalid mem
  · -- With null alone the template has no slot, so that nothing is bound.
    intro value operand null key kind
    obtain ⟨valid, test⟩ := lacks.of_null key operand null
    have compiled : compiler.compile escape ([terms].map .comparison) = _ :=
      Compiler.compile_of_valid (List.cons_ne_nil terms []) (List.forall_mem_singleton.mpr valid)
    simp only [write_clauseTemplate_lone, test, Template.write_fixed] at compiled
    rw [List.map_singleton] at compiled
    rw [compiled]
    simp [kind, Assembly.nextKind, String.append_assoc]

/-- A name is matched with a text that has no wildcard, behind a comparison that would bind a value
while another value is pending. -/
theorem refused_of_lacksWildcard_name :
    let id : Comparison := ⟨"id", some "=", .single (.int 1), none, none⟩
    let name : Comparison := ⟨"name", some " Not Like", .single (.text "bob"), none, none⟩
    let waiting : Compiler := ⟨true, [.int 7], false⟩
    let conditions := [Condition.comparison id, .comparison name]
    name.LacksWildcard ∧
      (∃ fault, waiting.compileHaving doubleQuotes conditions = (.error fault, .fresh true)) ∧
      ∃ fault, ((Statement.delete "t" conditions).assemble doubleQuotes waiting).1 =
          .error fault ∧
        ((Statement.delete "t" conditions).assemble doubleQuotes waiting).2.pending = [] := by
  intro id name waiting conditions
  have lacks : name.LacksWildcard :=
    ⟨.inr (by decide), .text "bob", List.mem_singleton_self _, by simp [Value.sqlText]⟩
  have some : ∀ value, name.operand = .single value → value.isNullToken = false := by
    rintro value ⟨⟩
    decide
  have mem : Condition.comparison name ∈ conditions := by simp [conditions]
  -- The comparison in front of it would bind a value, but nothing is pending in the end.
  obtain ⟨clauses, statements⟩ := (refused_of_lacksWildcard lacks waiting doubleQuotes).1 some
  have clause := clauses true conditions mem
  rw [if_pos rfl] at clause
  exact ⟨lacks, clause, statements (.delete "t" conditions) mem⟩

/-- A name that is matched with null has no wildcard in its pattern, and is compiled to a test, in a
clause and in a statement, while a value stays pending. -/
theorem not_refused_of_null :
    let name : Comparison := ⟨"name", some "LIKE", .single (.text "Null"), none, none⟩
    let waiting : Compiler := ⟨true, [.int 7], false⟩
    name.LacksWildcard ∧
      waiting.compile doubleQuotes [.comparison name] =
        (.ok ⟨.filter, "WHERE name IS NULL", 1, 0⟩, waiting) ∧
      (Statement.delete "t" [.comparison name]).assemble doubleQuotes waiting =
        (.ok "DELETE FROM t WHERE name IS NULL", waiting) := by
  intro name waiting
  have lacks : name.LacksWildcard :=
    ⟨.inl (by decide), .text "Null", List.mem_singleton_self _, by simp [Value.sqlText]⟩
  refine ⟨lacks, ?_, ?_⟩
  all_goals
    simp only [name, waiting]
    rfl

end Querent
