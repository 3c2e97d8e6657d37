import Querent.Proofs.Statement.Composed

/-! A clause begins with the keyword of its kind, but for a text that was passed on as it is. -/

namespace Querent

/-- Whether a text begins with the keyword of a kind, behind blanks. -/
def ClauseKind.Begins (kind : ClauseKind) (text : String) : Prop :=
  kind.keyword.toList <+: trimFront text.toList

/-- A beginning is decided letter by letter. -/
instance (kind : ClauseKind) (text : String) : Decidable (kind.Begins text) :=
  inferInstanceAs (Decidable (kind.keyword.toList <+: trimFront text.toList))

/-- A text with the keyword in front of it begins with the keyword. -/
theorem ClauseKind.begins_of_prefix {kind : ClauseKind} {text : String}
    (front : kind.keyword.toList <+: text.toList) : kind.Begins text := by
  obtain ⟨rest, shape⟩ := front
  -- The keyword begins with a letter, so no blank is dropped.
  have whole : trimFront text.toList = text.toList := by
    rw [← shape]
    cases kind <;> rfl
  rw [Begins, whole]
  exact ⟨rest, shape⟩

namespace Clause

/-- Whether a clause has no text, or a text that begins with the keyword of its kind. -/
def Consistent (clause : Clause) : Prop :=
  clause.text = "" ∨ clause.kind.Begins clause.text

/-- Consistency is decided by the text. -/
instance (clause : Clause) : Decidable clause.Consistent :=
  inferInstanceAs (Decidable (clause.text = "" ∨ clause.kind.Begins clause.text))

/-- A clause of columns has the kind that was asked for, and begins with the keyword if whatever is
written for a list does. -/
theorem consistent_of_columns {kind : ClauseKind} {columns : List String} {write : String → String}
    (front : ∀ list, kind.keyword.toList <+: (write list).toList) {clause : Clause}
    (made : (do
      let list ← requireColumns kind columns
      return Clause.fragment kind (write list)) = Except.ok clause) :
    clause.kind = kind ∧ clause.Consistent := by
  -- Without columns there is no clause.
  cases listed : requireColumns kind columns with
  | error fault =>
    rw [listed] at made
    cases made
  | ok list =>
    rw [listed] at made
    cases made
    exact ⟨rfl, .inr (ClauseKind.begins_of_prefix (front list))⟩

variable {binding : Binding} {pending : Nat} {kind : ClauseKind} {conditions : List Condition}
  {bound : Bound}

/-- A text without a keyword is not passed on, so what is passed on is not empty. -/
theorem ne_empty_of_compileClause {text : String}
    (compiled : compileClause binding pending kind [.raw text] = .ok bound) : text ≠ "" := by
  rintro rfl
  cases compiled

/-- What conditions compile to is empty or begins with the keyword, except that a text which is
passed on may begin with anything. -/
theorem begins_iff_of_compileClause
    (compiled : compileClause binding pending kind conditions = .ok bound) :
    (bound.text = "" ∨ kind.Begins bound.text) ↔
      ∀ text, conditions = [.raw text] → kind.Begins text := by
  -- By the first condition: none, a written clause, which stands alone then, or a comparison.
  match conditions with
  | [] =>
    obtain rfl := Except.ok.inj compiled
    exact iff_of_true (.inl rfl) nofun
  | .raw text :: rest =>
    obtain ⟨rfl, rfl⟩ := Assembly.lone_of_compileClause compiled
    constructor
    · rintro (empty | begins) own same
      · exact absurd empty (ne_empty_of_compileClause compiled)
      · cases same
        exact begins
    · exact fun begins => .inr (begins text rfl)
  | .comparison terms :: rest =>
    -- Comparisons are all that stands beside a comparison, and the keyword is written before them.
    obtain ⟨comparisons, some, shape, -⟩ := Assembly.comparisons_of_compileClause compiled
    rw [shape] at compiled
    exact iff_of_true (.inr (ClauseKind.begins_of_prefix (begins_of_compileClause some compiled).1))
      nofun

/-- Every clause is of the kind that was asked for. Groupings and sortings are consistent, and so is
what conditions compile to in any compiler, exactly unless they are one text that is passed on as it
is and does not begin with the keyword of that kind. -/
theorem consistent_iff_begins (escape : Escape) (compiler : Compiler) :
    (∀ (announced : Bool) (conditions : List Condition) (clause : Clause) (after : Compiler),
      (if announced then compiler.compileHaving escape conditions
        else compiler.compile escape conditions) = (.ok clause, after) →
      clause.kind = (if announced || compiler.havingNext then .having else .filter) ∧
        (clause.Consistent ↔ ∀ text, conditions = [.raw text] → clause.kind.Begins text)) ∧
    (∀ (columns : List String) (clause : Clause), groupBy columns = .ok clause →
      clause.kind = .groupBy ∧ clause.Consistent) ∧
    ∀ (columns : List String) (direction : Direction) (clause : Clause),
      orderBy columns direction = .ok clause → clause.kind = .orderBy ∧ clause.Consistent := by
  refine ⟨fun announced conditions clause after made => ?_, fun columns clause made => ?_,
    fun columns direction clause made => ?_⟩
  · -- An announced clause is compiled by the compiler that has it announced.
    have settled : (Compiler.mk compiler.prepared compiler.pending
        (announced || compiler.havingNext)).compile escape conditions = (.ok clause, after) := by
      rw [← made]
      cases announced <;> rfl
    obtain ⟨bound, compiled, rfl, -⟩ := Assembly.eq_of_compile settled
    exact ⟨rfl, begins_iff_of_compileClause compiled⟩
  · refine consistent_of_columns (fun list => ?_) made
    rw [grouping_toList]
    exact List.prefix_append ..
  · refine consistent_of_columns (fun list => ?_) made
    rw [sorting_toList]
    exact List.prefix_append ..

/-- An announced HAVING clause is passed on with the blank in front of it, and rows are grouped and
sorted by names with blanks around them. -/
theorem consistent_iff_begins_announced :
    let compiler : Compiler := ⟨true, [.int 7], true⟩
    let having : Clause := ⟨.having, " HAVING count(*) > 1", 1, 0⟩
    let grouping : Clause := ⟨.groupBy, "GROUP BY city", 0, 0⟩
    let sorting : Clause := ⟨.orderBy, "ORDER BY city, age DESC", 0, 0⟩
    compiler.compile doubleQuotes [having.toCondition] = (.ok having, ⟨true, [.int 7], false⟩) ∧
      having.Consistent ∧ groupBy [" city "] = .ok grouping ∧ grouping.Consistent ∧
      orderBy ["city", " ", " age"] .descending = .ok sorting ∧ sorting.Consistent := by
  intro compiler having grouping sorting
  have passed : compiler.compile doubleQuotes [having.toCondition] =
      (.ok having, ⟨true, [.int 7], false⟩) := by
    simp only [compiler, having]
    rfl
  have grouped : groupBy [" city "] = .ok grouping := by decide +kernel
  have sorted : orderBy ["city", " ", " age"] .descending = .ok sorting := by decide +kernel
  obtain ⟨compiled, groups, sorts⟩ := consistent_iff_begins doubleQuotes compiler
  -- The text that is passed on begins with a blank and then the keyword.
  have only : ∀ text, [having.toCondition] = [.raw text] → having.kind.Begins text := by
    intro text same
    cases same
    decide
  exact ⟨passed, (compiled false _ having _ passed).2.mpr only, grouped,
    (groups _ grouping grouped).2, sorted, (sorts _ _ sorting sorted).2⟩

/-- A HAVING clause that is passed on without an announcement is told to be a WHERE clause, and so
is a bare comparison with a value that holds the keyword; an announcement makes a HAVING clause of
a WHERE clause. -/
theorem consistent_of_compile_fails :
    let having : Clause := ⟨.filter, "HAVING count(*) > 1", 0, 0⟩
    let bare : Clause := ⟨.filter, "a = 'WHERE'", 0, 0⟩
    let filter : Clause := ⟨.having, "WHERE a = 1", 0, 0⟩
    ((Compiler.fresh true).compile doubleQuotes [having.toCondition]).1 = .ok having ∧
      ¬having.Consistent ∧
      ((Compiler.fresh true).compile doubleQuotes [bare.toCondition]).1 = .ok bare ∧
      ¬bare.Consistent ∧
      ((Compiler.fresh true).compileHaving doubleQuotes [filter.toCondition]).1 = .ok filter ∧
      ¬filter.Consistent := by
  decide

end Clause

end Querent
