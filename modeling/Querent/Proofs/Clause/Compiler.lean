import Querent.Proofs.Clause.Comparison

/-! A clause compiles exactly where all its comparisons do, and the values follow its text. -/

namespace Querent

/-- The text of comparisons, each joined to the next by its joiner, with slots for the values. -/
def comparisonsTemplate : List Comparison → Template
  | [] => []
  | [terms] => .fixed " " :: terms.template
  | terms :: others =>
    .fixed " " :: terms.template ++ .fixed (" " ++ terms.joiner.sql) :: comparisonsTemplate others

/-- The text of a clause of comparisons, with slots for the values. -/
def clauseTemplate (kind : ClauseKind) (comparisons : List Comparison) : Template :=
  .fixed kind.keyword :: comparisonsTemplate comparisons

/-- Behind the first of several comparisons stands its joiner. -/
theorem comparisonsTemplate_cons (terms next : Comparison) (others : List Comparison) :
    comparisonsTemplate (terms :: next :: others) =
      .fixed " " :: terms.template ++
        .fixed (" " ++ terms.joiner.sql) :: comparisonsTemplate (next :: others) := by
  -- The last comparison is the one that nothing follows.
  rw [comparisonsTemplate]
  simp

/-- The slots of a comparison are those for the values that it binds. -/
theorem Comparison.values_template (terms : Comparison) : terms.template.values = terms.bound := by
  -- Without an operator there is neither a slot nor a value.
  unfold Comparison.template Comparison.bound
  cases terms.operator? with
  | none => rfl
  | some operator => exact terms.values_templateFor operator

/-- The slots of a clause are those for the values of its comparisons, in their order. -/
theorem values_clauseTemplate (kind : ClauseKind) (comparisons : List Comparison) :
    (clauseTemplate kind comparisons).values = comparisons.flatMap Comparison.bound := by
  -- Spaces and joiners are fixed text, so only the comparisons have slots.
  have each : (comparisonsTemplate comparisons).values = comparisons.flatMap Comparison.bound := by
    induction comparisons with
    | nil => rfl
    | cons terms others ih =>
      cases others with
      | nil => simp [comparisonsTemplate, Template.values, Comparison.values_template]
      | cons next others =>
        simp [comparisonsTemplate_cons, Template.values, Comparison.values_template, ih]
  simpa [clauseTemplate, Template.values] using each

variable {binding : Binding} {bound : Bound}

/-- A comparison in front is written first, with its joiner unless it is the last one. -/
theorem write_comparisonsTemplate_cons (pending : Nat) (terms : Comparison)
    (others : List Comparison) :
    (comparisonsTemplate (terms :: others)).write binding pending =
      let first := terms.template.write binding pending
      let rest := (comparisonsTemplate others).write binding (pending + first.values.length)
      ⟨" " ++ first.text ++ (if others.isEmpty then "" else " " ++ terms.joiner.sql) ++ rest.text,
        first.values ++ rest.values⟩ := by
  cases others with
  -- Nothing joins the last comparison to another one.
  | nil => simp [comparisonsTemplate, Template.write_fixed_cons, Template.write_nil]
  | cons next others =>
    -- What follows the joiner counts on from the values of the first comparison.
    rw [comparisonsTemplate_cons, List.cons_append, Template.write_fixed_cons,
      Template.write_append, Template.write_fixed_cons]
    simp [String.append_assoc]

/-- A clause of one comparison is this comparison behind the keyword. -/
theorem write_clauseTemplate_lone (pending : Nat) (kind : ClauseKind) (terms : Comparison) :
    (clauseTemplate kind [terms]).write binding pending =
      let only := terms.template.write binding pending
      ⟨kind.keyword ++ " " ++ only.text, only.values⟩ := by
  rw [clauseTemplate, Template.write_fixed_cons]
  simp [comparisonsTemplate, Template.write_fixed_cons, String.append_assoc]

/-- A clause of two comparisons is these behind the keyword, with the joiner of the first one
between them. -/
theorem write_clauseTemplate_pair (pending : Nat) (kind : ClauseKind) (terms next : Comparison) :
    (clauseTemplate kind [terms, next]).write binding pending =
      let first := terms.template.write binding pending
      let second := next.template.write binding (pending + first.values.length)
      ⟨kind.keyword ++ " " ++ first.text ++ " " ++ terms.joiner.sql ++ " " ++ second.text,
        first.values ++ second.values⟩ := by
  rw [clauseTemplate, Template.write_fixed_cons, write_comparisonsTemplate_cons]
  simp [comparisonsTemplate, Template.write_fixed_cons, String.append_assoc]

/-- Conditions compile exactly where all are valid comparisons, and then to their template. -/
theorem compileAll_eq_ok_iff (pending : Nat) (conditions : List Condition) :
    compileAll binding pending conditions = .ok bound ↔
      ∃ comparisons : List Comparison, conditions = comparisons.map .comparison ∧
        (∀ terms ∈ comparisons, terms.Valid) ∧
          bound = (comparisonsTemplate comparisons).write binding pending := by
  -- Each comparison is compiled with the values of all before it pending.
  induction conditions generalizing pending bound with
  | nil =>
    rw [compileAll]
    -- No conditions are an empty text, which binds nothing.
    constructor
    · rintro ⟨⟩
      exact ⟨[], rfl, by simp, (Template.write_nil binding pending).symm⟩
    · rintro ⟨comparisons, none, -, rfl⟩
      rw [List.map_eq_nil_iff.mp none.symm, comparisonsTemplate, Template.write_nil]
  | cons condition rest ih =>
    cases condition with
    | raw text =>
      -- A written clause is refused among comparisons.
      rw [compileAll]
      constructor
      · rintro ⟨⟩
      · rintro ⟨comparisons, shape, -, -⟩
        cases comparisons <;> simp at shape
    | comparison terms =>
      rw [compileAll]
      constructor
      · -- The first comparison compiles, and the others behind it do so with its values pending.
        intro compiled
        cases first : terms.compile binding pending with
        | error fault =>
          rw [first] at compiled
          cases compiled
        | ok fragment =>
          obtain ⟨valid, rfl⟩ := Comparison.compile_eq_ok_iff.mp first
          simp only [first, bind, Except.bind] at compiled
          split at compiled
          · cases compiled
          · next others behind =>
            obtain ⟨comparisons, rfl, allValid, rfl⟩ := (ih _).mp behind
            obtain rfl := (Except.ok.inj compiled).symm
            refine ⟨terms :: comparisons, rfl, List.forall_mem_cons.mpr ⟨valid, allValid⟩, ?_⟩
            rw [write_comparisonsTemplate_cons]
            simp
      · -- All comparisons are valid, so the first one compiles, and the others do behind it.
        rintro ⟨comparisons, shape, allValid, rfl⟩
        cases comparisons with
        | nil => cases shape
        | cons terms others =>
          obtain ⟨⟨⟩, rfl⟩ := List.cons.inj shape
          obtain ⟨valid, othersValid⟩ := List.forall_mem_cons.mp allValid
          have first : terms.compile binding pending = .ok _ :=
            Comparison.compile_eq_ok_iff.mpr ⟨valid, rfl⟩
          have behind := (ih (pending + (terms.template.write binding pending).values.length)).mpr
            ⟨others, rfl, othersValid, rfl⟩
          rw [write_comparisonsTemplate_cons]
          simp [first, behind, bind, Except.bind, pure, Except.pure]

/-- A clause of comparisons compiles exactly where all of them are valid. -/
theorem compileClause_eq_ok_iff (pending : Nat) (kind : ClauseKind) {comparisons : List Comparison}
    (some : comparisons ≠ []) :
    compileClause binding pending kind (comparisons.map .comparison) = .ok bound ↔
      (∀ terms ∈ comparisons, terms.Valid) ∧
        bound = (clauseTemplate kind comparisons).write binding pending := by
  -- Conditions tell the comparisons that they are made of.
  have unique : ∀ others : List Comparison,
      comparisons.map Condition.comparison = others.map .comparison → comparisons = others :=
    fun others same => List.map_injective_iff.mpr (fun _ _ => Condition.comparison.inj) same
  obtain ⟨terms, others, rfl⟩ := List.exists_cons_of_ne_nil some
  rw [List.map_cons, compileClause, ← List.map_cons, clauseTemplate, Template.write_fixed_cons]
  · constructor
    · -- What compiled was made of valid comparisons, and the keyword stands in front of their text.
      intro compiled
      cases inner : compileAll binding pending ((terms :: others).map .comparison) with
      | error fault =>
        rw [inner] at compiled
        cases compiled
      | ok written =>
        obtain ⟨same, shape, valid, rfl⟩ := (compileAll_eq_ok_iff pending _).mp inner
        obtain rfl := unique same shape
        rw [inner] at compiled
        exact ⟨valid, (Except.ok.inj compiled).symm⟩
    · rintro ⟨valid, rfl⟩
      rw [(compileAll_eq_ok_iff pending _).mpr ⟨_, rfl, valid, rfl⟩]
      rfl
  -- The first condition is a comparison, so the other rules for clauses do not apply.
  all_goals simp

/-- Valid comparisons compile to a clause that is written from their template. -/
theorem Compiler.compile_of_valid {compiler : Compiler} {escape : Escape}
    {comparisons : List Comparison} (some : comparisons ≠ [])
    (valid : ∀ terms ∈ comparisons, terms.Valid) :
    let kind : ClauseKind := if compiler.havingNext then .having else .filter
    let bound := (clauseTemplate kind comparisons).write (compiler.binding escape)
      compiler.pending.length
    compiler.compile escape (comparisons.map .comparison) =
      (.ok ⟨kind, bound.text, compiler.pending.length, bound.values.length⟩,
        ⟨compiler.prepared, compiler.pending ++ bound.values, false⟩) := by
  intro kind bound
  have compiled : compileClause (compiler.binding escape) compiler.pending.length kind
      (comparisons.map .comparison) = .ok bound :=
    (compileClause_eq_ok_iff compiler.pending.length kind some).mpr ⟨valid, rfl⟩
  simp only [kind] at compiled
  simp only [compile, compiled, push, kind]

/-- A clause of comparisons compiles exactly where all of them are valid, whether or not it is
announced as a HAVING clause. Then its text is that of its template, with placeholders numbered
from behind what is pending or with literals, and what it binds is pending behind what was. -/
theorem compile_comparisons_eq_ok_iff (compiler : Compiler) (escape : Escape) (announced : Bool)
    {comparisons : List Comparison} (some : comparisons ≠ []) (clause : Clause)
    (after : Compiler) :
    (if announced then compiler.compileHaving escape (comparisons.map .comparison)
      else compiler.compile escape (comparisons.map .comparison)) = (.ok clause, after) ↔
      (∀ terms ∈ comparisons, terms.Valid) ∧
        let kind : ClauseKind := if announced || compiler.havingNext then .having else .filter
        let template := clauseTemplate kind comparisons
        let first := compiler.pending.length
        let values := comparisons.flatMap Comparison.bound
        if compiler.prepared then
          clause = ⟨kind, template.numbered first, first, values.length⟩ ∧
            after = ⟨true, compiler.pending ++ values, false⟩
        else
          clause = ⟨kind, template.literals escape, first, 0⟩ ∧
            after = ⟨false, compiler.pending, false⟩ := by
  obtain ⟨prepared, pending, havingNext⟩ := compiler
  -- The announcement only decides the keyword.
  have settle : (if announced then
        (Compiler.mk prepared pending havingNext).compileHaving escape (comparisons.map .comparison)
      else (Compiler.mk prepared pending havingNext).compile escape
        (comparisons.map .comparison)) =
      (Compiler.mk prepared pending (announced || havingNext)).compile escape
        (comparisons.map .comparison) := by
    cases announced <;> rfl
  rw [settle]
  generalize (announced || havingNext) = having
  dsimp only
  generalize word : (if having then ClauseKind.having else ClauseKind.filter) = kind
  have compiles := @compileClause_eq_ok_iff ⟨prepared, escape⟩
  simp only [Compiler.compile, Compiler.binding, word, ← values_clauseTemplate kind]
  -- A clause that does not compile has a comparison that is not valid.
  cases inner : compileClause ⟨prepared, escape⟩ pending.length kind
      (comparisons.map .comparison) with
  | error fault =>
    have invalid : ¬∀ terms ∈ comparisons, terms.Valid := fun valid => by
      rw [(compiles pending.length kind some).mpr ⟨valid, rfl⟩] at inner
      cases inner
    simp [invalid]
  | ok written =>
    obtain ⟨valid, rfl⟩ := (compiles pending.length kind some).mp inner
    rw [and_iff_right valid]
    -- What is bound is pending in the prepared mode, and nothing is in the other one.
    cases prepared <;> simp [Template.write, Compiler.push, eq_comm]

/-- One value is pending, and two comparisons bind two more. -/
theorem compile_age_or_name :
    let age : Comparison := ⟨"age", some ">=", .single (.int 18), some (.text "or"), none⟩
    let name : Comparison := ⟨" name", some " like ", .single (.text "a%"), none, none⟩
    [age, name] ≠ [] ∧
      (Compiler.mk true [.int 7] false).compile doubleQuotes ([age, name].map .comparison) =
        (.ok ⟨.filter, "WHERE age >= ?2 OR name LIKE ?3", 1, 2⟩,
          ⟨true, [.int 7, .int 18, .text "a%"], false⟩) := by
  intro age name
  have ageValid : age.Valid :=
    ⟨by decide, ⟨">=", rfl, by decide⟩, .greaterOrEqual, by decide, .int 18, rfl⟩
  have nameValid : name.Valid :=
    ⟨by decide, ⟨" like ", rfl, by decide⟩, .like, by decide, .text "a%", rfl,
      .inr ⟨'%', by decide⟩⟩
  have given : [age, name] ≠ [] := List.cons_ne_nil age [name]
  have compiles := compile_comparisons_eq_ok_iff (Compiler.mk true [.int 7] false) doubleQuotes
    false given
  simp only [Bool.false_eq_true, if_false] at compiles
  refine ⟨given, (compiles _ _).mpr ⟨?_, ?_⟩⟩
  · intro terms mem
    rcases List.mem_pair.mp mem with rfl | rfl
    · exact ageValid
    · exact nameValid
  · exact ⟨by decide, by rfl⟩

end Querent
