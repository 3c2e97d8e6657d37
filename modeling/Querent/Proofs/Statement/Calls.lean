import Querent.Proofs.Statement.Template

/-! Calls to a compiler, one after another; a call that fails leaves a compiler as good as new. -/

namespace Querent

/-- What is asked of a compiler; what is compiled comes with the way of escaping its values. -/
inductive CompilerCall
  /-- A clause, which may be announced as a HAVING clause. -/
  | clause (announced : Bool) (escape : Escape) (conditions : List Condition)
  | statement (escape : Escape) (statement : Statement)
  | clear
  /-- All that is pending, for a statement that is run. -/
  | take
  | setPrepared (on : Bool)

/-- What a compiler gives back to a call. -/
inductive CompilerAnswer
  | clause (made : Except ClauseFault Clause)
  | statement (made : Except ClauseFault String)
  | taken (values : List Value)
  | done

/-- Whether a call failed. -/
def CompilerAnswer.failed : CompilerAnswer → Bool
  | clause (.error _) => true
  | statement (.error _) => true
  | _ => false

namespace Compiler

/-- A call is made to a compiler. -/
def serve (compiler : Compiler) : CompilerCall → CompilerAnswer × Compiler
  | .clause announced escape conditions =>
    let made := if announced then compiler.compileHaving escape conditions
      else compiler.compile escape conditions
    (.clause made.1, made.2)
  | .statement escape statement =>
    let made := statement.assemble escape compiler
    (.statement made.1, made.2)
  | .clear => (.done, compiler.clear)
  | .take => (.taken compiler.pending, compiler.clear)
  | .setPrepared on => (.done, { compiler with prepared := on })

/-- Calls are made to a compiler one after another. -/
def play (compiler : Compiler) : List CompilerCall → List CompilerAnswer × Compiler
  | [] => ([], compiler)
  | call :: later =>
    let served := compiler.serve call
    let rest := served.2.play later
    (served.1 :: rest.1, rest.2)

variable (compiler : Compiler) (escape : Escape) (conditions : List Condition)

/-- A clause that does not compile leaves nothing pending, and no HAVING clause announced. -/
theorem compile_failed {fault : ClauseFault} {after : Compiler}
    (failed : compiler.compile escape conditions = (.error fault, after)) :
    after = .fresh compiler.prepared := by
  unfold compile at failed
  dsimp only at failed
  -- A clause that is made is no fault.
  split at failed
  · cases failed
  · cases failed
    rfl

/-- A clause that compiles is of the kind that was announced, and uses the announcement up. -/
theorem compile_made {clause : Clause} {after : Compiler}
    (made : compiler.compile escape conditions = (.ok clause, after)) :
    clause.kind = Assembly.nextKind compiler ∧
      after = { compiler with pending := after.pending, havingNext := false } := by
  obtain ⟨bound, -, rfl, rfl⟩ := Assembly.eq_of_compile made
  exact ⟨rfl, rfl⟩

end Compiler

namespace Assembly

variable {α β : Type}

/-- Whether a step changes only what is pending while no HAVING clause is announced, be it that the
step gives a result or fails. -/
structure Tidy (step : Assembly α) : Prop where
  left : ∀ before : Compiler, before.havingNext = false →
    (step.run.run before).2 = { before with pending := (step.run.run before).2.pending }

/-- A step that leaves the compiler as it is, is tidy. -/
theorem tidy_of_still {step : Assembly α}
    (still : ∀ before : Compiler, (step.run.run before).2 = before) : Tidy step := by
  constructor
  intro before _
  rw [still]

/-- A result changes nothing, and neither does a fault. -/
theorem tidy_pure (result : α) : Tidy (pure result) :=
  tidy_of_still fun _ => rfl

/-- A fault changes nothing. -/
theorem tidy_throw (fault : ClauseFault) : Tidy (throw fault : Assembly α) :=
  tidy_of_still fun _ => rfl

/-- Tidy steps one after another are tidy. -/
theorem Tidy.bind {step : Assembly α} {next : α → Assembly β} (tidy : Tidy step)
    (follows : ∀ between, Tidy (next between)) : Tidy (step >>= next) := by
  constructor
  intro before unannounced
  have first := tidy.left before unannounced
  rw [run_bind]
  generalize step.run.run before = ran at first ⊢
  rcases ran with ⟨fault | between, middle⟩
  · exact first
  · -- The second step begins with what the first one left, where nothing is announced either.
    dsimp only at first ⊢
    have unannounced' : middle.havingNext = false := by
      rw [first]
      exact unannounced
    rw [(follows between).left middle unannounced', first]

/-- A required table changes nothing. -/
theorem tidy_requireTable (table : String) : Tidy (requireTable table) := by
  unfold requireTable
  split
  · exact tidy_throw _
  · exact tidy_pure _

/-- Required assignments change nothing. -/
theorem tidy_requireAssignments (values : Assignments) : Tidy (requireAssignments values) := by
  unfold requireAssignments
  split
  · exact tidy_throw _
  · exact tidy_pure _

variable (escape : Escape)

/-- Assigned values are pending, and nothing else is changed. -/
theorem tidy_assign (values : Assignments) : Tidy (assign escape values) :=
  ⟨fun _ _ => rfl⟩

/-- Conditions are compiled as a clause that was not announced. -/
theorem tidy_conditions (args : List Condition) : Tidy (conditions escape args) := by
  constructor
  intro before unannounced
  -- What a builder does with conditions to the compiler is what compiling a clause does.
  have run : ((conditions escape args).run.run before).2 = (before.compile escape args).2 := by
    unfold conditions
    simp only [ExceptT.run_mk, StateT.run]
    split <;> next compiled => rw [compiled]
  rw [run]
  -- A fault leaves a fresh compiler, whose pending values are none; a clause leaves all else.
  cases compiled : before.compile escape args with
  | mk outcome after =>
    cases outcome with
    | error fault =>
      obtain rfl := before.compile_failed escape args compiled
      rw [Compiler.fresh, ← unannounced]
    | ok clause =>
      have left := (before.compile_made escape args compiled).2
      rw [← unannounced] at left
      exact left

/-- What ends a selection is passed on, or compiled. -/
theorem tidy_modifiers (args : List Condition) : Tidy (modifiers escape args) := by
  -- Fragments that are passed on are checked and nothing else.
  unfold modifiers
  split
  · split
    · exact tidy_pure _
    · exact tidy_throw _
  · exact tidy_conditions escape args

/-- An insertion requires, assigns, and puts its text together. -/
theorem tidy_insertion (verb table : String) (values : Assignments) :
    Tidy (insertion escape verb table values) :=
  (tidy_requireTable table).bind fun _ => (tidy_requireAssignments values).bind fun _ =>
    (tidy_assign escape values).bind fun _ => tidy_pure _

/-- A selection requires its table, and puts a head in front of what ends it. -/
theorem tidy_selection (table : String) (columns : List String) (args : List Condition) :
    Tidy (selection escape table columns args) :=
  (tidy_requireTable table).bind fun _ => (tidy_modifiers escape args).bind fun _ => tidy_pure _

/-- Every statement is built in tidy steps. -/
theorem tidy_build (statement : Statement) : Tidy (build escape statement) := by
  -- Each builder is a few checks, assigned values and conditions, in its own order.
  cases statement with
  | select table columns args => exact tidy_selection escape table columns args
  | createSelect table columns source args =>
    exact (tidy_requireTable source).bind fun _ => (tidy_requireTable table).bind fun _ =>
      (tidy_modifiers escape args).bind fun _ => tidy_pure _
  | selectInto table columns source args =>
    exact (tidy_requireTable source).bind fun _ => (tidy_requireTable table).bind fun _ =>
      (tidy_modifiers escape args).bind fun _ => tidy_pure _
  | insert table values => exact tidy_insertion escape "INSERT" table values
  | replace table values => exact tidy_insertion escape "REPLACE" table values
  | update table values args =>
    exact (tidy_requireTable table).bind fun _ => (tidy_requireAssignments values).bind fun _ =>
      (tidy_assign escape values).bind fun _ => (tidy_conditions escape args).bind fun _ =>
        tidy_pure _
  | delete table args =>
    exact (tidy_requireTable table).bind fun _ => (tidy_conditions escape args).bind fun _ =>
      tidy_pure _
  | insertSelect table columns source sourceColumns args =>
    exact (tidy_requireTable table).bind fun _ =>
      (tidy_selection escape source sourceColumns args).bind fun _ => tidy_pure _

end Assembly

namespace Compiler

variable {compiler after : Compiler} {escape : Escape}

/-- Assembling a statement changes only what is pending while no HAVING clause is announced, and
leaves nothing pending if it fails. -/
theorem assemble_left (unannounced : compiler.havingNext = false) (statement : Statement) :
    (statement.assemble escape compiler).2 =
        { compiler with pending := (statement.assemble escape compiler).2.pending } ∧
      ∀ fault, (statement.assemble escape compiler).1 = .error fault →
        (statement.assemble escape compiler).2 = .fresh compiler.prepared := by
  -- The steps of the builder change what is pending at most, up to the end or to a fault.
  have left := (Assembly.tidy_build escape statement).left compiler unannounced
  unfold Statement.assemble
  generalize (Assembly.build escape statement).run.run compiler = ran at left ⊢
  rcases ran with ⟨fault | text, after⟩
  · -- What was pushed before the fault is cleared.
    dsimp only at left ⊢
    rw [left, clear]
    refine ⟨rfl, fun _ _ => ?_⟩
    rw [fresh, unannounced]
  · exact ⟨left, fun _ failed => nomatch failed⟩

/-- Between calls, no HAVING clause is announced. -/
theorem serve_unannounced (unannounced : compiler.havingNext = false) (call : CompilerCall) :
    (compiler.serve call).2.havingNext = false := by
  -- The only call with an announcement uses it up itself.
  cases call with
  | clause announced escape conditions =>
    -- The announcement is used up by the clause that it comes with, which may fail.
    have used : ∀ before : Compiler, (before.compile escape conditions).2.havingNext = false := by
      intro before
      cases compiled : before.compile escape conditions with
      | mk outcome after =>
        cases outcome with
        | error fault =>
          rw [before.compile_failed escape conditions compiled]
          rfl
        | ok clause => rw [(before.compile_made escape conditions compiled).2]
    cases announced with
    | true => exact used _
    | false => exact used compiler
  | statement escape statement =>
    have left := (@assemble_left compiler escape unannounced statement).1
    rw [serve, left]
    exact unannounced
  | clear => exact unannounced
  | take => exact unannounced
  | setPrepared on => exact unannounced

/-- After any calls, no HAVING clause is announced. -/
theorem play_unannounced (unannounced : compiler.havingNext = false) (calls : List CompilerCall) :
    (compiler.play calls).2.havingNext = false := by
  -- Each call starts where the earlier ones left the compiler.
  induction calls generalizing compiler with
  | nil => exact unannounced
  | cons call later ih => exact ih (serve_unannounced unannounced call)

/-- A call that fails leaves a fresh compiler in the same mode. -/
theorem serve_failed (unannounced : compiler.havingNext = false) {call : CompilerCall}
    (failed : (compiler.serve call).1.failed = true) :
    (compiler.serve call).2 = .fresh compiler.prepared := by
  -- Only clauses and statements fail.
  cases call with
  | clause announced escape conditions =>
    -- The mode is that of the compiler, whether the clause was announced or not.
    have cleared : ∀ before : Compiler, before.prepared = compiler.prepared →
        (CompilerAnswer.clause (before.compile escape conditions).1).failed = true →
        (before.compile escape conditions).2 = .fresh compiler.prepared := by
      intro before mode failed
      cases compiled : before.compile escape conditions with
      | mk outcome after =>
        rw [compiled] at failed
        cases outcome with
        | error fault => rw [before.compile_failed escape conditions compiled, mode]
        | ok clause => cases failed
    cases announced with
    | true => exact cleared _ rfl failed
    | false => exact cleared compiler rfl failed
  | statement escape statement =>
    have left := (@assemble_left compiler escape unannounced statement).2
    rw [serve] at failed ⊢
    dsimp only at failed ⊢
    cases made : (statement.assemble escape compiler).1 with
    | error fault => exact left fault made
    | ok text =>
      rw [made] at failed
      cases failed
  | clear => cases failed
  | take => cases failed
  | setPrepared on => cases failed

/-- After any calls to a new compiler, a call that fails leaves a new compiler in the same mode, so
that all later calls go as they go with a new one. A clause that compiles is announced as a HAVING
clause if the call for it was, and no statement is written with the word of an announced one. -/
theorem fresh_of_failed (prepared : Bool) (calls : List CompilerCall) :
    let compiler := ((fresh prepared).play calls).2
    (∀ call, (compiler.serve call).1.failed = true →
      (compiler.serve call).2 = .fresh compiler.prepared ∧
        ∀ later, (compiler.serve call).2.play later = (fresh compiler.prepared).play later) ∧
    (∀ announced escape conditions clause,
      (compiler.serve (.clause announced escape conditions)).1 = .clause (.ok clause) →
        clause.kind = if announced then .having else .filter) ∧
    ∀ escape (statement : Statement) sql,
      (compiler.serve (.statement escape statement)).1 = .statement (.ok sql) →
        sql = ((statement.template .filter).write (compiler.binding escape)
          compiler.pending.length).text := by
  intro compiler
  -- The first two laws rest on this: nothing is announced between calls.
  have unannounced : compiler.havingNext = false := play_unannounced rfl calls
  refine ⟨?_, ?_, ?_⟩
  · intro call failed
    have renewed := serve_failed unannounced failed
    exact ⟨renewed, fun later => by rw [renewed]⟩
  · intro announced escape conditions clause made
    have kind : ∀ before : Compiler, (before.compile escape conditions).1 = .ok clause →
        clause.kind = Assembly.nextKind before := fun before compiled =>
      (before.compile_made escape conditions (Prod.ext compiled rfl)).1
    -- Between calls the clause is a filter, unless it is announced just now.
    cases announced with
    | true => exact kind _ (CompilerAnswer.clause.inj made)
    | false =>
      rw [kind compiler (CompilerAnswer.clause.inj made), Assembly.nextKind, unannounced]
  · intro escape statement sql made
    have assembled : statement.assemble escape compiler = (.ok sql, _) :=
      Prod.ext (CompilerAnswer.statement.inj made) rfl
    have written := (assemble_eq_written assembled).1
    rw [Assembly.nextKind, unannounced] at written
    exact written

/-- An update fails at its pattern, when a value of a clause and one of its own are pending already.
A HAVING clause behind it is numbered from the start, and an update behind that is a plain one. -/
theorem fresh_of_failed_update :
    let id : Comparison := ⟨"id", some "=", .single (.int 1), none, none⟩
    let name : Comparison := ⟨"name", some "like", .single (.text "bob"), none, none⟩
    let update (terms : Comparison) : Statement :=
      .update "t" [("a", .text "x")] [.comparison terms]
    let filter := CompilerCall.clause false doubleQuotes [.comparison id]
    let failing := CompilerCall.statement doubleQuotes (update name)
    let announced := CompilerCall.clause true doubleQuotes [.comparison id]
    let waiting : Compiler := ⟨true, [.int 1], false⟩
    let having : Clause := ⟨.having, "HAVING id = ?1", 0, 1⟩
    let sql := "UPDATE t SET a = ?2 WHERE id = ?3"
    ((fresh true).play [filter]).2 = waiting ∧ (waiting.serve failing).1.failed = true ∧
      (waiting.serve failing).2 = fresh true ∧
      (fresh true).serve announced = (.clause (.ok having), waiting) ∧ having.kind = .having ∧
      (waiting.serve (.statement doubleQuotes (update id))).1 = .statement (.ok sql) ∧
      sql = (((update id).template .filter).write (waiting.binding doubleQuotes) 1).text := by
  intro id name update filter failing announced waiting having sql
  have clause : (fresh true).compile doubleQuotes [.comparison id] =
      (.ok ⟨.filter, "WHERE id = ?1", 0, 1⟩, waiting) := by
    simp only [id, waiting]
    rfl
  have filtered : ((fresh true).play [filter]).2 = waiting := by
    simp only [filter, play, serve, Bool.false_eq_true, if_false, clause]
  have fault : (update name).assemble doubleQuotes waiting =
      (.error (.missingWildcard "LIKE" "name"), fresh true) := by
    simp only [update, name, waiting]
    rfl
  have failed : (waiting.serve failing).1.failed = true := by
    rw [serve, fault]
    rfl
  have compiled : (fresh true).compileHaving doubleQuotes [.comparison id] =
      (.ok having, waiting) := by
    simp only [id, having, waiting]
    rfl
  have made : (fresh true).serve announced = (.clause (.ok having), waiting) := by
    rw [serve, if_pos rfl, compiled]
  have assembled : (update id).assemble doubleQuotes waiting =
      (.ok sql, ⟨true, [.int 1, .text "x", .int 1], false⟩) := by
    simp only [update, id, sql, waiting]
    rfl
  have given : (waiting.serve (.statement doubleQuotes (update id))).1 = .statement (.ok sql) := by
    rw [serve, assembled]
  obtain ⟨renewed, -, written⟩ := fresh_of_failed true [filter]
  rw [filtered] at renewed written
  exact ⟨filtered, failed, (renewed failing failed).1, made,
    (fresh_of_failed true []).2.1 true doubleQuotes _ having (congrArg Prod.fst made), given,
    written doubleQuotes (update id) sql given⟩

end Compiler

end Querent
