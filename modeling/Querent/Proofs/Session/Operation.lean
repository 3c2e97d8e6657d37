import Querent.Proofs.Session.Outcome
import Querent.Proofs.Statement.Calls
import Querent.Session.Reader
import Querent.Session.Statement

/-! Operations of a session, and histories of them while time passes and files change. -/

namespace Querent

/-- What is asked of a session. -/
inductive Operation
  | connect
  | disconnect
  | createCache (directory : Option String)
  /-- A clause, which may be announced as a HAVING clause. -/
  | clause (announced : Bool) (conditions : List Condition)
  /-- The text of a selection, which is not run. -/
  | selectionText (table : String) (columns : List String) (modifiers : List Condition)
  | query (sql : String)
  | queryWith (sql : String) (values : List Value)
  /-- A statement that is built and run. -/
  | build (statement : Statement)
  | getValue (sql : Option String) (column row : Nat)
  | getRow (sql : Option String) (shape : Shape) (row : Nat)
  | getColumn (sql : Option String) (column : Nat)
  | getResults (sql : Option String) (shape : Shape)
  | flush
  | clearPending
  | setPrepared (on : Bool)
  | setShowErrors (on : Bool)
  | setDebug (on : Bool)
  | setCacheQueries (on : Bool)
  | setCacheInserts (on : Bool)
  | count (all increase : Bool)

/-- What a session gives back for an operation that does not fail. -/
inductive Answer
  | done
  | clause (clause : Clause)
  | text (sql : String)
  | result (result : QueryResult)
  | rows (set : ResultSet)
  | value (value : Option Value)
  | row (row : Option RowView)
  | column (values : List (Option Value))
  | allRows (rows : RowsView)
  | number (count : Nat)

namespace Operation

/-- The values that an operation brings along. -/
def offers (prepared : Bool) : Operation → List Value
  | clause _ conditions => if prepared then conditions.flatMap Condition.bound else []
  | selectionText _ _ modifiers => if prepared then modifiers.flatMap Condition.bound else []
  | build statement => if prepared then statement.bound else []
  | queryWith _ values => values
  | _ => []

/-- Whether an operation leaves nothing waiting: it runs a statement, fails to build one, or clears
what waits. -/
def empties (failed : Bool) : Operation → Bool
  | query _ => true
  | queryWith _ _ => true
  | build _ => true
  | flush => true
  | clearPending => true
  | clause _ _ => failed
  | selectionText _ _ _ => failed
  | getValue sql _ _ => sql.isSome
  | getRow sql _ _ => sql.isSome
  | getColumn sql _ => sql.isSome
  | getResults sql _ => sql.isSome
  | _ => false

/-- The values that wait behind an operation. -/
def leaves (prepared failed : Bool) (waiting : List Value) (operation : Operation) : List Value :=
  if operation.empties failed then [] else waiting ++ operation.offers prepared

/-- The values that an operation hands over with a statement that it runs: its own behind those that
wait, unless it has a list of its own. -/
def hands (prepared : Bool) (waiting : List Value) : Operation → List Value
  | queryWith _ values => values
  | operation => waiting ++ operation.offers prepared

end Operation

namespace Session

variable {σ α β : Type}

/-- Whether a step failed. -/
def Step.failed (step : Step σ α) : Bool :=
  match step.1 with
  | .error _ => true
  | .ok _ => false

/-- A step with another answer. -/
def Step.map (give : α → β) (step : Step σ α) : Step σ β :=
  (step.1.map give, step.2)

/-- An operation is asked of a session. -/
def serve (session : Session σ) : Operation → Step σ Answer
  | .connect => Step.map (fun _ => .done) session.connect
  | .disconnect => Step.map (fun _ => .done) session.disconnect
  | .createCache directory => Step.map (fun _ => .done) (session.createCache directory)
  | .clause announced conditions =>
    Step.map .clause (if announced then session.having conditions else session.filter conditions)
  | .selectionText table columns modifiers =>
    Step.map .text (session.assemble (.select table columns modifiers))
  | .query sql => Step.map .result (session.query sql)
  | .queryWith sql values => Step.map .result (session.queryWith sql values)
  | .build (.select table columns modifiers) =>
    Step.map .rows (session.selecting table columns modifiers)
  | .build statement => Step.map .result (session.carryOut statement)
  | .getValue sql column row => Step.map .value (session.getValue sql column row)
  | .getRow sql shape row => Step.map .row (session.getRow sql shape row)
  | .getColumn sql column => Step.map .column (session.getColumn sql column)
  | .getResults sql shape => Step.map .allRows (session.getResults sql shape)
  | .flush => (.ok .done, session.flush)
  | .clearPending => (.ok .done, session.clearPending)
  | .setPrepared on => (.ok .done, session.setPrepared on)
  | .setShowErrors on => (.ok .done, session.setShowErrors on)
  | .setDebug on => (.ok .done, session.setDebug on)
  | .setCacheQueries on => (.ok .done, session.setCacheQueries on)
  | .setCacheInserts on => (.ok .done, session.setCacheInserts on)
  | .count all increase =>
    let counted := session.count all increase
    (.ok (.number counted.1), counted.2)

/-- The statement that an operation runs, as it was given or is built, if there is one. -/
def statement? (session : Session σ) : Operation → Option String
  | .query sql => some sql
  | .queryWith sql _ => some sql
  | .build statement => (session.assemble statement).1.toOption
  | .getValue sql _ _ => sql
  | .getRow sql _ _ => sql
  | .getColumn sql _ => sql
  | .getResults sql _ => sql
  | _ => none

/-- What a session meets: an operation, or that it is another time with other files. -/
inductive Event
  | ask (operation : Operation)
  | pass (now : Int) (disk : Disk)

/-- A session after what it meets. -/
def meet (session : Session σ) : Event → Session σ
  | .ask operation => (session.serve operation).2
  | .pass now disk => { session with now := now, disk := disk }

/-- A session after all that it meets; the latest is the first of the list. -/
def after (session : Session σ) : List Event → Session σ
  | [] => session
  | event :: earlier => (session.after earlier).meet event

/-- Another answer leaves the session as it is. -/
@[simp] theorem Step.map_snd (give : α → β) (step : Step σ α) : (Step.map give step).2 = step.2 :=
  rfl

/-- Another answer makes a step fail no more and no less. -/
@[simp] theorem Step.map_failed (give : α → β) (step : Step σ α) :
    (Step.map give step).failed = step.failed := by
  obtain ⟨outcome, session⟩ := step
  -- A failure has no answer to be changed.
  cases outcome <;> rfl

/-- Another answer makes no failure. -/
theorem Step.error_of_map {give : α → β} {step : Step σ α} {failure : Failure}
    (failed : (Step.map give step).1 = .error failure) : step.1 = .error failure := by
  obtain ⟨outcome, session⟩ := step
  cases outcome with
  | error other => exact congrArg Except.error (Except.error.inj failed)
  | ok answer => cases failed

/-- The answer may stay as it is. -/
theorem Step.map_id (step : Step σ α) : Step.map id step = step := by
  obtain ⟨outcome, session⟩ := step
  cases outcome <;> rfl

/-- A step that only answers by the session leaves it as it is. -/
theorem andThen_answer (step : Step σ α) (give : α → Session σ → β) :
    (step.andThen fun answer session => (.ok (give answer session), session)) =
      Step.map (fun answer => give answer step.2) step := by
  obtain ⟨outcome, session⟩ := step
  cases outcome <;> rfl

/-- Whether a step of a compiler adds values to those that are pending, or clears them if it fails.
-/
structure Adds (compiler : Compiler) (step : Except ClauseFault α × Compiler)
    (values : List Value) : Prop where
  failed : ∀ fault, step.1 = .error fault → step.2.pending = []
  made : ∀ answer, step.1 = .ok answer → step.2.pending = compiler.pending ++ values

/-- A clause adds the values that it binds. -/
theorem adds_compile (compiler : Compiler) (escape : Escape) (conditions : List Condition) :
    Adds compiler (compiler.compile escape conditions)
      (if compiler.prepared then conditions.flatMap Condition.bound else []) := by
  cases compiled : compiler.compile escape conditions with
  | mk outcome after =>
    -- A fault leaves a fresh compiler, and a clause has the values of its template.
    constructor
    · rintro fault rfl
      rw [compiler.compile_failed escape conditions compiled]
      rfl
    · rintro clause rfl
      obtain ⟨bound, inner, -, pending⟩ := Assembly.exists_of_compile compiled
      obtain ⟨rfl, values⟩ := Assembly.compileClause_eq_write inner
      rw [pending, ← values, Template.write, Compiler.binding]
      split <;> rfl

/-- A clause that is announced adds its values as any other does. -/
theorem adds_compileHaving (compiler : Compiler) (escape : Escape) (conditions : List Condition) :
    Adds compiler (compiler.compileHaving escape conditions)
      (if compiler.prepared then conditions.flatMap Condition.bound else []) :=
  have adds := adds_compile { compiler with havingNext := true } escape conditions
  ⟨adds.failed, adds.made⟩

/-- A statement adds the values that it binds. -/
theorem adds_assemble (compiler : Compiler) (escape : Escape) (statement : Statement) :
    Adds compiler (statement.assemble escape compiler)
      (if compiler.prepared then statement.bound else []) := by
  cases assembled : statement.assemble escape compiler with
  | mk outcome after =>
    -- A fault clears what is pending, and a text has the values of its template.
    constructor
    · rintro fault rfl
      unfold Statement.assemble at assembled
      split at assembled
      · cases assembled
      · cases assembled
        rfl
    · rintro sql rfl
      obtain ⟨-, pending, values⟩ := assemble_eq_written assembled
      rw [pending, ← values, Template.write, Compiler.binding]
      split <;> rfl

/-- Whether a step of a session runs a statement with values and answers by what that gives, where
before the run nothing is left pending and only calls are remembered. -/
def Runs (session : Session σ) (step : Step σ α) (sql : String) (values : List Value) : Prop :=
  ∃ (compiler : Compiler) (lastCall : Option String) (calls : List String)
    (answer : QueryResult → α), step = Step.map answer (Session.run { session with
      compiler := compiler.clear, record.lastCall := lastCall, record.calls := calls } sql values)

/-- A query is run with what is pending. -/
theorem runs_query (session : Session σ) (sql : String) :
    session.Runs (session.query sql) sql session.compiler.pending :=
  ⟨session.compiler, _, _, id, (Step.map_id _).symm⟩

/-- A query with values is run with those. -/
theorem runs_queryWith (session : Session σ) (sql : String) (values : List Value) :
    session.Runs (session.queryWith sql values) sql values :=
  ⟨session.compiler, _, _, id, (Step.map_id _).symm⟩

/-- Another answer takes no other run. -/
theorem Runs.map {session : Session σ} {step : Step σ α} {sql : String} {values : List Value}
    (runs : session.Runs step sql values) (give : α → β) :
    session.Runs (Step.map give step) sql values := by
  obtain ⟨compiler, lastCall, calls, answer, rfl⟩ := runs
  refine ⟨compiler, lastCall, calls, give ∘ answer, ?_⟩
  -- The answers are given one behind the other.
  generalize Session.run _ sql values = ran
  obtain ⟨outcome, after⟩ := ran
  cases outcome <;> rfl

/-- A reading call with a statement is a query of it, and answers by the session after that. -/
theorem runs_reading (session : Session σ) (name sql : String) (others : List String)
    (give : Session σ → α) :
    session.Runs (((session.logReading name (some sql) others).queryIfGiven (some sql)).andThen
      fun _ session => (.ok (give session), session)) sql session.compiler.pending := by
  -- Behind the query only the answer is added, which reads the session and leaves it.
  rw [andThen_answer, queryIfGiven, andThen_answer]
  obtain ⟨compiler, lastCall, calls, answer, run⟩ :=
    (((session.logReading name (some sql) others).runs_query sql).map fun _ => ()).map fun _ =>
      give ((session.logReading name (some sql) others).query sql).2
  exact ⟨compiler, lastCall, calls, answer, run⟩

/-- A statement that can be built is run with its values behind those that are pending. -/
theorem runs_carryOut {session : Session σ} {statement : Statement} {sql : String}
    (built : (session.assemble statement).1.toOption = some sql) :
    session.Runs (session.carryOut statement) sql (session.compiler.pending ++
      if session.compiler.prepared then statement.bound else []) := by
  -- The query takes all that is pending behind the building, which added the own values.
  have adds := adds_assemble session.compiler session.escape statement
  unfold carryOut assemble at *
  generalize statement.assemble session.escape session.compiler = step at adds built ⊢
  obtain ⟨outcome, compiler⟩ := step
  cases outcome with
  | error fault => cases built
  | ok text =>
    obtain rfl := Option.some.inj built
    have pending : compiler.pending = _ := adds.made text rfl
    obtain ⟨compiler, lastCall, calls, answer, run⟩ :=
      runs_query { session with compiler := compiler } text
    rw [← pending]
    exact ⟨compiler, lastCall, calls, answer, run⟩

/-- A statement that is built and run leaves the session as it is behind the run, whatever form its
result is given in. -/
theorem serve_build (session : Session σ) (statement : Statement) :
    (session.serve (.build statement)).2 = (session.carryOut statement).2 := by
  -- A selection gives its rows in another form, and the others do not.
  cases statement with
  | select table columns modifiers =>
    rw [serve, selecting, andThen_answer, Step.map_snd, Step.map_snd, carryOut]
  | _ => simp only [serve, Step.map_snd]

/-- An operation that has a statement runs it with the values that it hands over. -/
theorem runs_serve {session : Session σ} {operation : Operation} {sql : String}
    (given : session.statement? operation = some sql) :
    session.Runs (session.serve operation) sql
      (operation.hands session.compiler.prepared session.compiler.pending) := by
  -- Most operations bring along no values.
  have alone : ∀ {step : Step σ Answer}, session.Runs step sql session.compiler.pending →
      session.Runs step sql (session.compiler.pending ++ []) := by
    intro step runs
    rwa [List.append_nil]
  -- Each operation with a statement is a query behind its own preparations.
  cases operation with
  | query text =>
    obtain rfl := Option.some.inj given
    exact alone ((session.runs_query text).map _)
  | queryWith text values =>
    obtain rfl := Option.some.inj given
    exact (session.runs_queryWith text values).map _
  | build statement =>
    have run := runs_carryOut given
    cases statement with
    | select table columns modifiers =>
      rw [serve, selecting, andThen_answer]
      exact (run.map _).map _
    | _ => exact run.map _
  | getValue text _ _ | getRow text _ _ | getColumn text _ | getResults text _ =>
    obtain rfl : text = some sql := given
    exact alone ((session.runs_reading _ sql _ _).map _)
  | _ => cases given

/-- What it means that a session is idle in a step: it connects or disconnects at most, what the
last statement gave is kept or forgotten, and these values are then pending. -/
structure Idle (session after : Session σ) (pending : List Value) : Prop where
  left : ∃ link compiler cacheConfig cache trace record disk, after = { session with
    link := link, compiler := compiler, cacheConfig := cacheConfig, cache := cache
    trace := trace, record := record, disk := disk }
  link : after.link = session.link ∨
    after.link = (session.backend.connect session.connection session.link).2 ∨
    after.link = (session.backend.disconnect session.link).2
  given : after.record.given = session.record.given ∨ after.record.given = .none
  pending : after.compiler.pending = pending

/-- A step of the compiler is idle. -/
theorem idle_compiled {session : Session σ} {step : Except ClauseFault α × Compiler}
    {values : List Value} (adds : Adds session.compiler step values) :
    session.Idle (session.compiled step).2
      (if (session.compiled step).failed then [] else session.compiler.pending ++ values) := by
  unfold compiled
  rw [noted_eq]
  refine ⟨⟨_, _, _, _, _, _, _, rfl⟩, .inl rfl, .inl (Record.given_failed _ _), ?_⟩
  obtain ⟨outcome, after⟩ := step
  cases outcome with
  | error fault => exact adds.failed fault rfl
  | ok answer => exact adds.made answer rfl

/-- Where an operation runs no statement, the session is idle. -/
theorem serve_idle {session : Session σ} {operation : Operation}
    (idle : session.statement? operation = none) :
    session.Idle (session.serve operation).2 (operation.leaves session.compiler.prepared
      (session.serve operation).failed session.compiler.pending) := by
  -- Most operations bring along no values.
  have alone : ∀ {after : Session σ}, session.Idle after session.compiler.pending →
      session.Idle after (session.compiler.pending ++ []) := by
    intro after idle
    rwa [List.append_nil]
  cases operation with
  | connect =>
    refine alone ?_
    rw [serve, Step.map_snd, Session.connect, noted_eq]
    unfold dial
    split
    · generalize tried : session.backend.connect session.connection session.link = step
      obtain ⟨outcome, link⟩ := step
      have reached : link = (session.backend.connect session.connection session.link).2 := by
        rw [tried]
      -- An open link begins a new count, and a failure is remembered.
      cases outcome <;> exact
        ⟨⟨_, _, _, _, _, _, _, rfl⟩, .inr (.inl reached), .inl (Record.given_failed _ _), rfl⟩
    · exact ⟨⟨_, _, _, _, _, _, _, rfl⟩, .inl rfl, .inl (Record.given_failed _ _), rfl⟩
  | disconnect =>
    refine alone ?_
    rw [serve, Step.map_snd, Session.disconnect]
    generalize tried : session.backend.disconnect session.link = step
    obtain ⟨outcome, link⟩ := step
    have closed : link = (session.backend.disconnect session.link).2 := by rw [tried]
    cases outcome <;>
      exact ⟨⟨_, _, _, _, _, _, _, rfl⟩, .inr (.inr closed), .inl rfl, rfl⟩
  | createCache directory =>
    refine alone ?_
    rw [serve, Step.map_snd, Session.createCache, noted_eq]
    dsimp only
    split <;> exact ⟨⟨_, _, _, _, _, _, _, rfl⟩, .inl rfl, .inl (Record.given_failed _ _), rfl⟩
  | clause announced conditions =>
    rw [serve, Step.map_snd, Step.map_failed]
    cases announced with
    | true => exact idle_compiled (adds_compileHaving session.compiler _ _)
    | false => exact idle_compiled (adds_compile session.compiler _ _)
  | selectionText table columns modifiers =>
    rw [serve, Step.map_snd, Step.map_failed]
    exact idle_compiled (adds_assemble session.compiler session.escape _)
  | query sql => cases idle
  | queryWith sql values => cases idle
  | build statement =>
    -- A statement that cannot be built is not run.
    have left := idle_compiled (adds_assemble session.compiler session.escape statement)
    have refused : (session.assemble statement).1.toOption = none := idle
    rw [serve_build, carryOut]
    change session.Idle (session.assemble statement).2
      (if (session.assemble statement).failed then [] else _) at left
    generalize session.assemble statement = step at left refused ⊢
    obtain ⟨outcome, after⟩ := step
    cases outcome with
    | error failure => exact left
    | ok text => cases refused
  | getValue sql _ _ | getRow sql _ _ | getColumn sql _ | getResults sql _ =>
    -- Without a statement, the last one is read.
    obtain rfl : sql = none := idle
    exact alone ⟨⟨_, _, _, _, _, _, _, rfl⟩, .inl rfl, .inl rfl, rfl⟩
  | flush => exact ⟨⟨_, _, _, _, _, _, _, rfl⟩, .inl rfl, .inr rfl, rfl⟩
  | clearPending => exact ⟨⟨_, _, _, _, _, _, _, rfl⟩, .inl rfl, .inl rfl, rfl⟩
  | count all increase =>
    cases increase <;> exact alone ⟨⟨_, _, _, _, _, _, _, rfl⟩, .inl rfl, .inl rfl, rfl⟩
  | _ => exact alone ⟨⟨_, _, _, _, _, _, _, rfl⟩, .inl rfl, .inl rfl, rfl⟩

/-- A new session has the backend and the link that it is given, and nothing behind it yet. -/
theorem new_of_start {backend : Backend σ} {link : σ} {config : SessionConfig} {disk : Disk}
    {now : Int} {session : Session σ}
    (started : start backend link config disk now = .ok session) :
    session.backend = backend ∧ session.link = link ∧ session.record = .fresh ∧
      session.compiler = .fresh config.prepared := by
  -- A configuration is refused or taken, and all else of a new session is fixed.
  unfold start SessionConfig.validate at started
  split at started
  · cases started
    exact ⟨rfl, rfl, rfl, rfl⟩
  · cases started

/-- No operation changes the backend of a session. -/
theorem backend_serve (session : Session σ) (operation : Operation) :
    (session.serve operation).2.backend = session.backend := by
  -- Neither a run nor any idle operation has another backend in what it leaves.
  cases given : session.statement? operation with
  | none =>
    obtain ⟨link, compiler, cacheConfig, cache, trace, record, disk, left⟩ :=
      (serve_idle given).left
    rw [left]
  | some sql =>
    obtain ⟨compiler, lastCall, calls, answer, ran⟩ := runs_serve given
    obtain ⟨link, disk, before, behind, fromCache, notices, left, -⟩ := run_left _ sql _
    rw [ran, Step.map_snd, left, finish_eq]

/-- Whatever a session meets, it has the backend that it was started with. -/
theorem backend_after (session : Session σ) (events : List Event) :
    (session.after events).backend = session.backend := by
  -- Time and files that change leave the backend, too.
  induction events with
  | nil => rfl
  | cons event earlier ih =>
    cases event with
    | ask operation => exact (backend_serve _ operation).trans ih
    | pass now disk => exact ih

end Session

end Querent
