import Querent.Backend.Scripted
import Querent.Proofs.Session.Errors

/-! The books of a session: which statements are counted, timed and reported, and which calls and
failures are logged, after whatever it meets. -/

namespace Querent

/-- How a query is remembered as a call. -/
def queryCall (sql : String) : String :=
  "query(\"" ++ sql ++ "\")"

/-- How a reading is remembered as a call. -/
def readingCall (name : String) (sql : Option String) (others : List String) : String :=
  name ++ "(" ++ joinWith ", " (("\"" ++ sql.getD "" ++ "\"") :: others) ++ ")"

namespace Record

/-- The record with calls remembered one after another. -/
def called (record : Record) (texts : List String) : Record :=
  texts.foldl Record.call record

/-- What a record shows of the calls: the last one, and the log. -/
def shownCalls (record : Record) : Option String × List String :=
  (record.lastCall, record.calls)

/-- Calls are logged in turn, and the latest of them is the last one. -/
theorem shownCalls_called (record : Record) (texts : List String) :
    (record.called texts).shownCalls =
      (texts.getLast?.or record.lastCall, texts.foldl logged record.calls) := by
  -- Each call is the last one until the next.
  induction texts generalizing record with
  | nil => rfl
  | cons text texts ih =>
    refine (ih (record.call text)).trans ?_
    -- Behind a call, the record shows that one until there is another.
    cases texts with
    | nil => rfl
    | cons next texts => simp [List.getLast?_cons, Record.call]

end Record

/-- An entry in the books: an operation of the past, with the session that it was asked of. -/
structure Entry (σ : Type) where
  before : Session σ
  operation : Operation

namespace Entry

variable {σ : Type}

/-- What became of an operation. -/
def step (entry : Entry σ) : Session.Step σ Answer :=
  entry.before.serve entry.operation

/-- The session behind an operation. -/
def after (entry : Entry σ) : Session σ :=
  entry.step.2

/-- The statement that an operation ran, in the style of the backend. -/
def statement? (entry : Entry σ) : Option String :=
  (entry.before.statement? entry.operation).map entry.before.backend.style.normalize

/-- Whether an operation was to count up. -/
def increases (entry : Entry σ) : Bool :=
  match entry.operation with
  | .count _ increase => increase
  | _ => false

/-- Whether an operation opened or closed the link. -/
def recounts (entry : Entry σ) : Bool :=
  match entry.operation with
  | .connect => !entry.step.failed
  | .disconnect => !entry.step.failed
  | _ => false

/-- Whether an operation emptied the log of calls. -/
def flushes (entry : Entry σ) : Bool :=
  match entry.operation with
  | .flush => true
  | _ => false

/-- The calls that an operation made: a reading and a query with values by itself, and a query of
the statement behind it. -/
def calls (entry : Entry σ) : List String :=
  let queries := (entry.before.statement? entry.operation).toList.map queryCall
  match entry.operation with
  | .queryWith sql values =>
    ["query_with(\"" ++ sql ++ "\", " ++ toString values.length ++ " params)"]
  | .getValue sql column row => readingCall "get_var" sql [toString column, toString row] :: queries
  | .getRow sql shape row => readingCall "get_row" sql [shape.word, toString row] :: queries
  | .getColumn sql column => readingCall "get_col" sql [toString column] :: queries
  | .getResults sql shape => readingCall "get_results" sql [shape.word] :: queries
  | _ => queries

/-- The failures that an operation was remembered with: those around its statement with that, or
else its own with the last statement before it, unless it was to close the link. -/
def failures (entry : Entry σ) : List ErrorRecord :=
  match entry.statement? with
  | some statement =>
    let session := entry.before
    (session.runFailures statement
      (entry.operation.hands session.compiler.prepared session.compiler.pending)
      (failuresOf entry.step.1) entry.after.record.given).map fun failure =>
        ⟨failure.message, some statement⟩
  | none =>
    match entry.operation with
    | .disconnect => []
    | _ => (failuresOf entry.step.1).map fun failure =>
      ⟨failure.message, entry.before.record.lastQuery⟩

/-- How much an operation counted. -/
def tally (entry : Entry σ) : Nat :=
  entry.statement?.toList.length + entry.increases.toNat

/-- What an operation does to the books: its statement is timed, reported and counted, if it has
one, and the logs take its failures and its calls. -/
structure Booked (entry : Entry σ) : Prop where
  profile : entry.after.record.profile = entry.before.record.profile ++
    if entry.before.trace.profile then entry.statement?.toList else []
  reports : entry.after.traceLog.map Report.lastQuery =
    entry.before.traceLog.map Report.lastQuery ++
      if entry.before.trace.traceLog then entry.statement?.toList.map some else []
  timers : entry.before.record.timers = [] → entry.after.record.timers = []
  queries : entry.after.record.queries = entry.before.record.queries + entry.tally
  connectionQueries : entry.after.record.connectionQueries =
    if entry.recounts then 0 else entry.before.record.connectionQueries + entry.tally
  errors : entry.after.record.errors = entry.failures.foldl logged entry.before.record.errors
  calls : entry.after.record.calls =
    if entry.flushes then [] else entry.calls.foldl logged entry.before.record.calls
  profiling : entry.after.trace.profile = entry.before.trace.profile
  reporting : entry.after.trace.traceLog = entry.before.trace.traceLog

variable {entry : Entry σ}

/-- Where no statement is run, the books of statements are left as they are. -/
theorem booked_of_idle (idle : entry.statement? = none)
    (books : entry.after.record.profile = entry.before.record.profile ∧
      entry.after.traceLog = entry.before.traceLog ∧
      entry.after.record.timers = entry.before.record.timers ∧
      entry.after.trace.profile = entry.before.trace.profile ∧
      entry.after.trace.traceLog = entry.before.trace.traceLog)
    (queries : entry.after.record.queries = entry.before.record.queries + entry.increases.toNat)
    (connectionQueries : entry.after.record.connectionQueries =
      if entry.recounts then 0
      else entry.before.record.connectionQueries + entry.increases.toNat)
    (errors : entry.after.record.errors = entry.failures.foldl logged entry.before.record.errors)
    (calls : entry.after.record.calls =
      if entry.flushes then [] else entry.calls.foldl logged entry.before.record.calls) :
    entry.Booked := by
  obtain ⟨profile, reports, timers, profiling, reporting⟩ := books
  -- Nothing is counted but what was to be counted up.
  have tally : entry.tally = entry.increases.toNat := by
    rw [Entry.tally, idle]
    exact Nat.zero_add _
  refine ⟨?_, ?_, fun none => timers.trans none, ?_, ?_, errors, calls, profiling, reporting⟩
  · rw [profile, idle]
    simp
  · rw [reports, idle]
    simp
  · rw [queries, tally]
  · rw [connectionQueries, tally]

/-- An operation other than to close the link, which runs no statement, is remembered with its own
failure. -/
theorem failures_of_idle (idle : entry.statement? = none) (other : entry.operation ≠ .disconnect) :
    entry.failures = (failuresOf entry.step.1).map fun failure =>
      ⟨failure.message, entry.before.record.lastQuery⟩ := by
  rw [failures, idle]
  dsimp only
  -- Only a link that cannot be closed keeps its failure to itself.
  split
  · next closing => exact absurd closing other
  · rfl

/-- Where no statement is run, nothing counted and no call made, only the failure is remembered. -/
theorem booked_of_failed (idle : entry.statement? = none) (other : entry.operation ≠ .disconnect)
    (plain : entry.increases = false ∧ entry.recounts = false ∧ entry.flushes = false ∧
      entry.calls = [])
    (record : entry.after.record = entry.before.record.failed (failuresOf entry.step.1))
    (traceLog : entry.after.traceLog = entry.before.traceLog)
    (trace : entry.after.trace.profile = entry.before.trace.profile ∧
      entry.after.trace.traceLog = entry.before.trace.traceLog) : entry.Booked := by
  obtain ⟨increases, recounts, flushes, calls⟩ := plain
  -- A failure touches the log of errors and the last error, and no other book.
  have rest := entry.before.record.failed_eq (failuresOf entry.step.1)
  refine booked_of_idle idle ⟨?_, traceLog, ?_, trace⟩ ?_ ?_ ?_ ?_
  · rw [record, rest]
  · rw [record, rest]
  · rw [record, rest, increases]
    rfl
  · rw [record, rest, increases, recounts]
    rfl
  · rw [record, Record.errors_failed, failures_of_idle idle other, List.foldl_map]
  · rw [record, rest, calls, flushes]
    rfl

/-- A step whose failure is noted is remembered with it. -/
theorem booked_of_noted {α : Type} {step : Session.Step σ α} {give : α → Answer}
    (noted : entry.step = Session.Step.map give (Session.noted step))
    (kept : step.2.record = entry.before.record ∧ step.2.traceLog = entry.before.traceLog ∧
      step.2.trace = entry.before.trace)
    (idle : entry.statement? = none) (other : entry.operation ≠ .disconnect)
    (plain : entry.increases = false ∧ entry.recounts = false ∧ entry.flushes = false ∧
      entry.calls = []) : entry.Booked := by
  obtain ⟨record, traceLog, trace⟩ := kept
  -- To note a failure keeps the outcome of the step.
  have failures : failuresOf entry.step.1 = failuresOf step.1 := by
    rw [noted, Session.noted_eq]
    dsimp only [Session.Step.map]
    cases step.1 <;> rfl
  -- What it leaves is the session of the step with its failure in the record.
  have left : entry.after = { step.2 with record := step.2.record.failed (failuresOf step.1) } := by
    rw [after, noted, Session.Step.map_snd, Session.noted_eq]
  refine booked_of_failed idle other plain ?_ ?_ ?_
  · rw [left, failures, record]
  · rw [left, traceLog]
  · rw [left, trace]
    exact ⟨rfl, rfl⟩

end Entry

namespace Session

variable {σ : Type}

/-- An operation that opens or closes the link begins a new count, and leaves all else. -/
theorem booked_of_recounted {entry : Entry σ} (link : σ) (idle : entry.statement? = none)
    (counted : entry.increases = false ∧ entry.recounts = true ∧ entry.flushes = false ∧
      entry.calls = [])
    (failures : entry.failures = [])
    (left : entry.after = { entry.before with
      link := link, record := entry.before.record.recount }) : entry.Booked := by
  obtain ⟨increases, recounts, flushes, calls⟩ := counted
  -- Every book is read off the record, in which only the count since the link is new.
  refine Entry.booked_of_idle idle ?_ ?_ ?_ ?_ ?_ <;> rw [left]
  · exact ⟨rfl, rfl, rfl, rfl, rfl⟩
  · rw [increases]
    rfl
  · rw [recounts]
    rfl
  · rw [failures]
    rfl
  · rw [flushes, calls]
    rfl

/-- An attempt to open the link is booked. -/
theorem booked_connect (session : Session σ) : Entry.Booked ⟨session, .connect⟩ := by
  have step : Entry.step ⟨session, .connect⟩ = Step.map (fun _ => .done) (noted
    (session.dial.andThen fun _ session => (.ok (), session.recount))) := rfl
  -- The link is opened or not: only in the first case a new count begins.
  obtain ⟨link, dialed⟩ := session.dial_left
  rcases Step.andThen_cases session.dial fun _ session => (.ok (), session.recount)
    with ⟨failure, -, ran⟩ | ⟨_, -, ran⟩ <;> rw [ran, dialed] at step
  · refine Entry.booked_of_noted step ⟨rfl, rfl, rfl⟩ rfl (by simp) ⟨rfl, ?_, rfl, rfl⟩
    rw [Entry.recounts, step]
    rfl
  · refine booked_of_recounted link rfl ⟨rfl, ?_, rfl, rfl⟩ ?_ ?_
    · rw [Entry.recounts, step]
      rfl
    · rw [Entry.failures_of_idle rfl (by simp), step]
      rfl
    · rw [Entry.after, step]
      rfl

/-- An attempt to close the link is booked, without its failure. -/
theorem booked_disconnect (session : Session σ) : Entry.Booked ⟨session, .disconnect⟩ := by
  have step : Entry.step ⟨session, .disconnect⟩ = Step.map (fun _ => .done) (Step.andThen
    ((session.backend.disconnect session.link).1,
      { session with link := (session.backend.disconnect session.link).2 })
    fun _ session => (.ok (), session.recount)) := rfl
  generalize session.backend.disconnect session.link = closed at step
  obtain ⟨outcome, link⟩ := closed
  -- A link that cannot be closed leaves all books, the log of errors among them.
  cases outcome with
  | error failure =>
    have after : Entry.after ⟨session, .disconnect⟩ = { session with link := link } := by
      rw [Entry.after, step]
      rfl
    have recounts : Entry.recounts ⟨session, .disconnect⟩ = false := by
      rw [Entry.recounts, step]
      rfl
    refine Entry.booked_of_idle rfl ?_ ?_ ?_ ?_ ?_ <;> rw [after]
    · exact ⟨rfl, rfl, rfl, rfl, rfl⟩
    · rfl
    · rw [recounts]
      rfl
    · rfl
    · rfl
  | ok _ =>
    refine booked_of_recounted link rfl ⟨rfl, ?_, rfl, rfl⟩ rfl ?_
    · rw [Entry.recounts, step]
      rfl
    · rw [Entry.after, step]
      rfl

/-- A statement that cannot be built is booked with the failure of that. -/
theorem booked_of_refused {session : Session σ} {statement : Statement}
    (refused : (session.assemble statement).1.toOption = none) :
    Entry.Booked ⟨session, .build statement⟩ := by
  have idle : Entry.statement? ⟨session, .build statement⟩ = none := by
    rw [Entry.statement?]
    exact congrArg (Option.map session.backend.style.normalize) refused
  have calls : Entry.calls ⟨session, .build statement⟩ = [] := by
    rw [Entry.calls]
    exact congrArg (fun sql : Option String => sql.toList.map queryCall) refused
  -- The statement is never run, so that the failure of building it is the outcome.
  have step : Entry.step ⟨session, .build statement⟩ =
      Step.map (fun _ => .done) (session.assemble statement) := by
    rcases Step.andThen_cases (session.assemble statement) fun sql session => session.query sql
      with ⟨failure, failed, ran⟩ | ⟨sql, built, -⟩
    · have carried : session.carryOut statement = _ := ran
      rw [Entry.step, Step.map, failed]
      generalize (session.assemble statement).2 = behind at carried ⊢
      cases statement with
      | select table columns modifiers =>
        rw [serve, selecting, carried]
        rfl
      | _ =>
        rw [serve, carried]
        · rfl
        all_goals simp
    · rw [built] at refused
      cases refused
  exact Entry.booked_of_noted step ⟨rfl, rfl, rfl⟩ idle (by simp) ⟨rfl, rfl, rfl, calls⟩

/-- Where no statement is run, an operation is booked as such. -/
theorem booked_of_statement?_none {session : Session σ} {operation : Operation}
    (idle : session.statement? operation = none) : Entry.Booked ⟨session, operation⟩ := by
  have idle' : Entry.statement? ⟨session, operation⟩ = none := by
    rw [Entry.statement?, idle]
    rfl
  -- Steps that note their failures have one lemma, and links have their own.
  cases operation with
  | connect => exact session.booked_connect
  | disconnect => exact session.booked_disconnect
  | createCache directory =>
    refine Entry.booked_of_noted (by rw [Entry.step, serve, Session.createCache]) ?_ idle' (by simp)
      ⟨rfl, rfl, rfl, rfl⟩
    dsimp only
    split <;> exact ⟨rfl, rfl, rfl⟩
  | clause announced conditions =>
    cases announced with
    | true => exact Entry.booked_of_noted rfl ⟨rfl, rfl, rfl⟩ idle' (by simp) ⟨rfl, rfl, rfl, rfl⟩
    | false => exact Entry.booked_of_noted rfl ⟨rfl, rfl, rfl⟩ idle' (by simp) ⟨rfl, rfl, rfl, rfl⟩
  | selectionText table columns modifiers =>
    exact Entry.booked_of_noted rfl ⟨rfl, rfl, rfl⟩ idle' (by simp) ⟨rfl, rfl, rfl, rfl⟩
  | query sql => cases idle
  | queryWith sql values => cases idle
  | build statement => exact booked_of_refused idle
  | getValue sql _ _ | getRow sql _ _ | getColumn sql _ | getResults sql _ =>
    -- Without a statement, only the reading is remembered.
    obtain rfl : sql = none := idle
    exact Entry.booked_of_idle idle' ⟨rfl, rfl, rfl, rfl, rfl⟩ rfl rfl rfl rfl
  | flush => exact Entry.booked_of_idle idle' ⟨rfl, rfl, rfl, rfl, rfl⟩ rfl rfl rfl rfl
  | count all increase =>
    cases increase <;>
      exact Entry.booked_of_idle idle' ⟨rfl, rfl, rfl, rfl, rfl⟩ rfl rfl rfl rfl
  | _ => exact Entry.booked_of_idle idle' ⟨rfl, rfl, rfl, rfl, rfl⟩ rfl rfl rfl rfl

section

variable (session : Session σ)

/-- To run a statement is no call. -/
theorem shownCalls_run (sql : String) (values : List Value) :
    (session.run sql values).2.record.shownCalls = session.record.shownCalls := by
  obtain ⟨link, disk, before, behind, fromCache, notices, left, -⟩ := session.run_left sql values
  rw [left, finish_eq, Record.failed_eq]
  rfl

/-- A query is remembered as a call. -/
theorem shownCalls_query (sql : String) :
    (session.query sql).2.record.shownCalls =
      (session.record.called [queryCall sql]).shownCalls := by
  rw [query, shownCalls_run]
  rfl

/-- A reading with a statement is remembered as a call, and so is the query behind it. -/
theorem shownCalls_reading {α : Type} (name sql : String) (others : List String)
    (give : Session σ → α) :
    (((session.logReading name (some sql) others).queryIfGiven (some sql)).andThen
      fun _ session => (.ok (give session), session)).2.record.shownCalls =
        (session.record.called
          [readingCall name (some sql) others, queryCall sql]).shownCalls := by
  rw [andThen_answer, queryIfGiven, andThen_answer, Step.map_snd, Step.map_snd, shownCalls_query]
  rfl

/-- A statement that can be built and is run is remembered as a query. -/
theorem shownCalls_carryOut {session : Session σ} {statement : Statement} {sql : String}
    (built : (session.assemble statement).1.toOption = some sql) :
    (session.carryOut statement).2.record.shownCalls =
      (session.record.called [queryCall sql]).shownCalls := by
  have kept : (session.assemble statement).2.record.shownCalls = session.record.shownCalls := by
    rw [assemble, compiled, noted_eq, Record.failed_eq]
    rfl
  unfold carryOut
  rcases Step.andThen_cases (session.assemble statement) fun sql session => session.query sql
    with ⟨failure, failed, -⟩ | ⟨text, made, ran⟩
  · rw [failed] at built
    cases built
  · rw [made] at built
    obtain rfl : text = sql := Option.some.inj built
    rw [ran, shownCalls_query, Record.shownCalls_called, Record.shownCalls_called]
    -- To build the statement leaves what is shown of the calls before it.
    exact congrArg (fun shown => (_, logged shown.2 _)) kept

end

/-- An operation that runs a statement is remembered as its calls, in their order. -/
theorem shownCalls_serve {session : Session σ} {operation : Operation} {sql : String}
    (given : session.statement? operation = some sql) :
    (session.serve operation).2.record.shownCalls =
      (session.record.called (Entry.calls ⟨session, operation⟩)).shownCalls := by
  cases operation with
  | query text => exact session.shownCalls_query text
  | queryWith text values =>
    rw [serve, Step.map_snd, queryWith, shownCalls_run]
    rfl
  | build statement =>
    rw [serve_build, shownCalls_carryOut given, Entry.calls, given]
    rfl
  | getValue text column row =>
    obtain rfl : text = some sql := given
    exact session.shownCalls_reading "get_var" sql [toString column, toString row] _
  | getRow text shape row =>
    obtain rfl : text = some sql := given
    exact session.shownCalls_reading "get_row" sql [shape.word, toString row] _
  | getColumn text column =>
    obtain rfl : text = some sql := given
    exact session.shownCalls_reading "get_col" sql [toString column] _
  | getResults text shape =>
    obtain rfl : text = some sql := given
    exact session.shownCalls_reading "get_results" sql [shape.word] _
  | _ => cases given

/-- A statement that is run is timed to its end, reported and counted, each once. -/
theorem books_run (session : Session σ) (sql : String) (values : List Value) :
    let statement := session.backend.style.normalize sql
    let after := (session.run sql values).2
    after.record.profile =
      session.record.profile ++ (if session.trace.profile then [statement] else []) ∧
    after.traceLog.map Report.lastQuery = session.traceLog.map Report.lastQuery ++
      (if session.trace.traceLog then [some statement] else []) ∧
    (session.record.timers = [] → after.record.timers = []) ∧
    after.record.queries = session.record.queries + 1 ∧
    after.record.connectionQueries = session.record.connectionQueries + 1 ∧
    after.trace = session.trace := by
  intro statement after
  obtain ⟨link, disk, before, behind, fromCache, notices, left, -⟩ := session.run_left sql values
  -- A run starts the record with the statement and finishes it, and failures leave these books.
  rw [finish_eq, Record.failed_eq] at left
  rw [show after = _ from left]
  refine ⟨?_, ?_, fun none => ?_, rfl, rfl, rfl⟩
  · dsimp only [Record.stop]
    split
    · rfl
    · exact (List.append_nil _).symm
  · dsimp only
    split
    · rw [List.map_append]
      rfl
    · exact (List.append_nil _).symm
  · -- The number of a statement is that of its timer, which is the only one.
    show ((session.record.queries + 1) :: session.record.timers).filter
      (· ≠ session.record.queries + 1) = []
    rw [none]
    simp

/-- An operation that runs a statement is booked as such. -/
theorem booked_of_statement?_some {session : Session σ} {operation : Operation} {sql : String}
    (given : session.statement? operation = some sql) : Entry.Booked ⟨session, operation⟩ := by
  have statement : Entry.statement? ⟨session, operation⟩ =
      some (session.backend.style.normalize sql) := by
    rw [Entry.statement?, given]
    rfl
  -- Whatever runs a statement counts nothing else, and leaves the counts and the log of calls.
  obtain ⟨increases, recounts, flushes⟩ : Entry.increases ⟨session, operation⟩ = false ∧
      Entry.recounts ⟨session, operation⟩ = false ∧ Entry.flushes ⟨session, operation⟩ = false := by
    cases operation <;> first | exact ⟨rfl, rfl, rfl⟩ | cases given
  have tally : Entry.tally ⟨session, operation⟩ = 1 := by
    rw [Entry.tally, statement, increases]
    rfl
  have calls : (session.serve operation).2.record.calls = _ :=
    (congrArg Prod.snd (shownCalls_serve given)).trans
      (congrArg Prod.snd (Record.shownCalls_called _ _))
  obtain ⟨compiler, lastCall, log, answer, ran⟩ := runs_serve given
  let ready : Session σ := { session with
    compiler := compiler.clear, record.lastCall := lastCall, record.calls := log }
  let values := operation.hands session.compiler.prepared session.compiler.pending
  have after : Entry.after ⟨session, operation⟩ = (ready.run sql values).2 := congrArg Prod.snd ran
  -- The answer of the operation is made of the outcome of the run, which has the same failure.
  have outcome : failuresOf (Entry.step ⟨session, operation⟩).1 =
      failuresOf (ready.run sql values).1 := by
    rw [Entry.step, ran]
    dsimp only [Step.map]
    cases (ready.run sql values).1 <;> rfl
  have errors := ready.errors_run sql values
  dsimp only at errors
  obtain ⟨profile, reports, timers, queries, connectionQueries, trace⟩ :=
    ready.books_run sql values
  rw [← after] at profile reports timers queries connectionQueries trace errors
  -- Each book is that of the run, with the one statement in it.
  refine ⟨?_, ?_, timers, ?_, ?_, ?_, ?_, ?_, ?_⟩
  · rw [statement]
    exact profile
  · rw [statement]
    exact reports
  · rw [tally]
    exact queries
  · rw [tally, recounts]
    exact connectionQueries
  · rw [Entry.failures, statement]
    dsimp only
    rw [outcome]
    exact errors
  · rw [flushes]
    exact calls
  · rw [trace]
  · rw [trace]

/-- Every operation is booked. -/
theorem booked (entry : Entry σ) : entry.Booked := by
  obtain ⟨session, operation⟩ := entry
  -- It runs a statement or does not.
  cases given : session.statement? operation with
  | none => exact booked_of_statement?_none given
  | some sql => exact booked_of_statement?_some given

/-- The operations that a session is asked for in what it meets, each with the session before it;
the latest is the last of the list. -/
def entries (session : Session σ) : List Event → List (Entry σ)
  | [] => []
  | .ask operation :: earlier => session.entries earlier ++ [⟨session.after earlier, operation⟩]
  | .pass _ _ :: earlier => session.entries earlier

/-- Whether the books of a session are those of some operations since it was new. -/
structure Books (session : Session σ) (entries : List (Entry σ)) : Prop where
  profile : session.record.profile = entries.filterMap Entry.statement?
  reports : session.traceLog.map Report.lastQuery = (entries.filterMap Entry.statement?).map some
  timers : session.record.timers = []
  queries : session.record.queries = (entries.map Entry.tally).sum
  connectionQueries : session.record.connectionQueries =
    ((entries.rtakeWhile fun entry => !entry.recounts).map Entry.tally).sum
  errors : session.record.errors = (entries.flatMap Entry.failures).rtake logCapacity
  calls : session.record.calls =
    ((entries.rtakeWhile fun entry => !entry.flushes).flatMap Entry.calls).rtake logCapacity
  profiling : session.trace.profile = true
  reporting : session.trace.traceLog = true

/-- One more operation is booked behind those before it. -/
theorem Books.concat (entry : Entry σ) {entries : List (Entry σ)}
    (books : entry.before.Books entries) : entry.after.Books (entries ++ [entry]) := by
  have booked := booked entry
  -- The statement of the entry comes behind those before.
  have statements : (entries ++ [entry]).filterMap Entry.statement? =
      entries.filterMap Entry.statement? ++ entry.statement?.toList := by
    rw [List.filterMap_append]
    cases shown : entry.statement? <;> simp [shown]
  -- Counts since an event start over where the entry is one, and else go on.
  constructor
  · rw [booked.profile, books.profile, books.profiling, statements, if_pos rfl]
  · rw [booked.reports, books.reports, books.reporting, statements, if_pos rfl, List.map_append]
  · exact booked.timers books.timers
  · rw [booked.queries, books.queries, List.map_append, List.sum_append]
    simp
  · rw [booked.connectionQueries, books.connectionQueries, List.rtakeWhile_concat]
    cases entry.recounts <;> simp
  · rw [booked.errors, books.errors, foldl_logged_rtake, List.flatMap_append]
    simp
  · rw [booked.calls, books.calls, foldl_logged_rtake, List.rtakeWhile_concat]
    cases entry.flushes <;> simp
  · rw [booked.profiling, books.profiling]
  · rw [booked.reporting, books.reporting]

/-- Whatever a session meets is booked behind what was. -/
theorem books_after {session : Session σ} (books : session.Books []) (events : List Event) :
    (session.after events).Books (session.entries events) := by
  -- One event is one entry at most, which is booked behind the earlier ones.
  induction events with
  | nil => exact books
  | cons event earlier ih =>
    cases event with
    | ask operation => exact Books.concat ⟨session.after earlier, operation⟩ ih
    | pass now disk =>
      -- Neither the time nor the files are in the books.
      exact ⟨ih.profile, ih.reports, ih.timers, ih.queries, ih.connectionQueries, ih.errors,
        ih.calls, ih.profiling, ih.reporting⟩

/-- The books of a new session that profiles and reports are those of no operation. -/
theorem books_of_start {backend : Backend σ} {link : σ} {config : SessionConfig} {disk : Disk}
    {now : Int} {session : Session σ}
    (started : start backend link config disk now = .ok session)
    (profiling : config.trace.profile = true) (reporting : config.trace.traceLog = true) :
    session.Books [] := by
  unfold start SessionConfig.validate at started
  split at started
  · cases started
    exact ⟨rfl, rfl, rfl, rfl, rfl, rfl, rfl, profiling, reporting⟩
  · cases started

/-- How many statements operations ran, and how often they were to count up besides. -/
def counted (entries : List (Entry σ)) : Nat :=
  (entries.filterMap Entry.statement?).length + entries.countP Entry.increases

/-- What operations counted one after another is what they counted in all. -/
theorem sum_tally (entries : List (Entry σ)) : (entries.map Entry.tally).sum = counted entries := by
  induction entries with
  | nil => rfl
  | cons entry entries ih =>
    rw [List.map_cons, List.sum_cons, ih, Entry.tally, counted, counted, List.countP_cons]
    -- A statement counts one, and so does what was to be counted up.
    cases shown : entry.statement? <;> cases entry.increases <;> simp [shown] <;> omega

/-- After whatever a new session meets that profiles and reports, the profile and the reports are of
the statements that were run, each once and in their order, by their text in the style of the
backend, and no timer is left. What is counted is these statements and how often it was counted up
besides, in all or since the link was last opened or closed. The log of errors has the last failures
that were remembered, and the log of calls the last calls since it was emptied. -/
theorem books_of_events {backend : Backend σ} {link : σ} {config : SessionConfig} {disk : Disk}
    {now : Int} {session : Session σ}
    (started : start backend link config disk now = .ok session)
    (profiling : config.trace.profile = true) (reporting : config.trace.traceLog = true)
    (events : List Event) :
    let entries := session.entries events
    let current := session.after events
    let statements := entries.filterMap Entry.statement?
    current.record.profile = statements ∧
      current.traceLog.map Report.lastQuery = statements.map some ∧
      current.record.timers = [] ∧
      (∀ increase, (current.count true increase).1 = counted entries + increase.toNat) ∧
      (∀ increase, (current.count false increase).1 =
        counted (entries.rtakeWhile fun entry => !entry.recounts) + increase.toNat) ∧
      current.record.errors = (entries.flatMap Entry.failures).rtake logCapacity ∧
      current.record.calls =
        ((entries.rtakeWhile fun entry => !entry.flushes).flatMap Entry.calls).rtake
          logCapacity := by
  intro entries current statements
  have books : current.Books entries :=
    books_after (books_of_start started profiling reporting) events
  refine ⟨books.profile, books.reports, books.timers, fun increase => ?_, fun increase => ?_,
    books.errors, books.calls⟩
  · -- To ask for a count may count up before it answers.
    rw [← sum_tally, ← books.queries]
    cases increase <;> rfl
  · rw [← sum_tally, ← books.connectionQueries]
    cases increase <;> rfl

/-- A clause is refused, rows are selected, the count goes up, the link is closed, a statement fails
to be read from over a new link, the log of calls is emptied and a row is inserted. -/
theorem books_of_events_closed_between :
    let backend := Script.backend "scripted" .sqlite doubleQuotes
    let script := Script.start [] [] [
      { Reply.plain with columns := some [some ⟨"a", "INTEGER", none⟩], rows := [[.int 1]] },
      { Reply.plain with failure := some (.execution "no such table: u") }]
    let config := ((SessionConfig.sqlite "a.db").set (.profile true)).set (.traceLog true)
    let events : List Event := [.ask (.build (.insert "t" [("a", .int 2)])), .ask .flush,
      .ask (.getRow (some " SELECT b FROM u") .object 0), .ask .disconnect,
      .ask (.count false true), .ask (.query "SELECT a FROM t "), .ask (.clause false [.raw "a"])]
    let statements := ["SELECT a FROM t", "SELECT b FROM u", "INSERT INTO t (a) VALUES (?1)"]
    ∃ session, start backend script config .empty 0 = .ok session ∧
      config.trace.profile = true ∧ config.trace.traceLog = true ∧
      let current := session.after events
      current.record.profile = statements ∧
        current.traceLog.map Report.lastQuery = statements.map some ∧
        current.record.timers = [] ∧ (current.count true true).1 = 5 ∧
        (current.count false false).1 = 2 ∧
        current.record.errors = [
          ⟨"Clause error: fragment is not a lone WHERE/HAVING clause: a", none⟩,
          ⟨"SQL execution error: no such table: u", some "SELECT b FROM u"⟩] ∧
        current.record.calls = ["query(\"INSERT INTO t (a) VALUES (?1)\")"] := by
  intro backend script config events statements
  have valid : config.validate = .ok config := by
    simp only [config]
    rfl
  have started : start backend script config .empty 0 = .ok
      ⟨backend, script, config.connectParams, .fresh true, config.cache, none, config.trace, .fresh,
        [], .empty, 0⟩ := by
    rw [start, valid]
    rfl
  refine ⟨_, started, rfl, rfl, ?_⟩
  have books := books_of_events started rfl rfl events
  -- The books are told by the history, and only the history is played through.
  generalize here : Session.mk backend script _ _ _ _ _ _ _ _ _ = session at books ⊢
  obtain ⟨profile, reports, timers, all, connection, errors, calls⟩ := books
  have ran : (entries session events).filterMap Entry.statement? = statements := by
    rw [← here]
    decide +kernel
  rw [ran] at profile reports
  intro current
  refine ⟨profile, reports, timers, (all true).trans ?_, (connection false).trans ?_,
    errors.trans ?_, calls.trans ?_⟩
  all_goals
    rw [← here]
    decide +kernel

end Session

end Querent
