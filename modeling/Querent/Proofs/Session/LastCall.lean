import Querent.Proofs.Session.Bookkeeping

/-! The last call of a session beside its log of calls: they part where the log is emptied, and
agree again from the next call on. -/

namespace Querent

/-- Whether a last call is the newest one of a log of calls, and is missing exactly if the log is
empty. -/
def CallsAgree (lastCall : Option String) (calls : List String) : Prop :=
  lastCall = calls.getLast? ∧ (lastCall = none ↔ calls = [])

/-- A last call agrees with a log if it is the newest one of it, for only an empty log has none. -/
theorem callsAgree_iff {lastCall : Option String} {calls : List String} :
    CallsAgree lastCall calls ↔ lastCall = calls.getLast? := by
  -- What is newest is missing exactly in an empty log.
  constructor
  · exact And.left
  · rintro rfl
    exact ⟨rfl, List.getLast?_eq_none_iff⟩

section

variable {α : Type}

/-- The newest entry of a log is the one that came in last, if any did. -/
theorem getLast?_foldl_logged (log more : List α) :
    (more.foldl logged log).getLast? = more.getLast?.or log.getLast? := by
  -- Each entry takes the last place, whether or not the oldest one makes room for it.
  induction more generalizing log with
  | nil => simp
  | cons entry more ih =>
    rw [List.foldl_cons, ih]
    cases more <;> simp [logged, List.getLast?_cons]

/-- The newest entry is not among those that a log leaves out. -/
theorem getLast?_rtake (entries : List α) :
    (entries.rtake logCapacity).getLast? = entries.getLast? := by
  -- The log is what comes of logging all entries in turn.
  have last := getLast?_foldl_logged [] entries
  have logs := foldl_logged_rtake [] entries
  rw [List.rtake_nil, List.nil_append] at logs
  rw [← logs, last]
  simp

end

namespace Session

variable {σ : Type}

/-- A step whose failure is noted leaves the last call as it is. -/
theorem lastCall_noted {α : Type} (step : Step σ α) :
    (noted step).2.record.lastCall = step.2.record.lastCall := by
  rw [noted_eq, Record.failed_eq]

/-- An operation that runs no statement is remembered as a call only if it is a reading. -/
theorem lastCall_of_idle {session : Session σ} {operation : Operation}
    (idle : session.statement? operation = none) :
    (session.serve operation).2.record.lastCall =
      (Entry.calls ⟨session, operation⟩).getLast?.or session.record.lastCall := by
  cases operation with
  | connect =>
    -- Whether or not the link is opened, only a count and a failure are remembered.
    obtain ⟨link, dialed⟩ := session.dial_left
    rw [serve, Step.map_snd, Session.connect, lastCall_noted]
    rcases Step.andThen_cases session.dial fun _ session => (.ok (), session.recount)
      with ⟨failure, -, ran⟩ | ⟨_, -, ran⟩ <;> rw [ran, dialed] <;> rfl
  | disconnect =>
    rw [serve, Step.map_snd, Session.disconnect]
    generalize session.backend.disconnect session.link = closed
    obtain ⟨outcome, link⟩ := closed
    cases outcome <;> rfl
  | createCache directory =>
    rw [serve, Step.map_snd, Session.createCache, lastCall_noted]
    dsimp only
    split <;> rfl
  | clause announced conditions =>
    -- To compile remembers a failure at most.
    cases announced <;> rw [serve, Step.map_snd] <;> exact lastCall_noted _
  | selectionText table columns modifiers =>
    rw [serve, Step.map_snd]
    exact lastCall_noted _
  | build statement =>
    -- A statement that cannot be built is not run.
    have refused : (session.assemble statement).1.toOption = none := idle
    have kept : (session.assemble statement).2.record.lastCall = session.record.lastCall :=
      lastCall_noted _
    rw [serve_build, carryOut, Entry.calls, idle]
    rcases Step.andThen_cases (session.assemble statement) fun sql session => session.query sql
      with ⟨failure, -, ran⟩ | ⟨sql, built, -⟩
    · rw [ran]
      exact kept
    · rw [built] at refused
      cases refused
  | query sql => cases idle
  | queryWith sql values => cases idle
  | getValue sql _ _ | getRow sql _ _ | getColumn sql _ | getResults sql _ =>
    obtain rfl : sql = none := idle
    rfl
  | count all increase => cases increase <;> rfl
  | _ => rfl

/-- Behind an operation, the last call is the latest that it made, or else the one before it. -/
theorem lastCall_serve (session : Session σ) (operation : Operation) :
    (session.serve operation).2.record.lastCall =
      (Entry.calls ⟨session, operation⟩).getLast?.or session.record.lastCall := by
  cases given : session.statement? operation with
  | none => exact lastCall_of_idle given
  | some sql =>
    have shown := (shownCalls_serve given).trans (Record.shownCalls_called _ _)
    exact congrArg Prod.fst shown

/-- The last call is the latest of all that were made since the session was new. -/
theorem lastCall_after {session : Session σ} (fresh : session.record = .fresh)
    (events : List Event) : (session.after events).record.lastCall =
      ((session.entries events).flatMap Entry.calls).getLast? := by
  induction events with
  | nil =>
    rw [after, fresh]
    rfl
  | cons event earlier ih =>
    cases event with
    | ask operation =>
      -- The calls of an operation come behind those before it.
      rw [after, meet, lastCall_serve, ih, entries, List.flatMap_append, List.getLast?_append]
      simp
    | pass now disk => exact ih

/-- The log has the last calls that were made since it was emptied. -/
theorem calls_after {session : Session σ} (fresh : session.record = .fresh)
    (events : List Event) : (session.after events).record.calls =
      (((session.entries events).rtakeWhile fun entry => !entry.flushes).flatMap
        Entry.calls).rtake logCapacity := by
  induction events with
  | nil =>
    rw [after, fresh]
    rfl
  | cons event earlier ih =>
    cases event with
    | ask operation =>
      have booked := (booked ⟨session.after earlier, operation⟩).calls
      rw [entries, List.rtakeWhile_concat]
      refine booked.trans ?_
      rw [ih, foldl_logged_rtake]
      cases Entry.flushes ⟨session.after earlier, operation⟩ <;> simp
    | pass now disk => exact ih

/-- Behind a statement that was run, the last call is in the log: the statement was called for. -/
theorem callsAgree_of_statement? {session : Session σ} {operation : Operation} {sql : String}
    (given : session.statement? operation = some sql) :
    let after := (session.serve operation).2
    CallsAgree after.record.lastCall after.record.calls := by
  intro after
  have shown := (shownCalls_serve given).trans (Record.shownCalls_called _ _)
  have calls : after.record.calls = _ := congrArg Prod.snd shown
  have called : Entry.calls ⟨session, operation⟩ ≠ [] := by
    rw [Entry.calls, given]
    cases operation <;> exact List.cons_ne_nil _ _
  obtain ⟨first, others, made⟩ := List.exists_cons_of_ne_nil called
  rw [callsAgree_iff, lastCall_serve, calls, getLast?_foldl_logged, made]
  simp [List.getLast?_cons]

/-- A report that is kept behind an operation was kept before it, or shows the calls as they are
behind a statement that the operation ran. -/
theorem callsAgree_of_report {session : Session σ} {operation : Operation} {report : Report}
    (kept : report ∈ (session.serve operation).2.traceLog) :
    report ∈ session.traceLog ∨ CallsAgree report.lastCall report.calls := by
  cases given : session.statement? operation with
  | none =>
    have same : (session.serve operation).2.traceLog = session.traceLog := by
      obtain ⟨link, compiler, cacheConfig, cache, trace, record, disk, left⟩ :=
        (serve_idle given).left
      rw [left]
    exact .inl (same ▸ kept)
  | some sql =>
    have agree := callsAgree_of_statement? given
    obtain ⟨compiler, lastCall, calls, answer, ran⟩ := runs_serve given
    obtain ⟨link, disk, before, behind, fromCache, notices, left, -⟩ := run_left _ sql _
    rw [finish_eq, Record.failed_eq] at left
    rw [ran, Step.map_snd, left] at kept agree
    dsimp only at kept
    split at kept
    · rcases List.mem_append.mp kept with earlier | last
      · exact .inl earlier
      · -- The report was made when the statement was over.
        rw [List.mem_singleton.mp last]
        exact .inr agree
    · exact .inl kept

/-- No report is kept of a session that is new. -/
theorem traceLog_of_start {backend : Backend σ} {link : σ} {config : SessionConfig} {disk : Disk}
    {now : Int} {session : Session σ}
    (started : start backend link config disk now = .ok session) : session.traceLog = [] := by
  unfold start SessionConfig.validate at started
  split at started
  · cases started
    rfl
  · cases started

/-- Whatever a session meets, the reports that are kept from then on show calls that agree. -/
theorem callsAgree_of_reports {session : Session σ} (none : session.traceLog = [])
    (events : List Event) :
    ∀ report ∈ (session.after events).traceLog, CallsAgree report.lastCall report.calls := by
  induction events with
  | nil => simp [after, none]
  | cons event earlier ih =>
    cases event with
    | ask operation =>
      intro report kept
      exact (callsAgree_of_report kept).elim (ih report) id
    | pass now disk => exact ih

/-- After whatever a new session meets, its last call is the latest that it made, and its log has
the last calls since it was emptied. They agree exactly if a call was made since then, or never. No
report that is kept of a statement names a last call that is not the newest one of its log. -/
theorem callsAgree_iff_of_events {backend : Backend σ} {link : σ} {config : SessionConfig}
    {disk : Disk} {now : Int} {session : Session σ}
    (started : start backend link config disk now = .ok session) (events : List Event) :
    let entries := session.entries events
    let current := session.after events
    let calls := entries.flatMap Entry.calls
    let recent := (entries.rtakeWhile fun entry => !entry.flushes).flatMap Entry.calls
    current.record.lastCall = calls.getLast? ∧
      current.record.calls = recent.rtake logCapacity ∧
      (CallsAgree current.record.lastCall current.record.calls ↔ recent ≠ [] ∨ calls = []) ∧
      ∀ report ∈ current.traceLog, CallsAgree report.lastCall report.calls := by
  intro entries current calls recent
  obtain ⟨-, -, fresh, -⟩ := new_of_start started
  have last : current.record.lastCall = calls.getLast? := lastCall_after fresh events
  have log : current.record.calls = recent.rtake logCapacity := calls_after fresh events
  refine ⟨last, log, ?_, ?_⟩
  · rw [callsAgree_iff, last, log, getLast?_rtake]
    -- The calls since the log was emptied are the end of all calls.
    obtain ⟨front, whole⟩ := List.rtakeWhile_suffix (fun entry => !entry.flushes) entries
    have split : calls = front.flatMap Entry.calls ++ recent := by
      rw [← List.flatMap_append, whole]
    rw [split, List.getLast?_append]
    cases recent with
    | nil => simp
    | cons call more => simp [List.getLast?_cons]
  · exact callsAgree_of_reports (traceLog_of_start started) events

/-- A reading behind the emptied log is the last call and the only one of the log, and the report on
the query before that still shows the query. -/
theorem callsAgree_iff_of_events_read_again :
    let backend := Script.backend "scripted" .sqlite doubleQuotes
    let config := (SessionConfig.sqlite "a.db").set (.traceLog true)
    let events : List Event := [.ask (.getValue none 0 0), .ask .flush, .ask (.query "SELECT 1")]
    ∃ session, start backend (Script.start [] [] []) config .empty 0 = .ok session ∧
      let current := session.after events
      current.record.lastCall = some "get_var(\"\", 0, 0)" ∧
        current.record.calls = ["get_var(\"\", 0, 0)"] ∧
        CallsAgree current.record.lastCall current.record.calls ∧
        current.traceLog.map Report.calls = [["query(\"SELECT 1\")"]] ∧
        ∀ report ∈ current.traceLog, CallsAgree report.lastCall report.calls := by
  intro backend config events
  have valid : config.validate = .ok config := by
    simp only [config]
    rfl
  have started : start backend (Script.start [] [] []) config .empty 0 = .ok
      ⟨backend, Script.start [] [] [], config.connectParams, .fresh true, config.cache, none,
        config.trace, .fresh, [], .empty, 0⟩ := by
    rw [start, valid]
    rfl
  refine ⟨_, started, ?_⟩
  intro current
  obtain ⟨last, log, agree, reports⟩ := callsAgree_iff_of_events started events
  have called : current.record.calls = ["get_var(\"\", 0, 0)"] := by decide +kernel
  exact ⟨by decide +kernel, called, agree.mpr (.inl (by decide +kernel)), by decide +kernel,
    reports⟩

/-- A session whose log of calls was emptied still shows the query before that as its last call. -/
theorem not_callsAgree_of_flush :
    let backend := Script.backend "scripted" .sqlite doubleQuotes
    ∃ session, start backend (Script.start [] [] []) (.sqlite "a.db") .empty 0 = .ok session ∧
      let current := session.after [.ask .flush, .ask (.query "SELECT 1")]
      current.record.lastCall = some "query(\"SELECT 1\")" ∧ current.record.calls = [] ∧
        ¬CallsAgree current.record.lastCall current.record.calls := by
  intro backend
  have started : start backend (Script.start [] [] []) (.sqlite "a.db") .empty 0 = .ok _ := rfl
  refine ⟨_, started, ?_⟩
  intro current
  have last : current.record.lastCall = some "query(\"SELECT 1\")" := by decide +kernel
  refine ⟨last, rfl, ?_⟩
  -- The newest call of an empty log would be none.
  rintro ⟨newest, -⟩
  rw [last] at newest
  cases newest

end Session

end Querent
