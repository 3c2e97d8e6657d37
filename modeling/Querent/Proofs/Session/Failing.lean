import Querent.Backend.Scripted
import Querent.Proofs.Session.Operation

/-! What a session tells of an operation that fails: its failure, with the last statement. -/

namespace Querent

namespace Record

/-- Whether a record tells of a failure last: its wording is the last error, and it is the newest in
the log of errors, with the last statement. -/
structure Tells (record : Record) (failure : Failure) : Prop where
  shown : record.lastError = some failure.message
  newest : record.errors.getLast? = some ⟨failure.message, record.lastQuery⟩

/-- A record tells of a failure that is remembered behind others. -/
theorem tells_failed (record : Record) (failures : List Failure) (failure : Failure) :
    (record.failed (failures ++ [failure])).Tells failure := by
  rw [failed_append]
  -- The log makes room in front for what comes behind.
  exact ⟨rfl, List.getLast?_concat ..⟩

end Record

namespace Session

variable {σ α : Type} {failure : Failure}

/-- A failure that is noted is told of. -/
theorem tells_noted {step : Step σ α} (failed : (noted step).1 = .error failure) :
    (noted step).2.record.Tells failure := by
  rw [noted_eq] at failed ⊢
  dsimp only at failed ⊢
  rw [failed]
  exact step.2.record.tells_failed [] failure

/-- A statement that fails is told of, behind a failure of the cache if there is one. -/
theorem tells_run {session : Session σ} {sql : String} {values : List Value}
    (failed : (session.run sql values).1 = .error failure) :
    (session.run sql values).2.record.Tells failure := by
  obtain ⟨link, disk, before, behind, fromCache, notices, left, -, -, spoilt, -⟩ :=
    session.run_left sql values
  -- Behind the failure nothing is remembered, for there is no result to keep.
  obtain ⟨rfl, rfl, rfl⟩ := spoilt failure failed
  rw [failed, List.append_nil] at left
  rw [left, finish_eq]
  have told := Record.tells_failed (session.record.start (session.backend.style.normalize sql))
    before failure
  exact ⟨told.shown, told.newest⟩

/-- A statement that fails to be built is told of, and so is one that fails behind that. -/
theorem tells_carryOut {session : Session σ} {statement : Statement}
    (failed : (session.carryOut statement).1 = .error failure) :
    (session.carryOut statement).2.record.Tells failure := by
  unfold carryOut at failed ⊢
  -- Either no text was made, or the text was run.
  rcases Step.andThen_cases (session.assemble statement) fun sql session => session.query sql
    with ⟨fault, refused, ran⟩ | ⟨sql, -, ran⟩
  · rw [ran] at failed ⊢
    obtain rfl := Except.error.inj failed
    exact tells_noted refused
  · rw [ran] at failed ⊢
    exact tells_run failed

/-- A link that fails to be closed is not remembered. -/
theorem record_disconnect {session : Session σ} (failed : session.disconnect.1 = .error failure) :
    session.disconnect.2.record = session.record := by
  unfold disconnect at failed ⊢
  generalize session.backend.disconnect session.link = closed at failed ⊢
  obtain ⟨outcome, link⟩ := closed
  -- The session is left before anything is written down.
  cases outcome with
  | error _ => rfl
  | ok _ => cases failed

/-- An operation other than to disconnect is told of if it fails. -/
theorem tells_serve {session : Session σ} {operation : Operation}
    (other : operation ≠ .disconnect) (failed : (session.serve operation).1 = .error failure) :
    (session.serve operation).2.record.Tells failure := by
  -- What runs a statement is told of by the run.
  cases given : session.statement? operation with
  | some sql =>
    obtain ⟨compiler, lastCall, calls, answer, ran⟩ := runs_serve given
    rw [ran] at failed ⊢
    exact tells_run (Step.error_of_map failed)
  | none =>
    -- What runs no statement fails by connecting, by its directory or by its clause.
    cases operation with
    | disconnect => exact absurd rfl other
    | connect =>
      rw [serve, Session.connect] at failed ⊢
      exact tells_noted (Step.error_of_map failed)
    | createCache directory =>
      rw [serve, Session.createCache] at failed
      rw [serve, Step.map_snd, Session.createCache]
      exact tells_noted (Step.error_of_map failed)
    | clause announced conditions =>
      rw [serve] at failed
      rw [serve, Step.map_snd]
      have failed := Step.error_of_map failed
      cases announced with
      | true => exact tells_noted failed
      | false => exact tells_noted failed
    | selectionText table columns modifiers =>
      rw [serve, Step.map_snd]
      have refused : (session.assemble (.select table columns modifiers)).1 = .error failure :=
        Step.error_of_map failed
      rw [assemble, compiled] at refused ⊢
      exact tells_noted refused
    | build statement =>
      rw [serve_build]
      refine tells_carryOut ?_
      cases statement with
      | select table columns modifiers =>
        rw [serve, selecting, andThen_answer] at failed
        exact Step.error_of_map (Step.error_of_map failed)
      | _ => exact Step.error_of_map failed
    | query sql => cases given
    | queryWith sql values => cases given
    | getValue sql _ _ | getRow sql _ _ | getColumn sql _ | getResults sql _ =>
      -- The last result is read without fail.
      obtain rfl : sql = none := given
      cases failed
    | _ => cases failed

/-- An operation that fails is told of, whatever the session has met and whatever the backend does,
unless it is to disconnect: that leaves all that was remembered before, its failures included. -/
theorem tells_iff_of_failed (session : Session σ) (operation : Operation)
    (failed : (session.serve operation).1 = .error failure) :
    ((session.serve operation).2.record.Tells failure ↔
      (operation = .disconnect → session.record.Tells failure)) ∧
    (operation = .disconnect → (session.serve operation).2.record = session.record) := by
  -- Only one operation keeps its failure to itself.
  by_cases closing : operation = .disconnect
  · subst closing
    have kept : (session.serve .disconnect).2.record = session.record :=
      record_disconnect (Step.error_of_map failed)
    refine ⟨?_, fun _ => kept⟩
    rw [kept]
    exact ⟨fun told _ => told, fun told => told rfl⟩
  · refine ⟨?_, fun same => absurd same closing⟩
    exact ⟨fun _ same => absurd same closing, fun _ => tells_serve closing failed⟩

/-- Where a file is in the place of the cache, a selection that the backend refuses is told of after
the failure of the lookup. -/
theorem tells_iff_of_failed_behind_lookup :
    let script := Script.start [] []
      [{ Reply.plain with failure := some (.execution "no such table: t") }]
    let cache : ResultCache := ⟨"/c", .ofSeconds 60⟩
    let session : Session Script := {
      backend := Script.backend "scripted" .sqlite doubleQuotes
      link := script
      connection := ⟨"a.db", none, none, .empty, true⟩
      compiler := .fresh true
      cacheConfig := ⟨true, "/c", .ofSeconds 60, true, false⟩
      cache := some cache
      trace := .default
      record := .fresh
      traceLog := []
      disk := { root := .directory 0 ⟨[("c", .file [] 0)]⟩ }
      now := 5 }
    let asked := session.serve (.getRow (some "SELECT a FROM t") .object 0)
    asked.1 = .error (.execution "no such table: t") ∧
      asked.2.record.errors.map ErrorRecord.message =
        ["Cache I/O error: Not a directory (os error 20)",
          "SQL execution error: no such table: t"] ∧
      asked.2.record.Tells (.execution "no such table: t") := by
  intro script cache session asked
  -- The run is evaluated for its failure and for what the log then holds.
  have outcome : failuresOf asked.1 = [.execution "no such table: t"] ∧
      asked.2.record.errors.map ErrorRecord.message =
        ["Cache I/O error: Not a directory (os error 20)",
          "SQL execution error: no such table: t"] := by
    decide +kernel
  obtain ⟨failures, messages⟩ := outcome
  have failed : asked.1 = .error (.execution "no such table: t") := by
    cases made : asked.1 with
    | error failure =>
      rw [made] at failures
      rw [List.singleton_inj.mp failures]
    | ok answer =>
      rw [made] at failures
      cases failures
  have told := tells_iff_of_failed session (.getRow (some "SELECT a FROM t") .object 0) failed
  exact ⟨failed, messages, told.1.mpr fun same => nomatch same⟩

/-- A new session whose backend cannot be disconnected does not tell of that. -/
theorem not_tells_of_disconnect :
    let script := Script.start [] [some (.connection "link is busy")] []
    let backend := Script.backend "scripted" .sqlite doubleQuotes
    ∃ session, start backend script (.sqlite "a.db") .empty 0 = .ok session ∧
      let closed := (session.after []).serve .disconnect
      closed.1 = .error (.connection "link is busy") ∧
        ¬closed.2.record.Tells (.connection "link is busy") := by
  intro script backend
  refine ⟨_, rfl, rfl, ?_⟩
  -- Neither the last error nor the log has it.
  rintro ⟨shown, -⟩
  cases shown

end Session

end Querent
