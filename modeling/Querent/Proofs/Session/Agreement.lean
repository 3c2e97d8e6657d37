import Querent.Proofs.Session.Outcome

/-! Sessions that are the same but for their caches, and how the cache of one shows in a run. -/

namespace Querent

/-- The record without the failures in it. -/
def Record.withoutFailures (record : Record) : Record :=
  { record with errors := [], lastError := none }

/-- The report without the failure in it. -/
def Report.withoutFailure (report : Report) : Report :=
  { report with lastError := none }

namespace Session

variable {σ α β : Type}

/-- Whether two sessions are the same but for their caches, their disks, and the failures that they
remember and report. -/
structure Agrees (a b : Session σ) : Prop where
  backend : a.backend = b.backend
  link : a.link = b.link
  connection : a.connection = b.connection
  compiler : a.compiler = b.compiler
  trace : a.trace = b.trace
  record : a.record.withoutFailures = b.record.withoutFailures
  traceLog : a.traceLog.map Report.withoutFailure = b.traceLog.map Report.withoutFailure
  now : a.now = b.now

/-- Whether two steps give the same and leave sessions that agree. -/
structure Step.Agrees (s t : Step σ α) : Prop where
  outcome : s.1 = t.1
  session : s.2.Agrees t.2

/-- A session agrees with itself. -/
theorem Agrees.refl (session : Session σ) : session.Agrees session :=
  ⟨rfl, rfl, rfl, rfl, rfl, rfl, rfl, rfl⟩

/-- Steps agree if they go on alike from first steps that agree. -/
theorem Step.Agrees.andThen {s t : Step σ α} {next : α → Session σ → Step σ β} (first : s.Agrees t)
    (rest : ∀ answer a b, Session.Agrees a b → (next answer a).Agrees (next answer b)) :
    (s.andThen next).Agrees (t.andThen next) := by
  obtain ⟨outcome, a⟩ := s
  obtain ⟨outcome', b⟩ := t
  -- Both fail for the same reason, or both go on with the same answer.
  obtain rfl : outcome = outcome' := first.outcome
  cases outcome with
  | error failure => exact ⟨rfl, first.session⟩
  | ok answer => exact rest answer a b first.session

namespace Agrees

variable {a b : Session σ} (agrees : a.Agrees b)

include agrees

/-- The link is opened alike. -/
theorem reach : Step.Agrees a.reach b.reach := by
  unfold Session.reach dial isConnected
  rw [agrees.backend, agrees.link, agrees.connection]
  -- The link is open on both sides, or is opened on both sides with one outcome.
  split
  · exact ⟨rfl, agrees⟩
  · split
    · exact ⟨rfl, { agrees with backend := rfl, link := rfl, connection := rfl }⟩
    · exact ⟨rfl, agrees⟩

/-- A statement is handed over alike. -/
theorem send (statement : String) (values : List Value) :
    Step.Agrees (a.send statement values) (b.send statement values) := by
  unfold Session.send
  rw [agrees.backend, agrees.link]
  exact ⟨rfl, { agrees with backend := rfl, link := rfl }⟩

/-- A report of the backend is heeded alike. -/
theorem heed : Step.Agrees a.heed b.heed := by
  unfold Session.heed
  rw [agrees.backend, agrees.link]
  -- There is no report, or it is the same one, and a notice is made of it or not.
  split
  · exact ⟨rfl, agrees⟩
  · next fault _ =>
    split
    · exact ⟨rfl, { agrees with
        backend := rfl, link := rfl, record := congrArg (Record.notice · fault) agrees.record }⟩
    · exact ⟨rfl, agrees⟩

/-- A statement is dispatched alike. -/
theorem dispatch (statement : String) (values : List Value) :
    Step.Agrees (a.dispatch statement values) (b.dispatch statement values) := by
  -- Three steps: the link is opened, the statement is sent, and the report is heeded.
  refine agrees.reach.andThen fun _ a b agrees => ?_
  refine (agrees.send statement values).andThen fun execution a b agrees => ?_
  refine agrees.heed.andThen fun _ a b agrees => ⟨?_, agrees⟩
  -- The id of a new row is asked of the link.
  cases execution with
  | cursor rows => rfl
  | affected count =>
    unfold resultOf
    rw [agrees.backend, agrees.link]

/-- A result is remembered alike. -/
theorem absorb (result : QueryResult) : (a.absorb result).Agrees (b.absorb result) :=
  { agrees with record := congrArg (Record.absorb · result) agrees.record }

/-- A failure is remembered beside what agrees. -/
theorem recordError (failure other : Failure) :
    (a.recordError failure).Agrees (b.recordError other) :=
  { agrees with record := agrees.record }

/-- What is reported is the same but for a failure. -/
theorem report : a.report.withoutFailure = b.report.withoutFailure := by
  -- A report reads only what two sessions have in common, but for the last failure.
  have plain : ∀ session : Session σ, session.report.withoutFailure =
      Session.report { session with record := session.record.withoutFailures } := fun _ => rfl
  rw [plain, plain]
  unfold Session.report
  dsimp only
  rw [agrees.backend, agrees.record]

/-- A statement is finished alike. -/
theorem finish (timer : Nat) : (a.finish timer).Agrees (b.finish timer) := by
  -- The timer is stopped on both sides first, and the report is of that.
  have stopped : Agrees { a with record := a.record.stop timer a.trace.profile }
      { b with record := b.record.stop timer b.trace.profile } := by
    rw [agrees.trace]
    exact { agrees with
      trace := rfl, record := congrArg (Record.stop · timer b.trace.profile) agrees.record }
  have reported := stopped.report
  -- The logs grow by reports that are the same without their failures.
  rw [finish_eq, finish_eq]
  refine { stopped with traceLog := ?_ }
  dsimp only
  rw [agrees.trace] at reported ⊢
  split
  · rw [List.map_append, List.map_append, agrees.traceLog, List.map_singleton, List.map_singleton,
      reported]
  · exact agrees.traceLog

/-- What the cache is asked makes no difference. -/
theorem consult (text : String) : (a.consult text).2.Agrees b := by
  unfold Session.consult
  -- Whatever is found, the disk may change and a failure may be remembered, and nothing else.
  split
  · exact agrees
  · split
    · exact { agrees with }
    · exact { agrees with }
    · exact { agrees with record := agrees.record }

/-- What the cache is given makes no difference. -/
theorem keep (text : String) (result : QueryResult) : (a.keep text result).Agrees b := by
  unfold Session.keep
  -- Again there is the disk, and a failure of the store at most.
  split
  · exact agrees
  · dsimp only
    split
    · exact { agrees with }
    · exact { agrees with record := agrees.record }

/-- A statement is performed alike, with a text to keep its result under and without. -/
theorem perform (timer : Nat) (statement : String) (values : List Value) (text : Option String) :
    Step.Agrees (a.perform timer statement values text)
      (b.perform timer statement values none) := by
  have dispatched := agrees.dispatch statement values
  unfold Session.perform
  generalize a.dispatch statement values = step at dispatched ⊢
  generalize b.dispatch statement values = step' at dispatched ⊢
  obtain ⟨outcome, a⟩ := step
  obtain ⟨outcome', b⟩ := step'
  obtain rfl : outcome = outcome' := dispatched.outcome
  have after : a.Agrees b := dispatched.session
  -- A failure is remembered on both sides, and a result is absorbed on both sides.
  cases outcome with
  | error failure => exact ⟨rfl, (after.recordError failure failure).finish timer⟩
  | ok result =>
    -- The result may be kept on one side.
    have absorbed := after.absorb result
    cases text with
    | none => exact ⟨rfl, absorbed.finish timer⟩
    | some text => exact ⟨rfl, (absorbed.keep text result).finish timer⟩

end Agrees

/-- Whether the cache has no result for a statement with values, or is not asked. -/
def Unanswered (session : Session σ) (statement : String) (values : List Value) : Prop :=
  session.cacheConfig.keeps (StatementKind.of statement = .mutating) = true →
    ∀ cache, session.cache = some cache → ∀ entry,
      (cache.lookup session.now (cacheText statement values) session.disk).1 ≠ .ok (.hit entry)

/-- Where a lookup finds no entry, the cache gives no result. -/
theorem consult_eq_none {session : Session σ} {text : String}
    (missed : ∀ cache, session.cache = some cache → ∀ entry,
      (cache.lookup session.now text session.disk).1 ≠ .ok (.hit entry)) :
    (session.consult text).1 = none := by
  unfold consult
  -- A result would have been that of an entry.
  split
  · rfl
  · next cache used =>
    split
    · next entry _ found => exact absurd (congrArg Prod.fst found) (missed cache used entry)
    · rfl
    · rfl

/-- A statement without a result in the cache is begun and performed, after the cache was asked if
it is to keep the result. -/
theorem run_of_unanswered {session : Session σ} {sql : String} {values : List Value}
    (unanswered : session.Unanswered (session.backend.style.normalize sql) values) :
    let statement := session.backend.style.normalize sql
    let text := cacheText statement values
    let begun := session.begin statement
    session.run sql values =
      if session.cacheConfig.keeps (StatementKind.of statement = .mutating) then
        (begun.consult text).2.perform begun.record.queries statement values (some text)
      else begun.perform begun.record.queries statement values none := by
  -- The settings decide whether the cache is asked; if it is, it has no result.
  unfold run
  dsimp only
  generalize session.backend.style.normalize sql = statement at unanswered ⊢
  split
  · next kept =>
    have missed : ((session.begin statement).consult (cacheText statement values)).1 = none :=
      consult_eq_none (unanswered kept)
    refine Eq.trans ?_ (if_pos kept).symm
    -- Only a result of the cache would be given without a call.
    split
    · next consulted =>
      rw [consulted] at missed
      cases missed
    · next consulted => rw [consulted]
  · next unkept => exact (if_neg unkept).symm

/-- A statement is run alike with a cache that has no result for it, and without the cache. -/
theorem Agrees.run {a b : Session σ} (agrees : a.Agrees b) {sql : String} {values : List Value}
    (unanswered : a.Unanswered (a.backend.style.normalize sql) values)
    (disabled : b.cacheConfig.enabled = false) :
    Step.Agrees (a.run sql values) (b.run sql values) := by
  -- With its cache disabled, the other session does not even ask.
  have off : ∀ kind, b.cacheConfig.keeps kind = false := by
    intro kind
    rw [CacheConfig.keeps, disabled, Bool.false_and]
  have unanswered' : b.Unanswered (b.backend.style.normalize sql) values := fun kept =>
    absurd (kept.symm.trans (off _)) (by simp)
  rw [run_of_unanswered unanswered, run_of_unanswered unanswered', off, agrees.backend]
  generalize b.backend.style.normalize sql = statement
  have begun : (a.begin statement).Agrees (b.begin statement) :=
    { agrees with record := congrArg (Record.start · statement) agrees.record }
  -- A statement has the same number on both sides, and so the same timer.
  have timer : (a.begin statement).record.withoutFailures.queries =
      (b.begin statement).record.withoutFailures.queries := congrArg Record.queries begun.record
  change (a.begin statement).record.queries = (b.begin statement).record.queries at timer
  rw [timer]
  split
  · exact (begun.consult _).perform ..
  · exact begun.perform ..

end Session

end Querent
