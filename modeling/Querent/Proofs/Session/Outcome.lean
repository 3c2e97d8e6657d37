import Querent.Session.Run

/-! What a session remembers of a statement once it was run, whatever came of it. -/

namespace Querent

/-- Whether a failure is of the cache: of its files, or of what one of them holds. -/
def Failure.IsOfCache : Failure → Prop
  | cache _ => True
  | json => True
  | _ => False

/-- Whether failures are those of one step of the cache, which has one at most. -/
structure OfOneStep (failures : List Failure) : Prop where
  few : failures.length ≤ 1
  cache : ∀ failure ∈ failures, failure.IsOfCache

/-- A step of the cache may go well. -/
theorem ofOneStep_nil : OfOneStep [] :=
  ⟨Nat.zero_le 1, fun _ mem => absurd mem List.not_mem_nil⟩

/-- A step of the cache may fail. -/
theorem ofOneStep_singleton {failure : Failure} (ofCache : failure.IsOfCache) :
    OfOneStep [failure] :=
  ⟨Nat.le_refl 1, fun _ mem => List.mem_singleton.mp mem ▸ ofCache⟩

/-- The failure that an outcome is, if it is one. -/
def failuresOf {α : Type} : Except Failure α → List Failure
  | .error failure => [failure]
  | .ok _ => []

namespace ResultCache

variable (cache : ResultCache) (now : Int) (text : String) (disk : Disk)

/-- A lookup fails by the cache. -/
theorem isOfCache_of_lookup {failure : Failure}
    (failed : (cache.lookup now text disk).1 = .error failure) : failure.IsOfCache := by
  unfold lookup at failed
  split at failed
  · cases failed
  · cases failed
    trivial
  · split at failed
    · split at failed
      · cases failed
      · cases failed
        trivial
    · -- The entry is not read, or it is no entry.
      unfold load at failed
      split at failed
      · cases failed
        trivial
      · split at failed
        · cases failed
          trivial
        · cases failed

/-- A store fails by the cache. -/
theorem isOfCache_of_store {entry : CacheEntry} {failure : Failure}
    (failed : (cache.store now text entry disk).1 = .error failure) : failure.IsOfCache := by
  unfold store ensure at failed
  cases made : disk.createDirectories (pathOf cache.directory) now with
  | mk outcome disk =>
    rw [made] at failed
    cases outcome with
    | error fault =>
      cases failed
      trivial
    | ok _ =>
      dsimp only [Except.mapError] at failed
      split at failed
      · cases failed
        trivial
      · split at failed
        · cases failed
          trivial
        · cases failed

end ResultCache

namespace Record

/-- The record with failures remembered one after another. -/
def failed (record : Record) (failures : List Failure) : Record :=
  failures.foldl (fun record failure => record.error failure.message) record

/-- Failures are remembered behind those that are remembered already. -/
theorem failed_append (record : Record) (failures others : List Failure) :
    record.failed (failures ++ others) = (record.failed failures).failed others :=
  List.foldl_append

/-- Failures are remembered beside all that the record has otherwise. -/
theorem failed_eq (record : Record) (failures : List Failure) :
    record.failed failures = { record with
      lastError := (record.failed failures).lastError
      errors := (record.failed failures).errors } := by
  induction failures generalizing record with
  | nil => rfl
  | cons failure failures ih => exact ih (record.error failure.message)

/-- Each failure is logged with the statement before it. -/
theorem errors_failed (record : Record) (failures : List Failure) :
    (record.failed failures).errors = failures.foldl
      (fun log failure => logged log ⟨failure.message, record.lastQuery⟩) record.errors := by
  induction failures generalizing record with
  | nil => rfl
  | cons failure failures ih => exact ih (record.error failure.message)

/-- The last failure is the one that is shown. -/
theorem lastError_failed (record : Record) (failures : List Failure) :
    (record.failed failures).lastError =
      (failures.getLast?.map Failure.message).or record.lastError := by
  induction failures generalizing record with
  | nil => rfl
  | cons failure failures ih =>
    refine (ih (record.error failure.message)).trans ?_
    -- Behind a failure, the record shows that one until there is another.
    cases failures with
    | nil => rfl
    | cons next failures => simp [List.getLast?_cons]

/-- Failures change nothing of what a statement gave. -/
theorem given_failed (record : Record) (failures : List Failure) :
    (record.failed failures).given = record.given := by
  rw [record.failed_eq]

/-- What a statement gave makes no difference to how failures are remembered. -/
theorem failed_given (record : Record) (failures : List Failure) (given : Yield) :
    { record with given := given }.failed failures =
      { record.failed failures with given := given } := by
  induction failures generalizing record with
  | nil => rfl
  | cons failure failures ih => exact ih (record.error failure.message)

end Record

/-- What a statement gave once its outcome is there, which may be a result. -/
def Yield.settle (given : Yield) : Except Failure QueryResult → Yield
  | .error _ => given
  | .ok result => given.absorb result

/-- A result takes no notices away. -/
theorem Yield.absorb_notices (given : Yield) (notices : List Notice) (result : QueryResult) :
    { given with notices := notices }.absorb result =
      { given.absorb result with notices := notices } := by
  cases result <;> rfl

namespace Session

variable {σ α β : Type}

/-- Where a step fails, what comes behind it is left out, and otherwise it goes on from there. -/
theorem Step.andThen_cases (step : Step σ α) (next : α → Session σ → Step σ β) :
    (∃ failure, step.1 = .error failure ∧ step.andThen next = (.error failure, step.2)) ∨
      ∃ answer, step.1 = .ok answer ∧ step.andThen next = next answer step.2 := by
  obtain ⟨outcome, session⟩ := step
  cases outcome with
  | error failure => exact .inl ⟨failure, rfl, rfl⟩
  | ok answer => exact .inr ⟨answer, rfl, rfl⟩

variable (session : Session σ)

/-- To ask the cache changes the disk, and remembers a failure of the cache at most. -/
theorem consult_left (text : String) :
    ∃ disk failures, (session.consult text).2 =
        { session with disk := disk, record := session.record.failed failures } ∧
      OfOneStep failures ∧
      (session.cache = none → failures = [] ∧ (session.consult text).1 = none) := by
  unfold consult
  -- Without a cache nothing is asked.
  split
  · exact ⟨session.disk, [], rfl, ofOneStep_nil, fun _ => ⟨rfl, rfl⟩⟩
  · next cache used =>
    have used' : ∀ {goal : Prop}, session.cache = none → goal := fun unused =>
      absurd (used.symm.trans unused) (by simp)
    split
    · exact ⟨_, [], rfl, ofOneStep_nil, used'⟩
    · exact ⟨_, [], rfl, ofOneStep_nil, used'⟩
    · next failure disk looked =>
      exact ⟨disk, [failure], rfl, ofOneStep_singleton
        (cache.isOfCache_of_lookup _ _ _ (congrArg Prod.fst looked)), used'⟩

/-- To keep a result changes the disk, and remembers a failure of the cache at most. -/
theorem keep_left (text : String) (result : QueryResult) :
    ∃ disk failures, session.keep text result =
        { session with disk := disk, record := session.record.failed failures } ∧
      OfOneStep failures ∧ (session.cache = none → failures = []) := by
  unfold keep
  -- Without a cache nothing is kept.
  split
  · exact ⟨session.disk, [], rfl, ofOneStep_nil, fun _ => rfl⟩
  · next cache used =>
    have used' : ∀ {goal : Prop}, session.cache = none → goal := fun unused =>
      absurd (used.symm.trans unused) (by simp)
    dsimp only
    split
    · exact ⟨_, [], rfl, ofOneStep_nil, used'⟩
    · next failure disk stored =>
      exact ⟨disk, [failure], rfl, ofOneStep_singleton
        (cache.isOfCache_of_store _ _ _ (congrArg Prod.fst stored)), used'⟩

/-- To note an outcome is to remember the failure that it may be. -/
theorem noted_eq (step : Step σ α) : noted step =
    (step.1, { step.2 with record := step.2.record.failed (failuresOf step.1) }) := by
  obtain ⟨outcome, session⟩ := step
  cases outcome <;> rfl

/-- To dial changes the link. -/
theorem dial_left : ∃ link, session.dial.2 = { session with link := link } := by
  unfold dial
  split
  all_goals exact ⟨_, rfl⟩

/-- Connecting changes the link. -/
theorem reach_left : ∃ link, session.reach.2 = { session with link := link } := by
  unfold reach
  split
  · exact ⟨_, rfl⟩
  · exact session.dial_left

/-- To heed a report is to notice it, or to fail by it. -/
theorem heed_left :
    ∃ notices, session.heed.2 =
        { session with record.given.notices := session.record.given.notices ++ notices } ∧
      ∀ failure, session.heed.1 = .error failure → notices = [] := by
  unfold heed
  -- No report is noticed as none, and a report is noticed or is the failure.
  split
  · refine ⟨[], ?_, fun _ _ => rfl⟩
    rw [List.append_nil]
  · split
    · exact ⟨_, rfl, fun _ failed => nomatch failed⟩
    · refine ⟨[], ?_, fun _ _ => rfl⟩
      rw [List.append_nil]

/-- To have a statement run changes the link, and notices reports unless it fails. -/
theorem dispatch_left (statement : String) (values : List Value) :
    ∃ link notices, (session.dispatch statement values).2 = { session with
        link := link, record.given.notices := session.record.given.notices ++ notices } ∧
      ∀ failure, (session.dispatch statement values).1 = .error failure → notices = [] := by
  unfold dispatch
  obtain ⟨reached, connected⟩ := session.reach_left
  rcases Step.andThen_cases session.reach _ with ⟨failure, failed, ran⟩ | ⟨_, -, ran⟩
  · -- The link cannot be opened.
    refine ⟨reached, [], ?_, fun _ _ => rfl⟩
    rw [ran, connected, List.append_nil]
  · rw [ran, connected]
    -- To hand the statement over changes the link once more.
    obtain ⟨sent, handed⟩ : ∃ link, (Session.send { session with link := reached }
        statement values).2 = { session with link := link } := ⟨_, rfl⟩
    rcases Step.andThen_cases (Session.send { session with link := reached } statement values) _
      with ⟨failure, failed, ran⟩ | ⟨execution, -, ran⟩
    · refine ⟨sent, [], ?_, fun _ _ => rfl⟩
      rw [ran, handed, List.append_nil]
    · rw [ran, handed]
      -- The report is all that is left to fail, and a failure of it is not noticed.
      obtain ⟨notices, noticed, spoilt⟩ := heed_left { session with link := sent }
      refine ⟨sent, notices, ?_⟩
      rcases Step.andThen_cases (Session.heed { session with link := sent })
        (fun _ session => (.ok (session.resultOf statement execution), session))
        with ⟨failure, failed, ran⟩ | ⟨_, -, ran⟩
      · rw [ran]
        exact ⟨noticed, fun _ _ => spoilt failure failed⟩
      · rw [ran]
        exact ⟨noticed, fun _ failed => nomatch failed⟩

/-- To finish a statement is to end its timing, and to report on the session if it keeps reports. -/
theorem finish_eq (timer : Nat) : session.finish timer =
    let stopped := { session with record := session.record.stop timer session.trace.profile }
    { stopped with traceLog := if session.trace.traceLog then session.traceLog ++ [stopped.report]
      else session.traceLog } := by
  unfold finish
  dsimp only
  split <;> rfl

/-- To perform a statement changes the link and the disk. The failure of the statement is
remembered, or else what it gave, and behind that a failure to keep the result at most. -/
theorem perform_left (timer : Nat) (statement : String) (values : List Value)
    (text : Option String) :
    let outcome := (session.perform timer statement values text).1
    ∃ link disk behind notices, (session.perform timer statement values text).2 =
        Session.finish { session with
          link := link
          disk := disk
          record := { session.record.failed (failuresOf outcome ++ behind) with
            given := { session.record.given.settle outcome with
              notices := session.record.given.notices ++ notices } } } timer ∧
      OfOneStep behind ∧ (∀ failure, outcome = .error failure → notices = [] ∧ behind = []) ∧
      (text = none ∨ session.cache = none → behind = []) := by
  -- The link and the notices are those of the dispatch.
  obtain ⟨link, notices, left, spoilt⟩ := session.dispatch_left statement values
  unfold perform
  generalize session.dispatch statement values = step at left spoilt ⊢
  obtain ⟨outcome, after⟩ := step
  obtain rfl : after = _ := left
  cases outcome with
  | error failure =>
    -- Nothing was noticed, and there is no result to keep.
    obtain rfl := spoilt failure rfl
    exact ⟨link, session.disk, [], [], rfl, ofOneStep_nil, fun _ _ => ⟨rfl, rfl⟩, fun _ => rfl⟩
  | ok result =>
    dsimp only [absorb, Record.absorb]
    rw [Yield.absorb_notices]
    cases text with
    | none =>
      exact ⟨link, session.disk, [], notices, rfl, ofOneStep_nil, fun _ failed => (nomatch failed),
        fun _ => rfl⟩
    | some text =>
      -- A failure to keep the result comes behind the result itself.
      obtain ⟨disk, behind, kept, single, unused⟩ := keep_left { session with
        link := link
        record := { session.record with given := { session.record.given.absorb result with
          notices := session.record.given.notices ++ notices } } } text result
      refine ⟨link, disk, behind, notices, ?_, single, fun _ failed => (nomatch failed), ?_⟩
      · dsimp only
        rw [kept, Record.failed_given]
        rfl
      · rintro (none | none)
        · cases none
        · exact unused none

/-- A statement that is begun, perhaps with a failure of the cache, is performed. -/
theorem perform_begun (disk : Disk) (before : List Failure) (statement : String)
    (values : List Value) (text : Option String) :
    let started := session.record.start statement
    let begun := { session with disk := disk, record := started.failed before }
    let outcome := (begun.perform started.queries statement values text).1
    ∃ link disk behind notices, (begun.perform started.queries statement values text).2 =
        Session.finish { session with
          link := link
          disk := disk
          record := { started.failed (before ++ failuresOf outcome ++ behind) with
            given := { Yield.none.settle outcome with
              fromCache := false
              notices := notices } } } started.queries ∧
      OfOneStep behind ∧ (∀ failure, outcome = .error failure → notices = [] ∧ behind = []) ∧
      (text = none ∨ session.cache = none → behind = []) := by
  intro started begun outcome
  obtain ⟨link, disk, behind, notices, left, single, spoilt, unused⟩ :=
    begun.perform_left started.queries statement values text
  refine ⟨link, disk, behind, notices, ?_, single, spoilt, unused⟩
  -- Nothing was given when the statement began, and no outcome is from the cache.
  have given : begun.record.given = .none := started.given_failed before
  have fresh : (Yield.none.settle outcome).fromCache = false := by
    cases outcome with
    | error failure => rfl
    | ok result => cases result <;> rfl
  rw [left, given, List.append_assoc, started.failed_append before, ← fresh]
  rfl

/-- To run a statement changes the link, the disk and what is remembered. The statement is begun,
what it gave is remembered, and so is its failure, with a failure of the cache before and behind it
at most; then the statement is finished. -/
theorem run_left (sql : String) (values : List Value) :
    let outcome := (session.run sql values).1
    let statement := session.backend.style.normalize sql
    let started := session.record.start statement
    ∃ link disk before behind fromCache notices, (session.run sql values).2 =
        Session.finish { session with
          link := link
          disk := disk
          record := { started.failed (before ++ failuresOf outcome ++ behind) with
            given := { Yield.none.settle outcome with
              fromCache := fromCache
              notices := notices } } } started.queries ∧
      OfOneStep before ∧ OfOneStep behind ∧
      (∀ failure, outcome = .error failure → fromCache = false ∧ notices = [] ∧ behind = []) ∧
      (session.cacheConfig.keeps (StatementKind.of statement = .mutating) = false ∨
        session.cache = none → before = [] ∧ behind = []) := by
  unfold run
  dsimp only
  generalize session.backend.style.normalize sql = statement
  -- The settings decide whether the cache is asked at all.
  split
  · next kept =>
    obtain ⟨disk, before, consulted, single, unused⟩ :=
      (session.begin statement).consult_left (cacheText statement values)
    have off : ∀ {goal : Prop}, session.cacheConfig.keeps
        (StatementKind.of statement = .mutating) = false → goal := fun off =>
      absurd (kept.symm.trans off) (by simp)
    generalize (session.begin statement).consult (cacheText statement values) = step
      at consulted unused ⊢
    obtain ⟨found, missed⟩ := step
    obtain rfl : missed = _ := consulted
    cases found with
    | some result =>
      -- The result that was found is given without a call.
      refine ⟨session.link, disk, before, [], true, [], ?_, single, ofOneStep_nil,
        fun _ failed => (nomatch failed), ?_⟩
      · have given : ((session.record.start statement).failed before).given = .none :=
          Record.given_failed _ before
        have bare : (Yield.none.absorb result).notices = [] := by
          cases result <;> rfl
        simp only [answer, absorb, Record.absorb, failuresOf, List.append_nil, begin]
        rw [given, ← bare]
        rfl
      · rintro (unkept | none)
        · exact off unkept
        · exact nomatch (unused none).2
    -- The cache had nothing, so that the statement is performed behind the failure of the lookup.
    | none =>
      obtain ⟨link, after, behind, notices, left, single', spoilt, unused'⟩ :=
        session.perform_begun disk before statement values (some (cacheText statement values))
      refine ⟨link, after, before, behind, false, notices, left, single, single', ?_, ?_⟩
      · intro failure failed
        exact ⟨rfl, spoilt failure failed⟩
      · rintro (unkept | none)
        · exact off unkept
        · exact ⟨(unused none).1, unused' (.inr none)⟩
  · -- The cache is left out, before the statement and behind it.
    obtain ⟨link, after, behind, notices, left, single, spoilt, unused⟩ :=
      session.perform_begun session.disk [] statement values none
    refine ⟨link, after, [], behind, false, notices, left, ofOneStep_nil, single, ?_, ?_⟩
    · intro failure failed
      exact ⟨rfl, spoilt failure failed⟩
    · intro _
      exact ⟨rfl, unused (.inl rfl)⟩

end Session

end Querent
