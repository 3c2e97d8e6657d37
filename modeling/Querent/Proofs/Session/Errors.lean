import Mathlib.Data.List.DropRight
import Querent.Proofs.Session.Files

/-! Which failures a statement leaves in the log of errors, and how many entries a log keeps. -/

namespace Querent

section

variable {α : Type}

/-- A log of the last entries of a list takes one more of them. -/
theorem logged_rtake (entries : List α) (entry : α) :
    logged (entries.rtake logCapacity) entry = (entries ++ [entry]).rtake logCapacity := by
  simp only [logged, List.rtake, List.length_drop, List.length_append, List.length_singleton]
  rcases Nat.lt_or_ge entries.length logCapacity with room | full
  · -- Nothing was left out, and nothing has to be now.
    have none : entries.length - logCapacity = 0 := by omega
    have still : entries.length + 1 - logCapacity = 0 := by omega
    rw [none, still, if_neg (by omega), List.drop_zero, List.drop_zero]
  · -- One more of the oldest entries is left out.
    have some : 0 < logCapacity := by decide
    rw [if_pos (by omega), List.drop_drop, List.drop_append_of_le_length (by omega)]
    congr 2
    omega

/-- A log of the last entries of a list takes more of them in turn. -/
theorem foldl_logged_rtake (entries more : List α) :
    more.foldl logged (entries.rtake logCapacity) = (entries ++ more).rtake logCapacity := by
  -- The entries grow at their end while the list of new ones is used up.
  induction more generalizing entries with
  | nil => rw [List.foldl_nil, List.append_nil]
  | cons entry more ih =>
    rw [List.foldl_cons, logged_rtake, ih, List.append_assoc, List.singleton_append]

end

namespace Session

variable {σ : Type}

/-- The files once the cache, if there is one, has been asked for a text. -/
def askedDisk (session : Session σ) (text : String) : Disk :=
  match session.cache with
  | none => session.disk
  | some cache => (cache.lookup session.now text session.disk).2

/-- The failure of the cache, if there is one, in looking for a text. -/
def lookupFailures (session : Session σ) (text : String) : List Failure :=
  match session.cache with
  | none => []
  | some cache => failuresOf (cache.lookup session.now text session.disk).1

/-- The failure of the cache, if there is one, in keeping a result under a text. -/
def storeFailures (session : Session σ) (text : String) (result : QueryResult) : List Failure :=
  match session.cache with
  | none => []
  | some cache =>
    failuresOf (cache.store session.now text (.ofResult session.now result) session.disk).1

/-- The failures around a statement that is run with values, in their order, where its own ones and
what it gave are known: that of looking for its result comes first, and that of keeping the result
last, unless the result was found. -/
def runFailures (session : Session σ) (statement : String) (values : List Value)
    (own : List Failure) (given : Yield) : List Failure :=
  let text := cacheText statement values
  if session.cacheConfig.keeps (StatementKind.of statement = .mutating) then
    session.lookupFailures text ++ own ++
      match given.outcome with
      | none => []
      | some result =>
        if given.fromCache then []
        else { session with disk := session.askedDisk text }.storeFailures text result
  else own

/-- To ask the cache changes the files by the lookup, and remembers the failure of it. -/
theorem consult_eq (session : Session σ) (text : String) :
    (session.consult text).2 = { session with
      disk := session.askedDisk text
      record := session.record.failed (session.lookupFailures text) } := by
  unfold consult askedDisk lookupFailures
  obtain ⟨_, _, _, _, _, cache, _, _, _, disk, now⟩ := session
  -- Without a cache, nothing is asked and nothing changes.
  cases cache with
  | none => rfl
  | some cache =>
    dsimp only
    generalize cache.lookup now text disk = looked
    obtain ⟨outcome, disk⟩ := looked
    -- What is found is no concern here: only a failure is remembered.
    cases outcome with
    | error failure => rfl
    | ok found => cases found <;> rfl

/-- To keep a result is to remember the failure of it. -/
theorem record_keep (session : Session σ) (text : String) (result : QueryResult) :
    (session.keep text result).record =
      session.record.failed (session.storeFailures text result) := by
  unfold keep storeFailures
  obtain ⟨_, _, _, _, _, cache, _, _, _, disk, now⟩ := session
  cases cache with
  | none => rfl
  | some cache =>
    dsimp only
    generalize cache.store now text (.ofResult now result) disk = stored
    obtain ⟨outcome, disk⟩ := stored
    -- A result that is kept leaves no trace in the record.
    cases outcome <;> rfl

/-- A statement that is performed remembers its own failure, or that of keeping its result. -/
theorem errors_perform (session : Session σ) (timer : Nat) (statement : String)
    (values : List Value) (text : Option String) :
    let step := session.perform timer statement values text
    step.2.record.errors = (session.record.failed (failuresOf step.1 ++
      match step.1, text with
      | .ok result, some text => session.storeFailures text result
      | _, _ => [])).errors := by
  -- The backend changes the link and the reports, and no log of failures.
  obtain ⟨link, notices, left, -⟩ := session.dispatch_left statement values
  unfold perform
  generalize session.dispatch statement values = step at left ⊢
  obtain ⟨outcome, dispatched⟩ := step
  obtain rfl : dispatched = _ := left
  cases outcome with
  -- A statement that fails is not kept, so that its own failure is the only one.
  | error failure =>
    dsimp only
    rw [finish_eq]
    rfl
  | ok result =>
    dsimp only
    rw [finish_eq]
    cases text with
    | none => rfl
    | some text =>
      -- What the statement gave is no part of the log.
      dsimp only [Record.stop]
      rw [record_keep, Record.errors_failed, Record.errors_failed]
      rfl

/-- What a statement gave that is performed is its own result. -/
theorem outcome_perform {session : Session σ} (fresh : session.record.given = .none) (timer : Nat)
    (statement : String) (values : List Value) (text : Option String) :
    let step := session.perform timer statement values text
    step.2.record.given.outcome = step.1.toOption := by
  intro step
  obtain ⟨link, disk, behind, notices, left, -⟩ :=
    session.perform_left timer statement values text
  rw [show step.2 = _ from left, finish_eq]
  -- Nothing was given before, so that only the result of the statement is left.
  change (session.record.given.settle step.1).outcome = step.1.toOption
  rw [fresh]
  cases step.1 with
  | error failure => rfl
  | ok result => cases result <;> rfl

/-- A statement that is performed once the cache was asked for it remembers the failure of that
before its own, and that of keeping its result behind it. -/
theorem errors_perform_asked (session : Session σ) (statement : String) (values : List Value) :
    let begun := session.begin statement
    let text := cacheText statement values
    let step := Session.perform { begun with
      disk := begun.askedDisk text
      record := begun.record.failed (begun.lookupFailures text) } begun.record.queries statement
        values (some text)
    step.2.record.errors = ((session.record.start statement).failed
      (session.lookupFailures text ++ failuresOf step.1 ++
        match step.2.record.given.outcome with
        | none => []
        | some result =>
          if step.2.record.given.fromCache then []
          else { session with
            disk := session.askedDisk text }.storeFailures text result)).errors := by
  intro begun text
  -- The session that performs the statement is the one behind the lookup.
  generalize prepared : ({ begun with
    disk := begun.askedDisk text
    record := begun.record.failed (begun.lookupFailures text) } : Session σ) = asked
  intro step
  have before : asked.record =
      (session.record.start statement).failed (session.lookupFailures text) := by
    rw [← prepared]
    rfl
  have stores : ∀ result, asked.storeFailures text result =
      { session with disk := session.askedDisk text }.storeFailures text result := by
    rw [← prepared]
    exact fun _ => rfl
  -- It shows nothing yet, and what it performs does not come from the cache.
  have fresh : asked.record.given = .none := by
    rw [before]
    exact Record.given_failed _ _
  have logs : step.2.record.errors = _ :=
    asked.errors_perform begun.record.queries statement values (some text)
  have given : step.2.record.given.outcome = step.1.toOption :=
    outcome_perform fresh begun.record.queries statement values (some text)
  have unfound : step.2.record.given.fromCache = false :=
    fromCache_perform (congrArg Yield.fromCache fresh) begun.record.queries statement values
      (some text)
  rw [logs, given, unfound, before, ← Record.failed_append, List.append_assoc]
  -- Only a result is offered to the cache, and what comes of that is the last to be remembered.
  cases step.1 with
  | error failure => rfl
  | ok result =>
    dsimp only
    rw [stores]
    rfl

/-- A statement that is run leaves the failures around it in the log of errors, each with its text.
-/
theorem errors_run (session : Session σ) (sql : String) (values : List Value) :
    let statement := session.backend.style.normalize sql
    let step := session.run sql values
    step.2.record.errors = ((session.runFailures statement values (failuresOf step.1)
      step.2.record.given).map fun failure => ⟨failure.message, some statement⟩).foldl logged
        session.record.errors := by
  intro statement step
  have remembered : ∀ failures, ((session.record.start statement).failed failures).errors =
      (failures.map fun failure => ⟨failure.message, some statement⟩).foldl logged
        session.record.errors := by
    intro failures
    rw [Record.errors_failed, List.foldl_map]
    rfl
  -- Both sides are now the log of one record that fails in turn.
  rw [← remembered]
  unfold runFailures
  rcases session.run_cases sql values with ⟨unkept, ran⟩ | ⟨kept, ran⟩
  · -- The cache is not asked, and nothing is kept.
    have logs := errors_perform (session.begin statement) (session.begin statement).record.queries
      statement values none
    dsimp only at logs
    rw [if_neg (by simp [statement, unkept]), show step = _ from ran, logs]
    cases (Session.perform _ _ statement values none).1 <;> rfl
  · rw [if_pos kept]
    rw [consult_eq] at ran
    rcases ran with ⟨result, -, ran⟩ | ⟨-, ran⟩
    · -- The result was found, which is no failure and leaves nothing to keep.
      have nothing : ∀ failures : List Failure, failures ++ [] ++ [] = failures := by simp
      rw [show step = _ from ran, answer, finish_eq]
      cases result <;> exact congrArg (fun failures =>
        ((session.record.start statement).failed failures).errors) (nothing _).symm
    · -- The result was not found, so that the statement is performed and its result is kept.
      rw [show step = _ from ran]
      exact session.errors_perform_asked statement values

end Session

end Querent
