import Querent.Proofs.Session.Agreement
import Querent.Proofs.Session.Operation

/-! Two sessions side by side, of which one remembers a failure that the other one does not know of,
and may have another directory for a cache to come. -/

namespace Querent

namespace Record

/-- Remembers a failure with the statement that it was recorded with. -/
def remember (record : Record) (entry : ErrorRecord) : Record :=
  { record with errors := logged record.errors entry, lastError := some entry.message }

/-- The record with the failures of another one. -/
def withFailuresOf (record other : Record) : Record :=
  { record with errors := other.errors, lastError := other.lastError }

/-- What a record remembers behind an old one when some failures came since then. -/
structure Since (old : Record) (since : List ErrorRecord) (record : Record) : Prop where
  errors : record.errors = (since.foldl remember old).errors
  lastError : record.lastError = (since.foldl remember old).lastError

variable {old record : Record} {since : List ErrorRecord}

/-- A record has nothing behind itself. -/
theorem since_nil (old : Record) : Since old [] old :=
  ⟨rfl, rfl⟩

/-- One more failure is remembered behind all others. -/
theorem Since.error (remembered : Since old since record) (message : String) :
    Since old (since ++ [⟨message, record.lastQuery⟩]) (record.error message) := by
  -- The failure is one more on both sides of the fold.
  constructor
  · rw [List.foldl_append]
    exact congrArg (logged · _) remembered.errors
  · rw [List.foldl_append]
    rfl

end Record

namespace Session

variable {σ α β : Type}

/-- The session with another setting and directory for its cache, other failures and reports. -/
def altered (session : Session σ) (enabled : Bool) (directory : String) (failures : Record)
    (traceLog : List Report) : Session σ :=
  { session with
    cacheConfig := { session.cacheConfig with enabled := enabled, directory := directory }
    record := session.record.withFailuresOf failures
    traceLog := traceLog }

/-- Whether a session is another one altered: it remembers an entry behind an old record, and since
then both remember the same failures. A cache that is there is enabled in both. -/
structure Beside (old : Record) (entry : ErrorRecord) (a b : Session σ) : Prop where
  altered : ∃ (since : List ErrorRecord) (enabled : Bool) (directory : String)
    (traceLog : List Report),
    a = b.altered enabled directory (since.foldl Record.remember (old.remember entry)) traceLog ∧
      Record.Since old since b.record ∧
      traceLog.map Report.withoutFailure = b.traceLog.map Report.withoutFailure ∧
      (b.cache ≠ none → enabled = true ∧ b.cacheConfig.enabled = true)

/-- Whether two steps give the same and leave sessions beside one another. -/
structure Step.Beside (old : Record) (entry : ErrorRecord) (s t : Step σ α) : Prop where
  outcome : s.1 = t.1
  session : s.2.Beside old entry t.2

/-- Whether a session leaves its failures, its reports and its cache alone. -/
structure Still (before after : Session σ) : Prop where
  errors : after.record.errors = before.record.errors
  lastError : after.record.lastError = before.record.lastError
  traceLog : after.traceLog = before.traceLog
  cache : after.cache = before.cache
  enabled : after.cacheConfig.enabled = before.cacheConfig.enabled

/-- A step with the session altered that it leaves. -/
def Step.altered (step : Step σ α) (enabled : Bool) (directory : String) (failures : Record)
    (traceLog : List Report) : Step σ α :=
  (step.1, step.2.altered enabled directory failures traceLog)

variable {old : Record} {entry : ErrorRecord}

/-- Steps leave sessions beside one another if they go on so from first steps that do. -/
theorem Step.Beside.andThen {s t : Step σ α} {next : α → Session σ → Step σ β}
    (first : s.Beside old entry t) (rest : ∀ answer a b, Session.Beside old entry a b →
      (next answer a).Beside old entry (next answer b)) :
    (s.andThen next).Beside old entry (t.andThen next) := by
  obtain ⟨outcome, a⟩ := s
  obtain ⟨outcome', b⟩ := t
  obtain rfl : outcome = outcome' := first.outcome
  -- A failure ends both, and both go on from the same answer.
  cases outcome with
  | error failure => exact ⟨rfl, first.session⟩
  | ok answer => exact rest answer a b first.session

/-- Another answer makes no difference. -/
theorem Step.Beside.map {s t : Step σ α} (steps : s.Beside old entry t) (give : α → β) :
    (Step.map give s).Beside old entry (Step.map give t) :=
  ⟨congrArg (Except.map give) steps.outcome, steps.session⟩

/-- A failure is remembered on both sides. -/
theorem Beside.recordError {a b : Session σ} (beside : a.Beside old entry b) (failure : Failure) :
    (a.recordError failure).Beside old entry (b.recordError failure) := by
  obtain ⟨since, enabled, directory, traceLog, rfl, remembered, reports, used⟩ := beside
  -- Both have seen one failure more since the old record, and the entry stays where it was.
  refine ⟨since ++ [⟨failure.message, b.record.lastQuery⟩], enabled, directory, traceLog, ?_,
    remembered.error failure.message, reports, used⟩
  rw [List.foldl_append]
  rfl

/-- What is noted is noted on both sides. -/
theorem Step.Beside.noted {s t : Step σ α} (steps : s.Beside old entry t) :
    (Session.noted s).Beside old entry (Session.noted t) := by
  obtain ⟨outcome, a⟩ := s
  obtain ⟨outcome', b⟩ := t
  obtain rfl : outcome = outcome' := steps.outcome
  -- The outcome is the same, so that both note a failure or neither does.
  cases outcome with
  | error failure => exact ⟨rfl, steps.session.recordError failure⟩
  | ok answer => exact steps

/-- A step that leaves failures, reports and the cache alone, and that does not look at them, leaves
sessions beside one another. -/
theorem Beside.step {a b : Session σ} (beside : a.Beside old entry b) {f : Session σ → Step σ α}
    (commutes : ∀ enabled directory failures traceLog,
      f (b.altered enabled directory failures traceLog) =
        (f b).altered enabled directory failures traceLog)
    (still : b.Still (f b).2) : Step.Beside old entry (f a) (f b) := by
  obtain ⟨since, enabled, directory, traceLog, rfl, remembered, reports, used⟩ := beside
  -- The altered session takes the same step, and then both are compared by what it left alone.
  rw [commutes]
  refine ⟨rfl, since, enabled, directory, traceLog, rfl, ⟨?_, ?_⟩, ?_, ?_⟩
  · exact still.errors.trans remembered.errors
  · exact still.lastError.trans remembered.lastError
  · rw [still.traceLog]
    exact reports
  · rw [still.cache, still.enabled]
    exact used

/-- A change that leaves failures, reports and the cache alone, and that does not look at them,
leaves sessions beside one another. -/
theorem Beside.change {a b : Session σ} (beside : a.Beside old entry b) {f : Session σ → Session σ}
    (commutes : ∀ enabled directory failures traceLog,
      f (b.altered enabled directory failures traceLog) =
        (f b).altered enabled directory failures traceLog)
    (still : b.Still (f b)) : (f a).Beside old entry (f b) :=
  (beside.step (f := fun session => (.ok (), f session))
    (fun enabled directory failures traceLog =>
      congrArg (Except.ok (), ·) (commutes enabled directory failures traceLog)) still).session

section

variable (session : Session σ) (enabled : Bool) (directory : String) (failures : Record)
  (traceLog : List Report)

/-- An altered step is altered all along. -/
theorem Step.andThen_altered (step : Step σ α) {next : α → Session σ → Step σ β}
    (rest : ∀ answer session, next answer (session.altered enabled directory failures traceLog) =
      (next answer session).altered enabled directory failures traceLog) :
    (step.altered enabled directory failures traceLog).andThen next =
      (step.andThen next).altered enabled directory failures traceLog := by
  obtain ⟨outcome, session⟩ := step
  cases outcome with
  | error failure => rfl
  | ok answer => exact rest answer session

/-- The link is opened alike. -/
theorem dial_altered : (session.altered enabled directory failures traceLog).dial =
    session.dial.altered enabled directory failures traceLog := by
  -- Neither the credentials nor the backend is among what was altered.
  show (if session.connection.hasCredentials then _ else _) = _
  unfold dial
  by_cases given : session.connection.hasCredentials = true
  · rw [if_pos given, if_pos given]
    rfl
  · rw [if_neg given, if_neg given]
    rfl

/-- The link is reached alike. -/
theorem reach_altered : (session.altered enabled directory failures traceLog).reach =
    session.reach.altered enabled directory failures traceLog := by
  -- The link tells whether it is open, and it is not altered.
  show (if session.isConnected then _ else _) = _
  unfold reach
  by_cases connected : session.isConnected = true
  · rw [if_pos connected, if_pos connected]
    rfl
  · rw [if_neg connected, if_neg connected, dial_altered]

/-- A report of the backend is heeded alike. -/
theorem heed_altered : (session.altered enabled directory failures traceLog).heed =
    session.heed.altered enabled directory failures traceLog := by
  -- The report is asked of the backend, which knows of no failure in the record.
  have same : (session.altered enabled directory failures traceLog).backend.fault?
      (session.altered enabled directory failures traceLog).link =
        session.backend.fault? session.link := rfl
  unfold heed
  rw [same]
  cases session.backend.fault? session.link with
  | none => rfl
  | some fault =>
    dsimp only
    by_cases passed : fault.isOutOfRange = true
    · rw [if_pos passed, if_pos passed]
      rfl
    · rw [if_neg passed, if_neg passed]
      rfl

/-- A statement is dispatched alike. -/
theorem dispatch_altered (statement : String) (values : List Value) :
    (session.altered enabled directory failures traceLog).dispatch statement values =
      (session.dispatch statement values).altered enabled directory failures traceLog := by
  have sent : ∀ session : Session σ,
      (session.altered enabled directory failures traceLog).send statement values =
        (session.send statement values).altered enabled directory failures traceLog :=
    fun _ => rfl
  -- The link is reached, the statement is sent, and what the backend reports is heeded.
  unfold dispatch
  rw [reach_altered]
  refine Step.andThen_altered _ _ _ _ _ fun _ session => ?_
  rw [sent]
  refine Step.andThen_altered _ _ _ _ _ fun execution session => ?_
  rw [heed_altered]
  refine Step.andThen_altered _ _ _ _ _ fun _ session => ?_
  cases execution <;> rfl

end

/-- To have a statement run leaves failures, reports and the cache alone. -/
theorem still_dispatch (session : Session σ) (statement : String) (values : List Value) :
    session.Still (session.dispatch statement values).2 := by
  obtain ⟨link, notices, left, -⟩ := session.dispatch_left statement values
  rw [left]
  exact ⟨rfl, rfl, rfl, rfl, rfl⟩

namespace Beside

variable {a b : Session σ} (beside : a.Beside old entry b)

include beside

/-- Sessions beside one another agree but for their failures and what they have for caches. -/
theorem agrees : a.Agrees b := by
  -- All that is altered is what such sessions may differ in.
  obtain ⟨since, enabled, directory, traceLog, rfl, -, reports, -⟩ := beside
  exact { Agrees.refl b with traceLog := reports }

/-- A statement is finished on both sides. -/
theorem finish (timer : Nat) : (a.finish timer).Beside old entry (b.finish timer) := by
  -- The reports are compared without their failures, as in sessions that agree.
  have reports := (beside.agrees.finish timer).traceLog
  obtain ⟨since, enabled, directory, traceLog, rfl, remembered, -, used⟩ := beside
  rw [finish_eq, finish_eq] at reports ⊢
  exact ⟨since, enabled, directory, _, rfl, ⟨remembered.errors, remembered.lastError⟩, reports,
    used⟩

/-- The caches are the same, and so are the files and the time. -/
theorem surroundings : a.cache = b.cache ∧ a.disk = b.disk ∧ a.now = b.now := by
  obtain ⟨_, _, _, _, rfl, -⟩ := beside
  exact ⟨rfl, rfl, rfl⟩

/-- Other files are found on both sides; the cache and the time are the same anyway. -/
theorem onDisk (disk : Disk) : Session.Beside old entry
    { a with cache := b.cache, disk := disk, now := b.now } { b with disk := disk } := by
  obtain ⟨since, enabled, directory, traceLog, rfl, remembered, reports, used⟩ := beside
  exact ⟨since, enabled, directory, traceLog, rfl, remembered, reports, used⟩

/-- The cache is asked on both sides. -/
theorem consult (text : String) :
    (a.consult text).1 = (b.consult text).1 ∧
      (a.consult text).2.Beside old entry (b.consult text).2 := by
  obtain ⟨cache, disk, now⟩ := beside.surroundings
  unfold Session.consult
  rw [cache, disk, now]
  split
  · exact ⟨rfl, beside⟩
  · -- A failure of the cache is one on both sides.
    next cache _ =>
    split
    · exact ⟨rfl, beside.onDisk _⟩
    · exact ⟨rfl, beside.onDisk _⟩
    · next failure disk _ => exact ⟨rfl, (beside.onDisk disk).recordError failure⟩

/-- A result is kept on both sides. -/
theorem keep (text : String) (result : QueryResult) :
    (a.keep text result).Beside old entry (b.keep text result) := by
  obtain ⟨cache, disk, now⟩ := beside.surroundings
  unfold Session.keep
  rw [cache, disk, now]
  -- There is no cache, or it takes the result on both sides, or it fails on both.
  split
  · exact beside
  · next cache _ =>
    dsimp only
    split
    · exact beside.onDisk _
    · next failure disk _ => exact (beside.onDisk disk).recordError failure

/-- A result is remembered on both sides. -/
theorem absorb (result : QueryResult) : (a.absorb result).Beside old entry (b.absorb result) := by
  refine beside.change (f := fun session => session.absorb result) (fun _ _ _ _ => rfl) ?_
  exact ⟨rfl, rfl, rfl, rfl, rfl⟩

/-- A statement is performed on both sides. -/
theorem perform (timer : Nat) (statement : String) (values : List Value) (text : Option String) :
    Step.Beside old entry (a.perform timer statement values text)
      (b.perform timer statement values text) := by
  have dispatched : Step.Beside old entry (a.dispatch statement values)
      (b.dispatch statement values) :=
    beside.step (f := fun session => session.dispatch statement values)
      (fun _ _ _ _ => dispatch_altered b _ _ _ _ statement values)
      (b.still_dispatch statement values)
  unfold Session.perform
  generalize a.dispatch statement values = step at dispatched ⊢
  generalize b.dispatch statement values = step' at dispatched ⊢
  obtain ⟨outcome, a⟩ := step
  obtain ⟨outcome', b⟩ := step'
  obtain rfl : outcome = outcome' := dispatched.outcome
  have after : a.Beside old entry b := dispatched.session
  -- A failure is recorded, and a result is remembered and kept where it is to be.
  cases outcome with
  | error failure => exact ⟨rfl, (after.recordError failure).finish timer⟩
  | ok result =>
    have absorbed := after.absorb result
    cases text with
    | none => exact ⟨rfl, absorbed.finish timer⟩
    | some text => exact ⟨rfl, (absorbed.keep text result).finish timer⟩

end Beside

/-- Without a cache it makes no difference whether a result is to be kept. -/
theorem perform_of_no_cache {session : Session σ} (none : session.cache = none) (timer : Nat)
    (statement : String) (values : List Value) (text : Option String) :
    session.perform timer statement values text =
      session.perform timer statement values .none := by
  -- What was dispatched has no cache either.
  have still := (session.still_dispatch statement values).cache
  unfold perform
  generalize session.dispatch statement values = step at still ⊢
  obtain ⟨outcome, after⟩ := step
  have none' : after.cache = .none := still.trans none
  cases outcome with
  | error failure => rfl
  | ok result =>
    cases text with
    | none => rfl
    | some text =>
      have kept : (after.absorb result).keep text result = after.absorb result := by
        unfold keep
        rw [show (after.absorb result).cache = .none from none']
      dsimp only
      rw [kept]

/-- Without a cache, a statement is begun and performed. -/
theorem run_of_no_cache {session : Session σ} (none : session.cache = none) (sql : String)
    (values : List Value) :
    let statement := session.backend.style.normalize sql
    let begun := session.begin statement
    session.run sql values = begun.perform begun.record.queries statement values .none := by
  intro statement begun
  -- Without a cache, there is nothing to ask.
  have unasked : begun.consult (cacheText statement values) = (.none, begun) := by
    unfold consult
    rw [show begun.cache = .none from none]
  unfold run
  dsimp only
  split
  · rw [unasked]
    exact perform_of_no_cache (show begun.cache = .none from none) _ _ _ _
  · rfl

namespace Beside

variable {a b : Session σ} (beside : a.Beside old entry b)

include beside

/-- Whether results are kept is the same on both sides if there is a cache. -/
theorem keeps (used : b.cache ≠ none) (mutating : Bool) :
    a.cacheConfig.keeps mutating = b.cacheConfig.keeps mutating := by
  -- A cache that is there is enabled on both sides, and the other settings are the same.
  obtain ⟨since, enabled, directory, traceLog, rfl, -, -, on⟩ := beside
  unfold CacheConfig.keeps
  rw [(on used).2]
  show (enabled && _) = _
  rw [(on used).1]
  rfl

/-- A statement is begun on both sides. -/
theorem begin (statement : String) : (a.begin statement).Beside old entry (b.begin statement) := by
  refine beside.change (f := fun session => session.begin statement) (fun _ _ _ _ => rfl) ?_
  exact ⟨rfl, rfl, rfl, rfl, rfl⟩

/-- A statement is run on both sides. -/
theorem run (sql : String) (values : List Value) :
    Step.Beside old entry (a.run sql values) (b.run sql values) := by
  have style : a.backend.style = b.backend.style := congrArg Backend.style beside.agrees.backend
  have begun := beside.begin (b.backend.style.normalize sql)
  have timer : (a.begin (b.backend.style.normalize sql)).record.queries =
      (b.begin (b.backend.style.normalize sql)).record.queries := by
    have counted := congrArg Record.queries begun.agrees.record
    exact counted
  by_cases none : b.cache = .none
  · -- Without a cache there is nothing to ask, whatever the settings say.
    have none' : a.cache = .none := beside.surroundings.1.trans none
    rw [run_of_no_cache none, run_of_no_cache none', style, timer]
    exact begun.perform _ _ _ _
  · unfold Session.run
    dsimp only
    rw [style, timer, begun.keeps none]
    split
    · -- The cache has the same on both sides, or it has nothing.
      have asked := begun.consult (cacheText (b.backend.style.normalize sql) values)
      generalize (a.begin _).consult _ = step at asked ⊢
      generalize (b.begin _).consult _ = step' at asked ⊢
      obtain ⟨found, a⟩ := step
      obtain ⟨found', b⟩ := step'
      obtain rfl : found = found' := asked.1
      have after : a.Beside old entry b := asked.2
      cases found with
      | none => exact after.perform _ _ _ _
      | some result =>
        have given : Session.Beside old entry
            { a.absorb result with record.given.fromCache := true }
            { b.absorb result with record.given.fromCache := true } := by
          refine (after.absorb result).change
            (f := fun session => { session with record.given.fromCache := true })
            (fun _ _ _ _ => rfl) ?_
          exact ⟨rfl, rfl, rfl, rfl, rfl⟩
        exact ⟨rfl, given.finish _⟩
    · exact begun.perform _ _ _ _

/-- A call is remembered on both sides. -/
theorem logCall (text : String) : (a.logCall text).Beside old entry (b.logCall text) := by
  refine beside.change (f := fun session => session.logCall text) (fun _ _ _ _ => rfl) ?_
  exact ⟨rfl, rfl, rfl, rfl, rfl⟩

/-- What is pending is forgotten on both sides. -/
theorem clearPending : a.clearPending.Beside old entry b.clearPending := by
  refine beside.change (f := fun session => session.clearPending) (fun _ _ _ _ => rfl) ?_
  exact ⟨rfl, rfl, rfl, rfl, rfl⟩

/-- A statement is run with what is pending on both sides. -/
theorem query (sql : String) : Step.Beside old entry (a.query sql) (b.query sql) := by
  unfold Session.query
  rw [beside.agrees.compiler]
  exact (beside.logCall _).clearPending.run sql b.compiler.pending

/-- Literals are escaped alike. -/
theorem escape : a.escape = b.escape :=
  congrArg Backend.escape beside.agrees.backend

/-- A step of the compiler is taken on both sides. -/
theorem compiled (step : Except ClauseFault α × Compiler) :
    Step.Beside old entry (a.compiled step) (b.compiled step) := by
  have left := beside.change (f := fun session => { session with compiler := step.2 })
    (fun _ _ _ _ => rfl) ⟨rfl, rfl, rfl, rfl, rfl⟩
  exact Step.Beside.noted ⟨rfl, left⟩

/-- A statement is built on both sides. -/
theorem assemble (statement : Statement) :
    Step.Beside old entry (a.assemble statement) (b.assemble statement) := by
  unfold Session.assemble
  rw [beside.escape, beside.agrees.compiler]
  exact beside.compiled _

/-- A clause is compiled on both sides. -/
theorem clause (announced : Bool) (conditions : List Condition) : Step.Beside old entry
    (if announced then a.having conditions else a.filter conditions)
    (if announced then b.having conditions else b.filter conditions) := by
  unfold Session.having Session.filter
  rw [beside.escape, beside.agrees.compiler]
  split <;> exact beside.compiled _

/-- A statement is built and run on both sides. -/
theorem carryOut (statement : Statement) :
    Step.Beside old entry (a.carryOut statement) (b.carryOut statement) :=
  (beside.assemble statement).andThen fun sql _ _ beside => beside.query sql

/-- What is read of the last result, or of that of a statement, is read on both sides. -/
theorem reading (name : String) (sql : Option String) (others : List String)
    (read : Session σ → α)
    (same : ∀ a b : Session σ, a.record.given = b.record.given → read a = read b) :
    Step.Beside old entry
      (((a.logReading name sql others).queryIfGiven sql).andThen fun _ session =>
        (.ok (read session), session))
      (((b.logReading name sql others).queryIfGiven sql).andThen fun _ session =>
        (.ok (read session), session)) := by
  -- The call is remembered first, whatever is read behind it.
  have logged := beside.logCall
    (name ++ "(" ++ joinWith ", " (("\"" ++ sql.getD "" ++ "\"") :: others) ++ ")")
  have asked : Step.Beside old entry ((a.logReading name sql others).queryIfGiven sql)
      ((b.logReading name sql others).queryIfGiven sql) := by
    cases sql with
    | none => exact ⟨rfl, logged⟩
    | some sql => exact (logged.query sql).andThen fun _ _ _ beside => ⟨rfl, beside⟩
  refine asked.andThen fun _ a b beside => ⟨congrArg Except.ok (same a b ?_), beside⟩
  have given := congrArg Record.given beside.agrees.record
  exact given

/-- The link is opened on both sides. -/
theorem connect : Step.Beside old entry a.connect b.connect := by
  -- To dial looks at nothing that was altered.
  have dialed : Step.Beside old entry a.dial b.dial := by
    refine beside.step (f := Session.dial) (fun _ _ _ _ => dial_altered b _ _ _ _) ?_
    obtain ⟨link, left⟩ := b.dial_left
    rw [left]
    exact ⟨rfl, rfl, rfl, rfl, rfl⟩
  refine Step.Beside.noted (dialed.andThen fun _ a b beside => ⟨rfl, ?_⟩)
  exact beside.change (f := Session.recount) (fun _ _ _ _ => rfl) ⟨rfl, rfl, rfl, rfl, rfl⟩

/-- The link is closed on both sides. -/
theorem disconnect : Step.Beside old entry a.disconnect b.disconnect := by
  -- Nor does the backend when the link is closed.
  have closed : Step.Beside old entry
      ((a.backend.disconnect a.link).1, { a with link := (a.backend.disconnect a.link).2 })
      ((b.backend.disconnect b.link).1, { b with link := (b.backend.disconnect b.link).2 }) := by
    refine beside.step (f := fun session => ((session.backend.disconnect session.link).1,
      { session with link := (session.backend.disconnect session.link).2 }))
      (fun _ _ _ _ => rfl) ⟨rfl, rfl, rfl, rfl, rfl⟩
  refine closed.andThen fun _ a b beside => ⟨rfl, ?_⟩
  exact beside.change (f := Session.recount) (fun _ _ _ _ => rfl) ⟨rfl, rfl, rfl, rfl, rfl⟩

/-- A cache is made on both sides, where both make it in the same directory. -/
theorem createCache (directory : Option String)
    (same : directory.getD a.cacheConfig.directory = directory.getD b.cacheConfig.directory) :
    Step.Beside old entry (a.createCache directory) (b.createCache directory) := by
  obtain ⟨since, enabled, _, traceLog, rfl, remembered, reports, used⟩ := beside
  unfold Session.createCache
  -- Whether it can be made or not, the settings are then the same on both sides.
  refine Step.Beside.noted ?_
  dsimp only
  rw [same]
  dsimp only [Session.altered]
  -- What becomes of the directory is decided by the disk.
  generalize ResultCache.ensure _ b.now b.disk = step
  obtain ⟨outcome, disk⟩ := step
  cases outcome <;>
    exact ⟨rfl, since, true, _, traceLog, rfl, remembered, reports, fun _ => ⟨rfl, rfl⟩⟩

/-- An operation is served on both sides, where a cache without a directory of its own is made in
the same one. -/
theorem serve (operation : Operation) (same : operation = .createCache none →
    a.cacheConfig.directory = b.cacheConfig.directory) :
    Step.Beside old entry (a.serve operation) (b.serve operation) := by
  -- What is read is read from the last result, which is the same on both sides.
  have rows : ∀ a b : Session σ, a.record.given = b.record.given → a.heldRows = b.heldRows := by
    intro a b given
    unfold heldRows
    rw [given]
  have value : ∀ column row (a b : Session σ), a.record.given = b.record.given →
      a.valueAt? column row = b.valueAt? column row := by
    intro column row a b given
    unfold valueAt?
    rw [given]
  -- Each operation is made of the steps above, or sets one field.
  cases operation with
  | connect => exact beside.connect.map _
  | disconnect => exact beside.disconnect.map _
  | createCache directory =>
    refine (beside.createCache directory ?_).map _
    -- A directory that is given is the same anyway.
    cases directory with
    | none => exact same rfl
    | some directory => rfl
  | clause announced conditions => exact (beside.clause announced conditions).map _
  | selectionText table columns modifiers => exact (beside.assemble _).map _
  | query sql => exact (beside.query sql).map _
  | queryWith sql values => exact ((beside.logCall _).clearPending.run sql values).map _
  | build statement =>
    have carried := beside.carryOut statement
    cases statement with
    | select table columns modifiers =>
      exact Step.Beside.map (carried.andThen fun _ _ _ beside => ⟨rfl, beside⟩) _
    | _ => exact carried.map _
  | getValue sql column row => exact (beside.reading _ sql _ _ (value column row)).map _
  | getRow sql shape row =>
    refine (beside.reading _ sql _ (fun session => session.heldRows[row]?.map (Row.view shape))
      fun a b given => ?_).map _
    rw [rows a b given]
  | getColumn sql column =>
    refine (beside.reading _ sql _ (fun session =>
      (List.range session.heldRows.length).map (session.valueAt? column))
      fun a b given => ?_).map _
    rw [rows a b given]
    exact List.map_congr_left fun row _ => value column row a b given
  | getResults sql shape =>
    refine (beside.reading _ sql _ (fun session => RowsView.ofRows shape session.heldRows)
      fun a b given => ?_).map _
    rw [rows a b given]
  | flush =>
    refine ⟨rfl, beside.change (f := Session.flush) (fun _ _ _ _ => rfl) ?_⟩
    exact ⟨rfl, rfl, rfl, rfl, rfl⟩
  | clearPending => exact ⟨rfl, beside.clearPending⟩
  | count all increase =>
    refine beside.step (f := fun session => session.serve (.count all increase)) ?_ ?_
    · intro enabled directory failures traceLog
      cases all <;> cases increase <;> rfl
    · cases increase <;> exact ⟨rfl, rfl, rfl, rfl, rfl⟩
  | setPrepared on =>
    refine ⟨rfl, beside.change (f := fun session => session.setPrepared on) (fun _ _ _ _ => rfl) ?_⟩
    exact ⟨rfl, rfl, rfl, rfl, rfl⟩
  | setShowErrors on =>
    refine ⟨rfl, beside.change (f := fun session => session.setShowErrors on)
      (fun _ _ _ _ => rfl) ?_⟩
    exact ⟨rfl, rfl, rfl, rfl, rfl⟩
  | setDebug on =>
    refine ⟨rfl, beside.change (f := fun session => session.setDebug on) (fun _ _ _ _ => rfl) ?_⟩
    exact ⟨rfl, rfl, rfl, rfl, rfl⟩
  | setCacheQueries on =>
    refine ⟨rfl, beside.change (f := fun session => session.setCacheQueries on)
      (fun _ _ _ _ => rfl) ?_⟩
    exact ⟨rfl, rfl, rfl, rfl, rfl⟩
  | setCacheInserts on =>
    refine ⟨rfl, beside.change (f := fun session => session.setCacheInserts on)
      (fun _ _ _ _ => rfl) ?_⟩
    exact ⟨rfl, rfl, rfl, rfl, rfl⟩

end Beside

end Session
end Querent
