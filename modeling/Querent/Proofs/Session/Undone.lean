import Querent.Proofs.Session.Beside
import Querent.Proofs.Session.CacheText
import Querent.Proofs.Session.Files
import Querent.Proofs.Session.Given

/-! What is left of a cache that could not be made: the failure, the directory that was asked for,
and directories on the way to it. -/

namespace Querent

/-- The directory that an operation makes a cache in, if it names one. -/
def Operation.directory? : Operation → Option String
  | .createCache directory => directory
  | _ => none

namespace Session

variable {σ : Type}

/-- The directory that is named last for a cache. -/
def lastDirectory? : List Event → Option String
  | [] => none
  | .ask operation :: earlier => operation.directory?.or (lastDirectory? earlier)
  | .pass _ _ :: earlier => lastDirectory? earlier

/-- An operation sets the directory that it names, and a cache that is there behind it is enabled if
one before it was. -/
theorem settings_serve (session : Session σ) (operation : Operation) :
    (session.serve operation).2.cacheConfig.directory =
        operation.directory?.getD session.cacheConfig.directory ∧
      ((session.cache ≠ none → session.cacheConfig.enabled = true) →
        (session.serve operation).2.cache ≠ none →
          (session.serve operation).2.cacheConfig.enabled = true) := by
  -- Operations that run a statement leave the settings, and so do all others but one.
  cases given : session.statement? operation with
  | some sql =>
    -- A statement that is run leaves the settings alone.
    have unnamed : operation.directory? = none := by
      cases operation <;> first | rfl | cases given
    obtain ⟨compiler, lastCall, calls, answer, ran⟩ := runs_serve given
    obtain ⟨link, disk, before, behind, fromCache, notices, left, -⟩ := run_left _ sql _
    rw [ran, Step.map_snd, left, finish_eq, unnamed]
    exact ⟨rfl, fun on => on⟩
  | none =>
    by_cases made : ∃ directory, operation = .createCache directory
    · obtain ⟨directory, rfl⟩ := made
      rw [serve, Step.map_snd, Session.createCache, noted_eq]
      dsimp only
      split <;> exact ⟨rfl, fun _ _ => rfl⟩
    · have unnamed : operation.directory? = none := by
        cases operation with
        | createCache directory => exact absurd ⟨directory, rfl⟩ made
        | _ => rfl
      obtain ⟨-, cache, queries, inserts, config⟩ :=
        sparesCache_of_idle given fun directory same => made ⟨directory, same⟩
      rw [cache, config, unnamed]
      exact ⟨rfl, fun on => on⟩

/-- Whatever a session meets, its configured directory is the one that was named last. -/
theorem directory_after (session : Session σ) (events : List Event) :
    (session.after events).cacheConfig.directory =
      (lastDirectory? events).getD session.cacheConfig.directory := by
  induction events with
  | nil => rfl
  | cons event earlier ih =>
    cases event with
    | pass now disk => exact ih
    | ask operation =>
      have named := (settings_serve (session.after earlier) operation).1
      -- The latest event is asked first for a directory.
      rw [after, meet, named, ih, lastDirectory?]
      cases operation.directory? <;> rfl

/-- After whatever a new session meets, a cache that is there is enabled. -/
theorem enabled_after {backend : Backend σ} {link : σ} {config : SessionConfig} {disk : Disk}
    {now : Int} {session : Session σ} (started : start backend link config disk now = .ok session)
    (events : List Event) : (session.after events).cache ≠ none →
      (session.after events).cacheConfig.enabled = true := by
  induction events with
  | nil =>
    unfold start SessionConfig.validate at started
    split at started
    · -- A new session has a cache only if its settings have one enabled.
      obtain rfl := (Except.ok.inj started).symm
      intro used
      by_contra off
      exact used (if_neg off)
    · cases started
  | cons event earlier ih =>
    cases event with
    | pass now disk => exact ih
    | ask operation => exact (settings_serve (session.after earlier) operation).2 ih

/-- A failure to make a cache is remembered, and the directory that was asked for is configured. The
cache is the one that was there before, and files are as they were, while there may be more
directories. -/
theorem left_of_createCache_failed {session : Session σ} {directory : Option String}
    {failure : Failure} (failed : (session.createCache directory).1 = .error failure) :
    let place := directory.getD session.cacheConfig.directory
    let ensured := ResultCache.ensure ⟨place, session.cacheConfig.ttl⟩ session.now session.disk
    ensured.1 = .error failure ∧ ensured.2.file? = session.disk.file? ∧
      (session.createCache directory).2 = { session with
        cacheConfig := { session.cacheConfig with enabled := true, directory := place }
        record := session.record.error failure.message
        disk := ensured.2 } := by
  intro place ensured
  have files : ensured.2.file? = session.disk.file? := ResultCache.file?_ensure _ _ _
  rw [Session.createCache] at failed ⊢
  -- The settings are changed first, whatever becomes of the directory then.
  cases made : ensured with
  | mk outcome disk =>
    have made' : ResultCache.ensure ⟨directory.getD session.cacheConfig.directory,
        session.cacheConfig.ttl⟩ session.now session.disk = (outcome, disk) := made
    rw [made] at files
    dsimp only at failed ⊢
    rw [made'] at failed ⊢
    cases outcome with
    | ok _ => cases failed
    | error fault =>
      obtain rfl : fault = failure := Except.error.inj failed
      exact ⟨rfl, files, rfl⟩

end Session

/-- A disk with the same files on which every call is refused for a fault. -/
def Disk.refusing (disk : Disk) (fault : DiskFault) : Disk :=
  { disk with hindrances := ⟨fun _ _ => some fault, fun _ => none⟩ }

/-- No directory is made where every call is refused. -/
theorem ResultCache.ensure_refusing (cache : ResultCache) (now : Int) (disk : Disk) :
    cache.ensure now (disk.refusing .notDirectory) =
      (.error (cache.refusal .notDirectory), disk.refusing .notDirectory) := by
  have refused : ∀ path, (disk.refusing .notDirectory).createDirectory path now =
      .error .notDirectory := fun _ => rfl
  have unseen : ∀ path, (disk.refusing .notDirectory).isDirectory path = false := fun _ => rfl
  have ensured : ∀ path, (disk.refusing .notDirectory).ensureDirectory path now =
      (.error .notDirectory, disk.refusing .notDirectory) := by
    intro path
    rw [Disk.ensureDirectory, refused]
    exact if_neg (by simp [unseen])
  have made : (disk.refusing .notDirectory).createDirectories (pathOf cache.directory) now =
      (.error .notDirectory, disk.refusing .notDirectory) := by
    rw [Disk.createDirectories]
    cases (Path.names (pathOf cache.directory)).dropLast.reverse with
    | nil => exact ensured _
    | cons name above =>
      rw [Disk.createUpward, refused]
      exact ensured _
  rw [ensure, made]
  rfl

/-- What is said of a directory that is refused for a fault tells which one it is. -/
theorem ResultCache.directory_eq_of_refusal {cache other : ResultCache} {fault : DiskFault}
    (same : cache.refusal fault = other.refusal fault) : cache.directory = other.directory := by
  have spelled : ∀ cache : ResultCache, cache.refusal fault =
      .cache ("cannot create cache directory " ++ cache.directory ++ (": " ++ fault.message)) := by
    intro cache
    rw [refusal]
    simp [toString, String.append_assoc]
  rw [spelled, spelled] at same
  -- The texts are the same before and behind the directory.
  exact String.append_right_inj _ |>.mp (String.append_left_inj _ |>.mp (Failure.cache.inj same))

namespace Session

variable {σ : Type}

/-- How a session goes on as another one, apart from an entry of the error log that only the first
one has: the last operation gives the same answer or failure, the links and the files are the same
(and so are the calls, where links record them), and so is all that is remembered and reported
except for the entry. -/
structure GoesOnAs (a b : Session σ) (entry : ErrorRecord) (events : List Event) : Prop where
  answer : ∀ operation earlier, events = .ask operation :: earlier →
    ((a.after earlier).serve operation).1 = ((b.after earlier).serve operation).1
  link : (a.after events).link = (b.after events).link
  disk : (a.after events).disk = (b.after events).disk
  record : ∃ since : List ErrorRecord, (a.after events).record =
      (b.after events).record.withFailuresOf
        (since.foldl Record.remember (b.record.remember entry)) ∧
    Record.Since b.record since (b.after events).record
  reports : (a.after events).traceLog.map Report.withoutFailure =
    (b.after events).traceLog.map Report.withoutFailure

/-- Whether every cache that is made in the configured directory comes behind one with a directory
of its own; the latest event is the first of the list. -/
def Directed : List Event → Prop
  | [] => True
  | event :: earlier => (event = .ask (.createCache none) →
      ∃ directory, .ask (.createCache (some directory)) ∈ earlier) ∧ Directed earlier

/-- A directory that was named is the last one, or there is another one behind it. -/
theorem lastDirectory?_of_mem {events : List Event} {directory : String}
    (mem : .ask (.createCache (some directory)) ∈ events) : lastDirectory? events ≠ none := by
  -- Whatever comes behind the event names another directory or none.
  induction events with
  | nil => cases mem
  | cons event earlier ih =>
    rcases List.mem_cons.mp mem with rfl | before
    · exact Option.some_ne_none directory
    · cases event with
      | pass now disk => exact ih before
      | ask operation =>
        rw [lastDirectory?]
        cases operation.directory? with
        | none => exact ih before
        | some other => exact Option.some_ne_none other

variable {old : Record} {entry : ErrorRecord} {a b : Session σ}

/-- Sessions beside one another stay so, whatever they meet, as long as a cache in the configured
directory is made in the same one on both sides. -/
theorem Beside.after (beside : a.Beside old entry b) {events : List Event}
    (directed : a.cacheConfig.directory = b.cacheConfig.directory ∨ Directed events) :
    (a.after events).Beside old entry (b.after events) ∧
      ∀ operation earlier, events = .ask operation :: earlier →
        ((a.after earlier).serve operation).1 = ((b.after earlier).serve operation).1 := by
  -- The events are taken in their order, from the first one on.
  induction events with
  | nil => exact ⟨beside, fun _ _ none => nomatch none⟩
  | cons event earlier ih =>
    have before := (ih (directed.imp_right And.right)).1
    cases event with
    | pass now disk =>
      refine ⟨?_, fun _ _ other => nomatch other⟩
      exact before.change (f := fun session => { session with now := now, disk := disk })
        (fun _ _ _ _ => rfl) ⟨rfl, rfl, rfl, rfl, rfl⟩
    | ask operation =>
      have served : Step.Beside old entry ((a.after earlier).serve operation)
          ((b.after earlier).serve operation) := by
        refine before.serve operation fun unnamed => ?_
        rw [directory_after, directory_after]
        rcases directed with same | directed
        · rw [same]
        · -- Both sides have the directory that was named before.
          obtain ⟨directory, named⟩ := directed.1 (congrArg Event.ask unnamed)
          obtain ⟨last, found⟩ := Option.ne_none_iff_exists'.mp (lastDirectory?_of_mem named)
          rw [found]
          rfl
      refine ⟨served.session, fun _ _ same => ?_⟩
      obtain ⟨⟨rfl⟩, rfl⟩ := List.cons.inj same
      exact served.outcome

/-- A session beside another one goes on as that one. -/
theorem Beside.goesOnAs (beside : a.Beside b.record entry b) {events : List Event}
    (directed : a.cacheConfig.directory = b.cacheConfig.directory ∨ Directed events) :
    a.GoesOnAs b entry events := by
  obtain ⟨behind, answers⟩ := beside.after directed
  refine ⟨answers, behind.agrees.link, behind.surroundings.2.1, ?_, behind.agrees.traceLog⟩
  -- What the two sessions differ in is what was remembered.
  obtain ⟨since, _, _, _, shown, remembered, -⟩ := behind
  exact ⟨since, congrArg Session.record shown, remembered⟩

/-- To make a cache fails exactly as to make its directory does. -/
theorem outcome_createCache (session : Session σ) (directory : Option String) :
    (session.createCache directory).1 = (ResultCache.ensure
      ⟨directory.getD session.cacheConfig.directory, session.cacheConfig.ttl⟩ session.now
      session.disk).1 := by
  -- To note a failure does not change the outcome.
  rw [Session.createCache, noted_eq]
  dsimp only
  generalize ResultCache.ensure _ session.now session.disk = step
  obtain ⟨outcome, disk⟩ := step
  cases outcome <;> rfl

/-- Steps that are only done or fail have the same outcome if they are answered alike. -/
theorem outcome_of_done {s t : Step σ Unit} (same : (Step.map (fun _ => Answer.done) s).1 =
    (Step.map (fun _ => Answer.done) t).1) : s.1 = t.1 := by
  obtain ⟨outcome, a⟩ := s
  obtain ⟨outcome', b⟩ := t
  cases outcome <;> cases outcome' <;> first | rfl | cases same
  rfl

/-- If all goes on behind a cache that could not be made as it would have gone on without it, the
directory that was refused is the configured one. -/
theorem configured_of_goesOnAs {session : Session σ} {directory : Option String}
    {failure : Failure} {entry : ErrorRecord}
    (failed : (session.createCache directory).1 = .error failure)
    (same : ∀ events, (session.createCache directory).2.GoesOnAs session entry events) :
    directory.getD session.cacheConfig.directory = session.cacheConfig.directory := by
  obtain ⟨-, -, shape⟩ := left_of_createCache_failed failed
  -- The cache is to be made once more, where this is refused whatever its directory is.
  have again := (same [.ask (.createCache none),
    .pass session.now (session.disk.refusing .notDirectory)]).answer _ _ rfl
  have outcomes := outcome_of_done again
  rw [after, meet, after, after, meet, after, outcome_createCache, outcome_createCache, shape]
    at outcomes
  dsimp only [Option.getD_none] at outcomes
  rw [ResultCache.ensure_refusing, ResultCache.ensure_refusing] at outcomes
  exact ResultCache.directory_eq_of_refusal (Except.error.inj outcomes)

/-- After whatever a new session meets, a cache that cannot be made leaves the session as good as
without the attempt, apart from the failure that is remembered, exactly if it was to be made in the
configured directory and left no directory behind. As long as no cache is made in the configured
directory again before one in a directory of its own, or if the directory was the configured one
anyway, all goes on as without the attempt but with the directories that it left behind. It has
changed no file. -/
theorem goesOnAs_iff_of_createCache_failed {backend : Backend σ} {link : σ}
    {config : SessionConfig} {disk : Disk} {now : Int} {initial : Session σ}
    (started : start backend link config disk now = .ok initial) (past : List Event)
    {directory : Option String} {failure : Failure}
    (failed : ((initial.after past).createCache directory).1 = .error failure) :
    let session := initial.after past
    let left := (session.createCache directory).2
    let entry : ErrorRecord := ⟨failure.message, session.record.lastQuery⟩
    let place := directory.getD session.cacheConfig.directory
    ((∀ events, left.GoesOnAs session entry events) ↔
      place = session.cacheConfig.directory ∧ left.disk = session.disk) ∧
    (∀ events, (place = session.cacheConfig.directory ∨ Directed events) →
      left.GoesOnAs { session with disk := left.disk } entry events) ∧
    left.disk.file? = session.disk.file? := by
  intro session left entry place
  obtain ⟨refused, files, shape⟩ := left_of_createCache_failed failed
  have enabled : session.cache ≠ none → session.cacheConfig.enabled = true :=
    enabled_after started past
  -- But for the directories it left, the attempt leaves a session beside the one without it.
  have beside : left.Beside session.record entry { session with disk := left.disk } := by
    refine ⟨[], true, place, session.traceLog, ?_, Record.since_nil _, rfl, ?_⟩
    · show (session.createCache directory).2 =
        Session.altered { session with disk := (session.createCache directory).2.disk } _ _ _ _
      rw [shape]
      rfl
    · exact fun used => ⟨rfl, enabled used⟩
  have configured : left.cacheConfig.directory = place := by
    show (session.createCache directory).2.cacheConfig.directory = _
    rw [shape]
  have goesOn : ∀ events, (place = session.cacheConfig.directory ∨ Directed events) →
      left.GoesOnAs { session with disk := left.disk } entry events := fun events directed =>
    Beside.goesOnAs beside (directed.imp_left fun same => configured.trans same)
  -- That it goes on the same way without conditions asks for both, and both are enough.
  refine ⟨⟨?_, ?_⟩, goesOn, ?_⟩
  · intro same
    exact ⟨configured_of_goesOnAs failed same, (same []).disk⟩
  · rintro ⟨same, undone⟩ events
    have goes := goesOn events (.inl same)
    rwa [undone] at goes
  · show (session.createCache directory).2.disk.file? = _
    rw [shape]
    exact files

/-- An outcome that has a failure is this failure. -/
theorem eq_error_of_failuresOf {α : Type} {outcome : Except Failure α} {failure : Failure}
    (one : failuresOf outcome = [failure]) : outcome = .error failure := by
  cases outcome with
  | error other => exact congrArg Except.error (List.cons.inj one).1
  | ok answer => cases one

/-- A disk with one file. -/
def oneFile (name : String) : Disk :=
  { root := .directory 0 (NameMap.empty.insert name (.file [] 0)) }

/-- A new session on such a disk. -/
def besideFile (name : String) : Session Script := {
  backend := Script.backend "scripted" .sqlite doubleQuotes
  link := Script.start [] [] []
  connection := (SessionConfig.sqlite "a.db").connectParams
  compiler := .fresh true
  cacheConfig := .default
  cache := none
  trace := .default
  record := .fresh
  traceLog := []
  disk := oneFile name
  now := 0 }

/-- The session is what is started there. -/
theorem started_besideFile (name : String) :
    start (Script.backend "scripted" .sqlite doubleQuotes) (Script.start [] [] [])
      (.sqlite "a.db") (oneFile name) 0 = .ok (besideFile name) :=
  rfl

/-- The failure to make a cache in a directory that is refused for a fault. -/
def blocked (directory : String) (fault : DiskFault) : Failure :=
  .cache s!"cannot create cache directory {directory}: {fault.message}"

/-- The configured directory stays away where a file is above it. -/
theorem undone_besideFile :
    ((besideFile "tmp").createCache none).1 =
        .error (blocked defaultCacheDirectory .notDirectory) ∧
      ((besideFile "tmp").createCache none).2.disk = (besideFile "tmp").disk := by
  have refused : failuresOf ((besideFile "tmp").createCache none).1 =
      [blocked defaultCacheDirectory .notDirectory] := by decide +kernel
  have failed := eq_error_of_failuresOf refused
  obtain ⟨-, -, shape⟩ := left_of_createCache_failed failed
  refine ⟨failed, ?_⟩
  rw [shape]
  -- The walk along the path ends at the file, so that nothing is made on the way.
  have path : pathOf defaultCacheDirectory = ["", "tmp", "sql-session-cache"] := by decide +kernel
  have sound : Path.fault? ["", "tmp", "sql-session-cache"] = none := by decide +kernel
  have refused : (oneFile "tmp").createDirectory ["", "tmp", "sql-session-cache"] 0 =
      .error .notDirectory := by
    rw [Disk.createDirectory, show Path.withoutEnd ["", "tmp", "sql-session-cache"] =
      ["", "tmp", "sql-session-cache"] from rfl, Disk.locate, sound]
    rfl
  have none : (oneFile "tmp").isDirectory ["", "tmp", "sql-session-cache"] = false := by
    rw [Disk.isDirectory, Disk.stat, Disk.find, Disk.locate, sound]
    rfl
  have ensured : (oneFile "tmp").ensureDirectory ["", "tmp", "sql-session-cache"] 0 =
      (.error .notDirectory, oneFile "tmp") := by
    rw [Disk.ensureDirectory, refused]
    exact if_neg (by simp [none])
  show ((oneFile "tmp").createDirectories (pathOf defaultCacheDirectory) 0).2 = oneFile "tmp"
  rw [path, Disk.createDirectories]
  show (Disk.createUpward 0 (oneFile "tmp") _ ["tmp"]).2 = _
  rw [Disk.createUpward, refused]
  exact congrArg Prod.snd ensured

/-- A cache cannot be made below a file, and all goes on as without the attempt, apart from the
failure that is remembered. -/
theorem goesOnAs_behind_refusal :
    start (Script.backend "scripted" .sqlite doubleQuotes) (Script.start [] [] [])
        (.sqlite "a.db") (oneFile "tmp") 0 = .ok (besideFile "tmp") ∧
      ((besideFile "tmp").createCache none).1 =
        .error (blocked defaultCacheDirectory .notDirectory) ∧
      ∀ events, ((besideFile "tmp").createCache none).2.GoesOnAs (besideFile "tmp")
        ⟨(blocked defaultCacheDirectory .notDirectory).message, none⟩ events := by
  -- The configured directory was asked for, and nothing was made.
  obtain ⟨failed, undone⟩ := undone_besideFile
  have goesOn := (goesOnAs_iff_of_createCache_failed (started_besideFile "tmp") [] failed).1
  exact ⟨started_besideFile "tmp", failed, goesOn.mpr ⟨rfl, undone⟩⟩

/-- A cache cannot be made where a file is, and then it cannot be made in the configured directory
either, as the directory that was refused is the configured one. Without the attempt, it can. -/
theorem not_goesOnAs_of_refusal :
    start (Script.backend "scripted" .sqlite doubleQuotes) (Script.start [] [] [])
        (.sqlite "a.db") (oneFile "plain") 0 = .ok (besideFile "plain") ∧
      failuresOf ((besideFile "plain").createCache (some "plain")).1 = [blocked "plain" .present] ∧
      failuresOf (((besideFile "plain").createCache (some "plain")).2.serve
        (.createCache none)).1 = [blocked "plain" .present] ∧
      failuresOf ((besideFile "plain").serve (.createCache none)).1 = [] ∧
      ¬∀ events, ((besideFile "plain").createCache (some "plain")).2.GoesOnAs
        (besideFile "plain") ⟨(blocked "plain" .present).message, none⟩ events := by
  have refused : failuresOf (((besideFile "plain").createCache (some "plain")).2.serve
      (.createCache none)).1 = [blocked "plain" .present] := by decide +kernel
  have made : failuresOf ((besideFile "plain").serve (.createCache none)).1 = [] := by
    decide +kernel
  refine ⟨rfl, by decide +kernel, refused, made, fun same => ?_⟩
  -- With the attempt the next one is refused, and without it there is nothing to refuse.
  have answers := (same [.ask (.createCache none)]).answer (.createCache none) [] rfl
  rw [after, after] at answers
  rw [answers, made] at refused
  cases refused

end Session
end Querent
