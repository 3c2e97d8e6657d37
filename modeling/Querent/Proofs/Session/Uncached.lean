import Querent.Backend.Scripted
import Querent.Proofs.Cache.Entry
import Querent.Proofs.Cache.Replacement
import Querent.Proofs.Session.Agreement

/-! A cache that has no result for a statement makes no difference to what the statement gives. -/

namespace Querent

namespace Session

variable {σ α : Type}

/-- The session with its cache turned off. -/
def uncached (session : Session σ) : Session σ :=
  { session with cacheConfig.enabled := false, cache := none }

/-- A statement is queried with what is pending, or with values of its own. -/
def queryBy (session : Session σ) (sql : String) : Option (List Value) → Step σ QueryResult
  | none => session.query sql
  | some values => session.queryWith sql values

/-- Whether a session remembers, behind what it remembered before, the failures of a statement. -/
structure Remembers (before after : Session σ) (statement : String) (failures : List Failure) :
    Prop where
  errors : after.record.errors = failures.foldl
    (fun log failure => logged log ⟨failure.message, some statement⟩) before.record.errors
  lastError : after.record.lastError =
    (failures.getLast?.map Failure.message).or before.record.lastError

/-- A query logs its call, takes what is pending, and is run. -/
theorem exists_of_queryBy (sql : String) (own : Option (List Value)) :
    ∃ call, ∀ session : Session σ, session.queryBy sql own =
      (session.logCall call).clearPending.run sql (own.getD session.compiler.pending) := by
  -- The two forms differ in the call that they log and in where their values come from.
  cases own with
  | none => exact ⟨_, fun _ => rfl⟩
  | some values => exact ⟨_, fun _ => rfl⟩

/-- A run keeps its cache, and remembers the failure of the statement, with a failure of the cache
before and behind it at most. -/
theorem remembers_run (session : Session σ) (sql : String) (values : List Value) :
    let statement := session.backend.style.normalize sql
    let ran := session.run sql values
    (ran.2.cacheConfig = session.cacheConfig ∧ ran.2.cache = session.cache) ∧
      ∃ before behind, OfOneStep before ∧ OfOneStep behind ∧
        session.Remembers ran.2 statement (before ++ failuresOf ran.1 ++ behind) ∧
        (session.cache = none → before = [] ∧ behind = []) := by
  intro statement ran
  obtain ⟨link, disk, before, behind, fromCache, notices, left, single, single', -, unused⟩ :=
    session.run_left sql values
  have after : ran.2 = _ := left.trans (finish_eq _ _)
  refine ⟨by rw [after]; exact ⟨rfl, rfl⟩, before, behind, single, single', ?_,
    fun none => unused (.inr none)⟩
  rw [after]
  exact ⟨Record.errors_failed _ _, Record.lastError_failed _ _⟩

/-- To ask the cache leaves the disk as the lookup does. -/
theorem disk_consult {session : Session σ} {cache : ResultCache} (used : session.cache = some cache)
    (text : String) :
    (session.consult text).2.disk = (cache.lookup session.now text session.disk).2 := by
  unfold consult
  rw [used]
  dsimp only
  -- Each of the outcomes goes on with the disk of the lookup.
  split
  · next looked => rw [looked]
  · next looked => rw [looked]
  · next looked =>
    rw [looked]
    rfl

/-- To keep a result leaves the disk as the store does. -/
theorem disk_keep {session : Session σ} {cache : ResultCache} (used : session.cache = some cache)
    (text : String) (result : QueryResult) : (session.keep text result).disk =
      (cache.store session.now text (.ofResult session.now result) session.disk).2 := by
  unfold keep
  rw [used]
  dsimp only
  -- A failure to store is remembered, which is no matter of the disk.
  split
  · next stored => rw [stored]
  · next stored =>
    rw [stored]
    rfl

/-- To finish a statement changes no file. -/
theorem disk_finish (session : Session σ) (timer : Nat) :
    (session.finish timer).disk = session.disk := by
  rw [finish_eq]

/-- A statement that fails changes no file when it is performed, and a result that it gives is
stored at the present time. -/
theorem disk_perform (session : Session σ) (timer : Nat) (statement : String) (values : List Value)
    (text : Option String) :
    let ran := session.perform timer statement values text
    (∀ failure, ran.1 = .error failure → ran.2.disk = session.disk) ∧
      ∀ result cache kept, ran.1 = .ok result → session.cache = some cache → text = some kept →
        ran.2.disk =
          (cache.store session.now kept (.ofResult session.now result) session.disk).2 := by
  obtain ⟨link, notices, left, -⟩ := session.dispatch_left statement values
  unfold perform
  generalize session.dispatch statement values = step at left ⊢
  obtain ⟨outcome, after⟩ := step
  -- What was dispatched has changed no file, and takes no time.
  obtain rfl : after = _ := left
  -- Only a result is kept, and only keeping it writes.
  cases outcome with
  | error failure =>
    exact ⟨fun _ _ => disk_finish _ timer, fun _ _ _ made => (nomatch made)⟩
  | ok given =>
    refine ⟨fun _ failed => (nomatch failed), ?_⟩
    rintro result cache kept made used rfl
    obtain rfl := Except.ok.inj made
    refine (disk_finish _ timer).trans (disk_keep ?_ kept given)
    exact used

section

variable {session : Session σ} {sql : String} {values : List Value} {cache : ResultCache}
  (unanswered : session.Unanswered (session.backend.style.normalize sql) values)
  (used : session.cache = some cache)

include unanswered used

/-- A statement that fails leaves the file of its entry as it was. -/
theorem find_entry_of_run {failure : Failure}
    (failed : (session.run sql values).1 = .error failure) :
    let path := cache.entryPath (cacheText (session.backend.style.normalize sql) values)
    (session.run sql values).2.disk.find path = session.disk.find path := by
  -- Without an answer of the cache, the run is a lookup and a performance.
  rw [run_of_unanswered unanswered] at failed ⊢
  generalize session.backend.style.normalize sql = statement at failed ⊢
  have asked : (session.begin statement).cache = some cache := used
  dsimp only at failed ⊢
  split
  · next kept =>
    -- Only the lookup may have changed files.
    rw [if_pos kept] at failed
    rw [(disk_perform ..).1 failure failed, disk_consult asked]
    exact cache.find_entry_of_lookup ..
  · next unkept =>
    rw [if_neg unkept] at failed
    rw [(disk_perform ..).1 failure failed]
    rfl

/-- A result that is kept takes the place of whatever file was there, so that until it is stale each
lookup gives out what its file gives back. -/
theorem lookup_of_run
    (kept : session.cacheConfig.keeps
      (StatementKind.of (session.backend.style.normalize sql) = .mutating) = true)
    (writable : cache.Writable session.disk
      (cacheText (session.backend.style.normalize sql) values))
    {result : QueryResult} (made : (session.run sql values).1 = .ok result) {entry : CacheEntry}
    (restored : CacheEntry.parse? (CacheEntry.ofResult session.now result).render = some entry)
    {later : Int} (fresh : later - session.now ≤ cache.ttl.toNanos) :
    let after := (session.run sql values).2.disk
    cache.lookup later (cacheText (session.backend.style.normalize sql) values) after =
      (.ok (.hit entry), after) := by
  -- Without an answer of the cache, the run is a lookup, a performance and a store.
  rw [run_of_unanswered unanswered] at made ⊢
  dsimp only at made ⊢
  rw [if_pos kept] at made ⊢
  generalize session.backend.style.normalize sql = statement at writable made ⊢
  generalize cacheText statement values = text at writable made ⊢
  have asked : (session.begin statement).cache = some cache := used
  -- Between the lookup and the store, the session keeps its cache and the time.
  have looked := disk_consult asked text
  obtain ⟨disk, failures, consulted, -⟩ := (session.begin statement).consult_left text
  rw [consulted] at made looked ⊢
  obtain ⟨after, stored, found⟩ := writable.replaced restored session.now
  have left := (disk_perform ..).2 result cache text made asked rfl
  obtain rfl : disk = _ := looked
  have disk : _ = after := left.trans (congrArg Prod.snd stored)
  rw [disk]
  exact found later fresh

end

/-- Where the cache has no result for a statement, a query gives what it gives with the cache turned
off, over the same calls, and leaves the same session but for failures of the cache, of which one at
most is remembered before the statement and one behind it. If the statement fails, the file of its
entry stays as it was. If it gives a result that is stored exactly, and the directory of the cache
can be written, the next lookup gives out that result unless it comes after the time to live. -/
theorem uncached_of_unanswered (session : Session σ) (sql : String) (own : Option (List Value))
    (unanswered : session.Unanswered (session.backend.style.normalize sql)
      (own.getD session.compiler.pending)) :
    let statement := session.backend.style.normalize sql
    let text := cacheText statement (own.getD session.compiler.pending)
    let cached := session.queryBy sql own
    let plain := session.uncached.queryBy sql own
    Step.Agrees cached plain ∧
    (cached.2.cacheConfig = session.cacheConfig ∧ cached.2.cache = session.cache) ∧
    (∃ before behind, OfOneStep before ∧ OfOneStep behind ∧
      session.Remembers cached.2 statement (before ++ failuresOf cached.1 ++ behind) ∧
      session.Remembers plain.2 statement (failuresOf plain.1)) ∧
    ∀ cache, session.cache = some cache →
      (∀ failure, cached.1 = .error failure →
        cached.2.disk.find (cache.entryPath text) = session.disk.find (cache.entryPath text)) ∧
      (session.cacheConfig.keeps (StatementKind.of statement = .mutating) = true →
        cache.Writable session.disk text → ∀ result, cached.1 = .ok result →
        (CacheEntry.parse? (CacheEntry.ofResult session.now result).render).map
          CacheEntry.toResult = some result →
        ∃ entry, entry.toResult = result ∧ ∀ later : Int, later - session.now ≤ cache.ttl.toNanos →
          (cache.lookup later text cached.2.disk).1 = .ok (.hit entry)) := by
  intro statement text cached plain
  obtain ⟨call, called⟩ := exists_of_queryBy sql own
  -- Both queries log the same call and take the same values.
  let began := (session.logCall call).clearPending
  let beganPlain := (session.uncached.logCall call).clearPending
  have ran : cached = began.run sql (own.getD session.compiler.pending) := called session
  have ranPlain : plain = beganPlain.run sql (own.getD session.compiler.pending) :=
    called session.uncached
  have agrees : began.Agrees beganPlain := { Agrees.refl began with }
  have unanswered' : began.Unanswered (began.backend.style.normalize sql)
      (own.getD session.compiler.pending) := unanswered
  obtain ⟨caches, before, behind, single, single', remembers, -⟩ :=
    began.remembers_run sql (own.getD session.compiler.pending)
  obtain ⟨-, beforePlain, behindPlain, -, -, remembersPlain, unused⟩ :=
    beganPlain.remembers_run sql (own.getD session.compiler.pending)
  -- Without a cache, no failure of one is remembered.
  obtain ⟨rfl, rfl⟩ := unused rfl
  rw [List.nil_append, List.append_nil] at remembersPlain
  rw [ran, ranPlain]
  refine ⟨agrees.run unanswered' rfl, caches,
    ⟨before, behind, single, single', ⟨remembers.errors, remembers.lastError⟩,
      ⟨remembersPlain.errors, remembersPlain.lastError⟩⟩, ?_⟩
  intro cache used
  have used' : began.cache = some cache := used
  refine ⟨fun failure failed => find_entry_of_run unanswered' used' failed, ?_⟩
  intro kept writable result made restored
  -- The entry that the text gives back is the one that lookups give out.
  obtain ⟨entry, parsed, gives⟩ := Option.map_eq_some_iff.mp restored
  refine ⟨entry, gives, fun later fresh => ?_⟩
  exact congrArg Prod.fst (lookup_of_run unanswered' used' kept writable made parsed fresh)

/-- Bytes that are no text are in the place of an entry when a selection gives an integer and a
null. It gives the same where the system refuses every call on the file. -/
theorem uncached_of_unanswered_corrupt :
    let sql := "SELECT a FROM t"
    let cache : ResultCache := ⟨"/c", .ofSeconds 60⟩
    let entries : NameMap Node := ⟨[(Sha256.hex sql, .file [0x7b, 0xff] 0)]⟩
    let corrupt : Disk := { root := .directory 0 ⟨[("c", .directory 0 entries)]⟩ }
    let denied : Disk := { corrupt with
      hindrances := ⟨fun _ _ => some (.other "Permission denied (os error 13)"), fun _ => none⟩ }
    let result : QueryResult := .rows ⟨[⟨"a", "INTEGER", none⟩], [[.int 1], [.null]]⟩
    let script := Script.start [] [] [{ Reply.plain with
      columns := some [some ⟨"a", "INTEGER", none⟩], rows := [[.int 1], [.null]] }]
    let session (disk : Disk) : Session Script := {
      backend := Script.backend "scripted" .sqlite doubleQuotes
      link := script
      connection := ⟨"a.db", none, none, .empty, true⟩
      compiler := .fresh true
      cacheConfig := ⟨true, "/c", .ofSeconds 60, true, false⟩
      cache := some cache
      trace := .default
      record := .fresh
      traceLog := []
      disk := disk
      now := 5 }
    (∀ disk ∈ [corrupt, denied], (session disk).Unanswered sql [] ∧
      ((session disk).queryBy sql none).1 = .ok result) ∧
      ∃ entry, entry.toResult = result ∧
        (cache.lookup 65 sql ((session corrupt).queryBy sql none).2.disk).1 =
          .ok (.hit entry) := by
  intro sql cache entries corrupt denied result script session
  -- The digest that names the files is worked out once.
  have files : (cache.lookup 5 sql corrupt).1.isOk = false ∧
      (cache.lookup 5 sql denied).1.isOk = false ∧
      corrupt.isDirectory (pathOf cache.directory) = true ∧
      Path.fault? (cache.draftPath sql) = none ∧
      corrupt.isDirectory (cache.draftPath sql) = false ∧
      corrupt.isDirectory (cache.entryPath sql) = false := by
    decide +kernel
  obtain ⟨missed, refused, directory, room, draft, entry⟩ := files
  have still : PlaceholderStyle.sqlite.normalize sql = sql := by decide +kernel
  have style : ∀ disk, (session disk).backend.style.normalize sql = sql := fun _ => still
  have unanswered : ∀ disk, (cache.lookup 5 sql disk).1.isOk = false →
      (session disk).Unanswered sql [] := by
    intro disk missed
    unfold Unanswered
    rw [cacheText, if_pos List.isEmpty_nil]
    rintro - _ ⟨⟩ entry found
    rw [found] at missed
    cases missed
  have made : ∀ disk, (cache.lookup 5 sql disk).1.isOk = false →
      ((session disk).queryBy sql none).1 = .ok result := by
    intro disk missed
    have facts := uncached_of_unanswered (session disk) sql none
    rw [style] at facts
    have plain : ((session disk).uncached.queryBy sql none).1 = .ok result := rfl
    exact (facts (unanswered disk missed)).1.outcome.trans plain
  have kept : (session corrupt).cacheConfig.keeps (StatementKind.of sql = .mutating) = true := by
    decide
  have writable : cache.Writable (session corrupt).disk sql :=
    ⟨directory, room, draft, entry, Hindrances.spare_free _⟩
  have storable : result.IsStorable := by
    intro row mem value inside
    rcases List.mem_pair.mp mem with rfl | rfl <;> rcases List.mem_singleton.mp inside with rfl <;>
      trivial
  have facts := uncached_of_unanswered (session corrupt) sql none
  rw [style] at facts
  obtain ⟨-, -, -, stored⟩ := facts (unanswered corrupt missed)
  obtain ⟨entry, gives, found⟩ := (stored cache rfl).2 kept writable result (made corrupt missed)
    (result.restored_eq 5 storable)
  refine ⟨fun disk mem => ?_, entry, gives, found 65 (by decide)⟩
  rcases List.mem_pair.mp mem with rfl | rfl
  · exact ⟨unanswered _ missed, made _ missed⟩
  · exact ⟨unanswered _ refused, made _ refused⟩

end Session

end Querent
