import Querent.Proofs.Cache.Markers
import Querent.Proofs.Session.Operation
import Querent.Proofs.Session.Uncached

/-! What the operations of a session do to files, and which of them its cache answers. -/

namespace Querent

namespace Session

variable {σ : Type}

/-- Whether an operation runs a statement that a cache is asked for, under some text. -/
structure Consults (session : Session σ) (operation : Operation) (cache : ResultCache)
    (text : String) : Prop where
  used : session.cache = some cache
  kept : ∃ sql, session.statement? operation = some sql ∧
    let statement := session.backend.style.normalize sql
    session.cacheConfig.keeps (StatementKind.of statement = .mutating) = true ∧
      text = cacheText statement
        (operation.hands session.compiler.prepared session.compiler.pending)

/-- What it means that between two sessions no cache is asked: the files are the same, and so is the
time to live, also of another cache. -/
structure LeavesCache (session after : Session σ) : Prop where
  files : after.disk.file? = session.disk.file?
  ttl : after.cacheConfig.ttl = session.cacheConfig.ttl
  cache : ∀ cache, after.cache = some cache →
    session.cache = some cache ∨ cache.ttl = session.cacheConfig.ttl

/-- To ask for a text changes files by the lookup in the cache, if there is one. -/
theorem disk_consult_cases (session : Session σ) (text : String) :
    let asked := (session.consult text).2
    asked.cache = session.cache ∧ asked.now = session.now ∧
      (session.cache = none ∧ asked.disk = session.disk ∨ ∃ cache, session.cache = some cache ∧
        asked.disk = (cache.lookup session.now text session.disk).2) := by
  intro asked
  obtain ⟨disk, failures, left, -⟩ := session.consult_left text
  -- Whatever the cache says, the session keeps the cache and the time.
  have kept : asked.cache = session.cache ∧ asked.now = session.now := by
    rw [show asked = _ from left]
    exact ⟨rfl, rfl⟩
  refine ⟨kept.1, kept.2, ?_⟩
  cases used : session.cache with
  | none =>
    refine .inl ⟨rfl, ?_⟩
    dsimp only [asked]
    rw [consult, used]
  | some cache => exact .inr ⟨cache, rfl, disk_consult used text⟩

/-- To keep a result changes files by the store in the cache, if there is one. -/
theorem disk_keep_cases (session : Session σ) (text : String) (result : QueryResult) :
    let after := (session.keep text result).disk
    after = session.disk ∨ ∃ cache, session.cache = some cache ∧ ∃ entry,
      after = (cache.store session.now text entry session.disk).2 := by
  cases used : session.cache with
  | none =>
    dsimp only
    rw [keep, used]
    exact .inl rfl
  | some cache => exact .inr ⟨cache, rfl, _, disk_keep used text result⟩

/-- A statement that is performed changes files by the store of its result, if it is kept. -/
theorem disk_perform_cases (session : Session σ) (timer : Nat) (statement : String)
    (values : List Value) (text : Option String) :
    let after := (session.perform timer statement values text).2.disk
    after = session.disk ∨ ∃ cache, session.cache = some cache ∧ ∃ kept ∈ text, ∃ entry,
      after = (cache.store session.now kept entry session.disk).2 := by
  -- What the backend does touches no files, so that they are those of the session still.
  obtain ⟨link, notices, left, -⟩ := session.dispatch_left statement values
  unfold perform
  generalize session.dispatch statement values = step at left ⊢
  obtain ⟨outcome, dispatched⟩ := step
  obtain ⟨disk, cache, now⟩ : dispatched.disk = session.disk ∧
      dispatched.cache = session.cache ∧ dispatched.now = session.now := by
    rw [show dispatched = _ from left]
    exact ⟨rfl, rfl, rfl⟩
  rw [← disk, ← cache, ← now]
  -- Only a result may be stored, and only under a text.
  cases outcome with
  | error failure => exact .inl (disk_finish _ timer)
  | ok result =>
    dsimp only
    rw [disk_finish]
    cases text with
    | none => exact .inl rfl
    | some kept =>
      rcases (dispatched.absorb result).disk_keep_cases kept result
        with same | ⟨cache, used, entry, stored⟩
      · exact .inl same
      · exact .inr ⟨cache, used, kept, rfl, entry, stored⟩

/-- How a statement is run: by the backend alone, or by the cache, or by the backend if there is no
result in the cache. -/
theorem run_cases (session : Session σ) (sql : String) (values : List Value) :
    let statement := session.backend.style.normalize sql
    let keeps := session.cacheConfig.keeps (StatementKind.of statement = .mutating)
    let begun := session.begin statement
    let timer := begun.record.queries
    let text := cacheText statement values
    let asked := begun.consult text
    keeps = false ∧ session.run sql values = begun.perform timer statement values none ∨
      keeps = true ∧ (
        (∃ result, asked.1 = some result ∧
          session.run sql values = asked.2.answer timer result) ∨
        asked.1 = none ∧
          session.run sql values = asked.2.perform timer statement values (some text)) := by
  intro statement keeps begun timer text asked
  -- The settings decide whether the cache is asked, and the cache decides the rest.
  cases kept : keeps with
  | false =>
    have ran : session.run sql values =
      if keeps then _ else begun.perform timer statement values none := rfl
    exact .inl ⟨rfl, ran.trans (if_neg (by simp [kept]))⟩
  | true =>
    have ran : session.run sql values = if keeps then _ else _ := rfl
    rw [ran, if_pos kept]
    dsimp only [asked]
    generalize begun.consult text = step
    obtain ⟨found, behind⟩ := step
    cases found with
    | some result => exact .inr ⟨rfl, .inl ⟨result, rfl, rfl⟩⟩
    | none => exact .inr ⟨rfl, .inr ⟨rfl, rfl⟩⟩

/-- A run changes files by its lookup, and by its store behind that. -/
theorem disk_run (session : Session σ) (sql : String) (values : List Value) :
    let statement := session.backend.style.normalize sql
    let text := cacheText statement values
    let after := (session.run sql values).2.disk
    after = session.disk ∨ ∃ cache, session.cache = some cache ∧
      session.cacheConfig.keeps (StatementKind.of statement = .mutating) = true ∧
      let looked := (cache.lookup session.now text session.disk).2
      (after = looked ∨ ∃ entry, after = (cache.store session.now text entry looked).2) := by
  intro statement text after
  rcases session.run_cases sql values with ⟨-, ran⟩ | ⟨kept, ran⟩
  · -- Where nothing is kept, there is no text to store a result under.
    have performed := disk_perform_cases (session.begin statement)
      (session.begin statement).record.queries statement values none
    rw [← ran] at performed
    rcases performed with same | ⟨_, _, _, nothing, _⟩
    · exact .inl same
    · cases nothing
  · -- Behind the lookup, a result is given as it was found, or one may be stored.
    obtain ⟨cache, now, looked⟩ := disk_consult_cases (session.begin statement) text
    have behind : let asked := ((session.begin statement).consult text).2
        after = asked.disk ∨ ∃ cache, session.cache = some cache ∧ ∃ entry,
          after = (cache.store session.now text entry asked.disk).2 := by
      rcases ran with ⟨result, -, ran⟩ | ⟨-, ran⟩
      · exact .inl ((congrArg (·.2.disk) ran).trans (disk_finish _ _))
      · have performed := disk_perform_cases ((session.begin statement).consult text).2
          (session.begin statement).record.queries statement values (some text)
        rw [← ran, cache, now] at performed
        rcases performed with same | ⟨cache, used, own, given, stored⟩
        · exact .inl same
        · obtain rfl : text = own := Option.some.inj given
          exact .inr ⟨cache, used, stored⟩
    generalize ((session.begin statement).consult text).2 = asked at looked behind
    -- Without a cache, there is neither a lookup nor a store.
    rcases looked with ⟨unused, same⟩ | ⟨cache, used, looked⟩
    · rcases behind with still | ⟨cache, used, -⟩
      · exact .inl (still.trans same)
      · exact absurd (used.symm.trans unused) (by simp)
    · refine .inr ⟨cache, used, kept, ?_⟩
      rw [show (cache.lookup session.now text session.disk).2 = asked.disk from looked.symm]
      rcases behind with still | ⟨cache', used', stored⟩
      · exact .inl still
      · obtain rfl := Option.some.inj (used.symm.trans used')
        exact .inr stored

/-- What it means that a step spares the cache: it leaves it and its files as they are, and also its
settings, except for which results are kept. -/
structure SparesCache (session after : Session σ) : Prop where
  disk : after.disk = session.disk
  cache : after.cache = session.cache
  config : ∃ queries inserts, after.cacheConfig =
    { session.cacheConfig with queries := queries, inserts := inserts }

/-- A step spares the cache if it leaves all that has to do with it. -/
theorem sparesCache_of_eq {session after : Session σ} (disk : after.disk = session.disk)
    (config : after.cacheConfig = session.cacheConfig) (cache : after.cache = session.cache) :
    session.SparesCache after :=
  ⟨disk, cache, _, _, config⟩

/-- An operation that runs no statement and makes no cache spares the cache. -/
theorem sparesCache_of_idle {session : Session σ} {operation : Operation}
    (idle : session.statement? operation = none)
    (other : ∀ directory, operation ≠ .createCache directory) :
    session.SparesCache (session.serve operation).2 := by
  cases operation with
  -- A link that is opened or closed has nothing to do with the cache.
  | connect =>
    obtain ⟨link, dialed⟩ := session.dial_left
    rw [serve, Step.map_snd, Session.connect, noted_eq]
    rcases Step.andThen_cases session.dial (fun _ session => (.ok (), session.recount))
      with ⟨failure, -, ran⟩ | ⟨_, -, ran⟩
    all_goals
      rw [ran, dialed]
      exact sparesCache_of_eq rfl rfl rfl
  | disconnect =>
    rw [serve, Step.map_snd, Session.disconnect]
    generalize session.backend.disconnect session.link = step
    obtain ⟨outcome, link⟩ := step
    cases outcome with
    | error failure => exact sparesCache_of_eq rfl rfl rfl
    | ok _ => exact sparesCache_of_eq rfl rfl rfl
  | createCache directory => exact absurd rfl (other directory)
  -- A clause and a text only change what is pending.
  | clause announced conditions =>
    rw [serve, Step.map_snd]
    cases announced with
    | true =>
      rw [if_pos rfl, having, compiled, noted_eq]
      exact sparesCache_of_eq rfl rfl rfl
    | false =>
      rw [if_neg (by simp), filter, compiled, noted_eq]
      exact sparesCache_of_eq rfl rfl rfl
  | selectionText table columns modifiers =>
    rw [serve, Step.map_snd, assemble, compiled, noted_eq]
    exact sparesCache_of_eq rfl rfl rfl
  | query sql => cases idle
  | queryWith sql values => cases idle
  | build statement =>
    -- A statement that cannot be built is not run.
    have refused : (session.assemble statement).1.toOption = none := idle
    rw [serve_build, carryOut]
    rcases Step.andThen_cases (session.assemble statement) (fun sql session => session.query sql)
      with ⟨failure, -, ran⟩ | ⟨sql, built, -⟩
    · rw [ran, assemble, compiled, noted_eq]
      exact sparesCache_of_eq rfl rfl rfl
    · rw [built] at refused
      cases refused
  | getValue sql _ _ | getRow sql _ _ | getColumn sql _ | getResults sql _ =>
    obtain rfl : sql = none := idle
    exact sparesCache_of_eq rfl rfl rfl
  | count all increase => cases increase <;> exact sparesCache_of_eq rfl rfl rfl
  | _ =>
    -- Which results are kept may change, and nothing else.
    exact ⟨rfl, rfl, _, _, rfl⟩

/-- An operation that runs no statement leaves the cache. -/
theorem leavesCache_of_idle {session : Session σ} {operation : Operation}
    (idle : session.statement? operation = none) :
    session.LeavesCache (session.serve operation).2 := by
  by_cases made : ∃ directory, operation = .createCache directory
  · obtain ⟨directory, rfl⟩ := made
    rw [serve, Step.map_snd, Session.createCache, noted_eq]
    dsimp only
    -- To make a cache makes directories at most, and a new one has the time to live that is
    -- configured.
    have ensured := ResultCache.file?_ensure ⟨directory.getD session.cacheConfig.directory,
      session.cacheConfig.ttl⟩ session.now session.disk
    generalize ResultCache.ensure _ session.now session.disk = step at ensured ⊢
    obtain ⟨outcome, disk⟩ := step
    cases outcome with
    | error failure => exact ⟨ensured, rfl, fun _ used => .inl used⟩
    | ok _ =>
      refine ⟨ensured, rfl, fun cache used => .inr ?_⟩
      obtain rfl := Option.some.inj used
      rfl
  · -- Any other operation spares the cache.
    obtain ⟨disk, cache, queries, inserts, config⟩ :=
      sparesCache_of_idle idle fun directory same => made ⟨directory, same⟩
    refine ⟨congrArg Disk.file? disk, ?_, fun _ used => .inl (cache ▸ used)⟩
    rw [config]

/-- An operation changes files by asking a cache for a text, and by storing a result there. -/
theorem disk_serve (session : Session σ) (operation : Operation) :
    let after := (session.serve operation).2.disk
    after.file? = session.disk.file? ∨ ∃ cache text, session.Consults operation cache text ∧
      let looked := (cache.lookup session.now text session.disk).2
      (after = looked ∨ ∃ entry, after = (cache.store session.now text entry looked).2) := by
  -- Files are only changed by a statement that is run.
  cases given : session.statement? operation with
  | none => exact .inl (leavesCache_of_idle given).files
  | some sql =>
    obtain ⟨compiler, lastCall, calls, answer, ran⟩ := runs_serve given
    rw [ran, Step.map_snd]
    rcases disk_run { session with
      compiler := compiler.clear, record.lastCall := lastCall, record.calls := calls } sql
      (operation.hands session.compiler.prepared session.compiler.pending)
      with same | ⟨cache, used, kept, changed⟩
    · exact .inl (congrArg Disk.file? same)
    · exact .inr ⟨cache, _, ⟨used, sql, given, kept, rfl⟩, changed⟩

/-- No operation changes how long results stay fresh. -/
theorem ttl_serve (session : Session σ) (operation : Operation) :
    (session.serve operation).2.cacheConfig.ttl = session.cacheConfig.ttl ∧
      ∀ cache, (session.serve operation).2.cache = some cache →
        session.cache = some cache ∨ cache.ttl = session.cacheConfig.ttl := by
  -- A run keeps the cache and its settings, and no other operation sets the time to live.
  cases given : session.statement? operation with
  | none =>
    have left := leavesCache_of_idle given
    exact ⟨left.ttl, left.cache⟩
  | some sql =>
    obtain ⟨compiler, lastCall, calls, answer, ran⟩ := runs_serve given
    obtain ⟨link, disk, before, behind, fromCache, notices, left, -⟩ := run_left _ sql _
    rw [ran, Step.map_snd, left, finish_eq]
    exact ⟨rfl, fun _ used => .inl used⟩

/-- A result that is found for a text is that of the entry which the lookup gives out. -/
theorem hit_of_consult {session : Session σ} {text : String} {result : QueryResult}
    (found : (session.consult text).1 = some result) :
    ∃ cache entry, session.cache = some cache ∧
      (cache.lookup session.now text session.disk).1 = .ok (.hit entry) ∧
      entry.toResult = result := by
  cases used : session.cache with
  | none =>
    rw [consult, used] at found
    cases found
  | some cache =>
    rw [consult, used] at found
    -- Of the answers of the cache, only an entry is a result.
    dsimp only at found
    split at found
    · next entry disk looked =>
      exact ⟨cache, entry, rfl, congrArg Prod.fst looked, Option.some.inj found⟩
    · cases found
    · cases found

/-- What is performed is not from the cache. -/
theorem fromCache_perform {session : Session σ} (fresh : session.record.given.fromCache = false)
    (timer : Nat) (statement : String) (values : List Value) (text : Option String) :
    (session.perform timer statement values text).2.record.given.fromCache = false := by
  -- The outcome is settled in what was shown before, which did not come from the cache.
  obtain ⟨link, disk, behind, notices, left, -⟩ :=
    session.perform_left timer statement values text
  rw [left, finish_eq]
  generalize (session.perform timer statement values text).1 = outcome
  cases outcome with
  | error failure => exact fresh
  | ok result => cases result <;> exact fresh

/-- What is answered from the cache is the result of an entry that the lookup gives out. -/
theorem hit_of_run {session : Session σ} {sql : String} {values : List Value}
    (answered : (session.run sql values).2.record.given.fromCache = true) :
    let statement := session.backend.style.normalize sql
    session.cacheConfig.keeps (StatementKind.of statement = .mutating) = true ∧
      ∃ cache entry, session.cache = some cache ∧
        (cache.lookup session.now (cacheText statement values) session.disk).1 =
          .ok (.hit entry) ∧
        (session.run sql values).2.record.given.outcome = some entry.toResult := by
  -- Of the three ways to run a statement, only the second one answers it from the cache.
  rcases session.run_cases sql values with ⟨-, ran⟩ | ⟨kept, ⟨result, found, ran⟩ | ⟨-, ran⟩⟩
  · have fresh : (session.begin (session.backend.style.normalize sql)).record.given.fromCache =
        false := rfl
    rw [ran, fromCache_perform fresh] at answered
    cases answered
  · refine ⟨kept, ?_⟩
    obtain ⟨cache, entry, used, hit, rfl⟩ := hit_of_consult found
    refine ⟨cache, entry, used, hit, ?_⟩
    rw [ran, answer, finish_eq]
    cases entry.toResult <;> rfl
  · -- The session that was asked has begun the statement, and the cache has given nothing.
    obtain ⟨disk, failures, left, -⟩ := (session.begin (session.backend.style.normalize
      sql)).consult_left (cacheText (session.backend.style.normalize sql) values)
    have fresh : ((session.begin (session.backend.style.normalize sql)).consult
        (cacheText (session.backend.style.normalize sql) values)).2.record.given.fromCache =
        false := by
      rw [left]
      exact congrArg Yield.fromCache (Record.given_failed _ failures)
    rw [ran, fromCache_perform fresh] at answered
    cases answered

/-- What an operation answers from the cache is the result of an entry that the lookup gives out. -/
theorem hit_of_serve {session : Session σ} {operation : Operation} {sql : String}
    (given : session.statement? operation = some sql)
    (answered : (session.serve operation).2.record.given.fromCache = true) :
    ∃ cache text entry, session.Consults operation cache text ∧
      (cache.lookup session.now text session.disk).1 = .ok (.hit entry) ∧
      (session.serve operation).2.record.given.outcome = some entry.toResult := by
  -- The operation runs its statement on a session with the same cache, files and time.
  obtain ⟨compiler, lastCall, calls, answer, ran⟩ := runs_serve given
  rw [ran, Step.map_snd] at answered ⊢
  obtain ⟨kept, cache, entry, used, hit, outcome⟩ := hit_of_run answered
  exact ⟨cache, _, entry, ⟨used, sql, given, kept, rfl⟩, hit, outcome⟩

end Session

end Querent
