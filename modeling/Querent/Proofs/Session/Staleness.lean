import Querent.Backend.Scripted
import Querent.Proofs.Session.Files

/-! How old the entries are that a session answers from its cache. -/

namespace Querent

namespace Session

variable {σ : Type}

/-- Whether an operation finds an entry stale, which is at the end of a trail, and takes it upon
itself to renew it: it leaves a marker and has the backend run its statement. -/
def FindsStale (session : Session σ) (operation : Operation) (place : List String) (found : Node) :
    Prop :=
  ∃ cache text, session.Consults operation cache text ∧
    session.disk.locate (cache.entryPath text) = .ok ⟨place, some found⟩ ∧
    (cache.lookup session.now text session.disk).1 = .ok .refresh

/-- Whether nobody else changes the files of a session, whatever gets in the way of calls. -/
def Alone (session : Session σ) : List Event → Prop
  | [] => True
  | .ask _ :: earlier => session.Alone earlier
  | .pass _ disk :: earlier =>
    session.Alone earlier ∧ disk.root = (session.after earlier).disk.root

/-- Whether each directory that a session has had for its cache has room for markers, and nothing
was in the way of calls on it. -/
def Roomy (session : Session σ) (events : List Event) : Prop :=
  ∀ earlier, earlier <:+ events → ∀ cache, (session.after earlier).cache = some cache →
    cache.Roomy (session.after earlier).disk

/-- Whether a marker was there before the session, or was left when the session found the entry next
to it stale: the very entry that is there now, if there is room for markers. -/
def Explains (session : Session σ) (events : List Event) (text : String) (trail : List String)
    (marker : List UInt8 × Int) : Prop :=
  session.disk.file? (CacheFile.marker.name text :: trail) = some marker ∨
    ∃ later earlier operation stale, events = later ++ .ask operation :: earlier ∧
      (session.after earlier).now = marker.2 ∧
      (session.after earlier).FindsStale operation (CacheFile.entry.name text :: trail) stale ∧
      (session.Roomy events →
        stale.file? = (session.after events).disk.file? (CacheFile.entry.name text :: trail))

/-- Why a stale entry in a directory, at the end of a trail, may still be given out: its renewal
is under way. -/
inductive Renewing (session : Session σ) (events : List Event) (cache : ResultCache) (text : String)
    (trail : List String) : Prop
  /-- Its marker is less than a minute old, and the session may have left it. -/
  | marked {marker : List UInt8 × Int} :
      (session.after events).disk.file? (CacheFile.marker.name text :: trail) = some marker →
      (session.after events).now - marker.2 < 60 * nanosPerSecond →
      session.Explains events text trail marker → Renewing session events cache text trail
  /-- A directory that is less than a minute old stands where its marker belongs. -/
  | directory {made : Int} {entries : NameMap Node} :
      (session.after events).disk.find (cache.markerPath text) = .ok (.directory made entries) →
      (session.after events).now - made < 60 * nanosPerSecond →
      Renewing session events cache text trail

variable {session : Session σ} {text : String} {trail : List String}

/-- A marker that is new behind an operation was left there because the entry was found stale. -/
theorem marker_serve (operation : Operation) (text : String) (trail : List String) :
    let place := CacheFile.marker.name text :: trail
    let entry := CacheFile.entry.name text :: trail
    let after := (session.serve operation).2.disk
    after.file? place = session.disk.file? place ∨ after.file? place = none ∨
      after.file? place = some ([], session.now) ∧ ∃ stale,
        session.FindsStale operation entry stale ∧ stale.file? = session.disk.file? entry := by
  intro place entry after
  rcases session.disk_serve operation with same | ⟨cache, other, asks, stored⟩
  · exact .inl (congrFun same _)
  · -- What the lookup leaves there is a marker of the entry that it found, or nothing new.
    have looked : (cache.lookup session.now other session.disk).2.file? place =
          session.disk.file? place ∨
        (cache.lookup session.now other session.disk).2.file? place = some ([], session.now) ∧
          ∃ stale, session.FindsStale operation entry stale ∧
            stale.file? = session.disk.file? entry := by
      rcases cache.marker_lookup session.now other session.disk text trail
        with same | ⟨refreshed, left, stale, located⟩
      · exact .inl same
      · exact .inr ⟨left, stale, ⟨cache, other, asks, located, refreshed⟩,
          (Disk.file?_of_locate located).symm⟩
    -- Behind the lookup, a store leaves no marker of its own.
    rcases stored with left | ⟨stored, left⟩
    · rw [show after = _ from left]
      exact looked.imp_right .inr
    · rw [show after = _ from left]
      rcases (cache.storeLeaves_store session.now other stored _).marker text trail
        with same | gone
      · rw [same]
        exact looked.imp_right .inr
      · exact .inr (.inl gone)

/-- Where an operation changes an entry, it leaves no marker, if there is room for one. -/
theorem entry_serve {operation : Operation}
    (roomy : ∀ cache, session.cache = some cache → cache.Roomy session.disk) (text : String)
    (trail : List String)
    (changed : (session.serve operation).2.disk.file? (CacheFile.entry.name text :: trail) ≠
      session.disk.file? (CacheFile.entry.name text :: trail)) :
    (session.serve operation).2.disk.file? (CacheFile.marker.name text :: trail) = none := by
  rcases session.disk_serve operation with same | ⟨cache, other, asks, stored⟩
  · exact absurd (congrFun same _) changed
  · -- The lookup changes no entry, so that the store has changed this one.
    rw [← cache.entry_lookup session.now other session.disk] at changed
    rcases stored with left | ⟨entry, left⟩
    · rw [left] at changed
      exact absurd rfl changed
    · rw [left] at changed ⊢
      obtain ⟨room, spare⟩ := roomy cache asks.used
      have still : cache.Roomy (cache.lookup session.now other session.disk).2 :=
        ⟨room, (cache.hindrances_lookup session.now other session.disk).symm ▸ spare⟩
      exact (cache.storeLeaves_store session.now other entry _).entry text trail still changed

/-- What explains a marker does so after one more event, unless that changes the entry. -/
theorem Explains.cons {events : List Event} {marker : List UInt8 × Int}
    (explains : session.Explains events text trail marker) (event : Event)
    (still : session.Roomy (event :: events) →
      (session.after (event :: events)).disk.file? (CacheFile.entry.name text :: trail) =
        (session.after events).disk.file? (CacheFile.entry.name text :: trail)) :
    session.Explains (event :: events) text trail marker := by
  -- A marker from before the session needs no entry to explain it.
  rcases explains with before | ⟨later, earlier, operation, stale, rfl, time, found, same⟩
  · exact .inl before
  · refine .inr ⟨event :: later, earlier, operation, stale, rfl, time, found, fun roomy => ?_⟩
    have roomy' : session.Roomy (later ++ .ask operation :: earlier) := fun before part =>
      roomy before (part.trans (List.suffix_cons ..))
    exact (same roomy').trans (still roomy).symm

/-- Every marker is explained by what a session has met alone. -/
theorem explains_of_alone {events : List Event} (alone : session.Alone events)
    {marker : List UInt8 × Int}
    (here : (session.after events).disk.file? (CacheFile.marker.name text :: trail) = some marker) :
    session.Explains events text trail marker := by
  -- The events are taken from the last one back, and each is explained by those before it.
  induction events with
  | nil => exact .inl here
  | cons event earlier ih =>
    cases event with
    | pass now disk =>
      -- The files are the same, although other calls may be refused.
      obtain ⟨alone, unchanged⟩ := alone
      have files : disk.file? = (session.after earlier).disk.file? := Disk.file?_congr unchanged
      refine (ih alone (files ▸ here)).cons _ fun _ => ?_
      exact congrFun files _
    | ask operation =>
      -- An entry that is changed would have lost its marker.
      have still : session.Roomy (.ask operation :: earlier) →
          (session.after (.ask operation :: earlier)).disk.file?
              (CacheFile.entry.name text :: trail) =
            (session.after earlier).disk.file? (CacheFile.entry.name text :: trail) := by
        intro roomy
        by_contra changed
        have gone := entry_serve (roomy earlier (List.suffix_cons ..)) text trail changed
        exact absurd (here.symm.trans gone) (by simp)
      rcases (session.after earlier).marker_serve operation text trail
        with same | gone | ⟨left, stale, found, file⟩
      · exact (ih alone (same.symm.trans here)).cons _ still
      · exact absurd (here.symm.trans gone) (by simp)
      · obtain rfl := Option.some.inj (here.symm.trans left)
        exact .inr ⟨[], earlier, operation, stale, rfl, rfl, found,
          fun roomy => file.trans (still roomy).symm⟩

/-- Whatever a session meets, results stay fresh as long as it was started with. -/
theorem ttl_of_after {backend : Backend σ} {link : σ} {config : SessionConfig} {disk : Disk}
    {now : Int} (started : start backend link config disk now = .ok session)
    (events : List Event) :
    (session.after events).cacheConfig.ttl = config.cache.ttl ∧
      ∀ cache, (session.after events).cache = some cache → cache.ttl = config.cache.ttl := by
  induction events with
  | nil =>
    -- A new session has the time to live of its configuration.
    unfold start SessionConfig.validate at started
    split at started
    · cases started
      refine ⟨rfl, fun cache used => ?_⟩
      change (if _ then _ else _) = _ at used
      split at used
      · cases used
        rfl
      · cases used
    · cases started
  | cons event earlier ih =>
    cases event with
    | pass now disk => exact ih
    | ask operation =>
      obtain ⟨ttl, caches⟩ := (session.after earlier).ttl_serve operation
      refine ⟨ttl.trans ih.1, fun cache used => ?_⟩
      rcases caches cache used with before | fresh
      · exact ih.2 cache before
      · exact fresh.trans ih.1

/-- Where a session is the only one that changes its files, whatever its backend does, a query that
is answered from the cache gives the result of an entry that is no older than the time to live, or
whose renewal is under way. -/
theorem fresh_or_renewing_of_fromCache {backend : Backend σ} {link : σ} {config : SessionConfig}
    {disk : Disk} {now : Int} (started : start backend link config disk now = .ok session)
    {events : List Event} (alone : session.Alone events) {operation : Operation} {sql : String}
    (given : (session.after events).statement? operation = some sql)
    (answered : ((session.after events).serve operation).2.record.given.fromCache = true) :
    ∃ cache text trail content written entry,
      (session.after events).Consults operation cache text ∧
      (session.after events).disk.locate (cache.entryPath text) =
        .ok ⟨CacheFile.entry.name text :: trail, some (.file content written)⟩ ∧
      CacheEntry.ofBytes? content = some entry ∧
      ((session.after events).serve operation).2.record.given.outcome = some entry.toResult ∧
      ((session.after events).now - written ≤ config.cache.ttl.toNanos ∨
        session.Renewing events cache text trail) := by
  -- What is answered was given out by a lookup, which says how old its file may be.
  obtain ⟨cache, text, entry, asks, hit, outcome⟩ := hit_of_serve given answered
  obtain ⟨trail, nodes, content, written, holds, located, parsed, renewed⟩ :=
    ResultCache.found_of_hit hit
  refine ⟨cache, text, trail, content, written, entry, asks, located, parsed, outcome, ?_⟩
  rw [← (ttl_of_after started events).2 cache asks.used]
  by_cases fresh : (session.after events).now - written ≤ cache.ttl.toNanos
  · exact .inl fresh
  · refine .inr ?_
    -- What was left less than a window ago, was left less than a minute ago.
    have recently : ∀ left : Int,
        ((session.after events).now - left).toNat < ResultCache.markerWindow →
          (session.after events).now - left < 60 * nanosPerSecond := by
      unfold ResultCache.markerWindow nanosPerSecond
      omega
    rcases ResultCache.marker_of_isRenewed holds (renewed (by omega))
      with ⟨made, entries, directory, young⟩ | ⟨mark, left, marker, young⟩
    · exact .directory directory (recently made young)
    · exact .marked marker (recently left young) (explains_of_alone alone marker)

/-- A backend that gives no rows at first, and then fails. -/
def failingRenewal : Script :=
  Script.start [] [] [.plain, { Reply.plain with failure := some (.execution "disk I/O error") }]

/-- A configuration with a cache whose entries stay fresh for a second. -/
def shortLived : SessionConfig :=
  .ofSettings .sqlite "a.db"
    [.fileBased true, .cacheDirectory "/c", .cacheTtl (.ofSeconds 1), .cacheQueries true]

/-- A new session over both. -/
def lapsing : Session Script := {
  backend := Script.backend "scripted" .sqlite doubleQuotes
  link := failingRenewal
  connection := shortLived.connectParams
  compiler := .fresh true
  cacheConfig := shortLived.cache
  cache := some ⟨"/c", .ofSeconds 1⟩
  trace := .default
  record := .fresh
  traceLog := []
  disk := .empty
  now := 0 }

/-- A selection. -/
def selection : Operation := .query "SELECT a FROM t"

/-- The result of the selection is kept, and fails to be renewed two seconds later. -/
def lapse : List Event :=
  [.ask selection, .pass 2000000000 (lapsing.after [.ask selection]).disk, .ask selection]

/-- The selection is then answered from its entry, which is two seconds old. -/
theorem served_behind_lapse :
    let present := lapsing.after lapse
    let text := cacheText (present.backend.style.normalize "SELECT a FROM t")
      (selection.hands present.compiler.prepared present.compiler.pending)
    (present.serve selection).2.record.given.fromCache = true ∧
      present.cache = some ⟨"/c", .ofSeconds 1⟩ ∧
      (present.disk.find (ResultCache.entryPath ⟨"/c", .ofSeconds 1⟩ text)).toOption.map
        (Node.age present.now) = some 2000000000 := by
  decide +kernel

/-- Whatever cache the selection then asks, its entry is two seconds old. -/
theorem age_behind_lapse {cache : ResultCache} {text : String}
    (asks : (lapsing.after lapse).Consults selection cache text) :
    ∃ found, (lapsing.after lapse).disk.find (cache.entryPath text) = .ok found ∧
      found.age (lapsing.after lapse).now = 2000000000 := by
  obtain ⟨-, cached, old⟩ := served_behind_lapse
  -- The statement and the cache are the ones that the session has.
  obtain ⟨used, sql, given, -, rfl⟩ := asks
  obtain rfl := Option.some.inj given
  obtain rfl := Option.some.inj (used.symm.trans cached)
  obtain ⟨found, here, age⟩ := Option.map_eq_some_iff.mp old
  refine ⟨found, ?_, age⟩
  generalize (lapsing.after lapse).disk.find _ = outcome at here ⊢
  cases outcome with
  | error fault => cases here
  | ok node => exact congrArg Except.ok (Option.some.inj here)

/-- A selection is answered from an entry that is older than the time to live, as its renewal has
begun and failed. -/
theorem fresh_or_renewing_behind_lapse :
    start (Script.backend "scripted" .sqlite doubleQuotes) failingRenewal shortLived .empty 0 =
        .ok lapsing ∧ lapsing.Alone lapse ∧
      let present := lapsing.after lapse
      present.statement? selection = some "SELECT a FROM t" ∧
      (present.serve selection).2.record.given.fromCache = true ∧
      ∃ cache text trail found, present.Consults selection cache text ∧
        present.disk.locate (cache.entryPath text) =
          .ok ⟨CacheFile.entry.name text :: trail, some found⟩ ∧
        lapsing.Renewing lapse cache text trail := by
  have started : start (Script.backend "scripted" .sqlite doubleQuotes) failingRenewal shortLived
      .empty 0 = .ok lapsing := rfl
  have alone : lapsing.Alone lapse := ⟨trivial, rfl⟩
  have given : (lapsing.after lapse).statement? selection = some "SELECT a FROM t" := rfl
  obtain ⟨answered, -⟩ := served_behind_lapse
  -- The law leaves two ways, and the age of the entry rules one of them out.
  refine ⟨started, alone, given, answered, ?_⟩
  obtain ⟨cache, text, trail, content, written, entry, asks, located, -, -, fresh | renewing⟩ :=
    fresh_or_renewing_of_fromCache started alone given answered
  · -- The entry is too old to be fresh.
    obtain ⟨found, here, age⟩ := age_behind_lapse asks
    rw [Disk.find, located] at here
    obtain rfl := Except.ok.inj here
    have second : shortLived.cache.ttl.toNanos = 1000000000 := by decide
    rw [second] at fresh
    change ((lapsing.after lapse).now - written).toNat = 2000000000 at age
    omega
  · exact ⟨cache, text, trail, _, asks, located, renewing⟩

/-- Between the time to live and the end of a renewal that has failed, a selection is answered from
an entry that is older than the time to live. -/
theorem stale_of_fromCache :
    start (Script.backend "scripted" .sqlite doubleQuotes) failingRenewal shortLived .empty 0 =
        .ok lapsing ∧ lapsing.Alone lapse ∧
      let present := lapsing.after lapse
      (present.serve selection).2.record.given.fromCache = true ∧
      ∃ cache text found, present.Consults selection cache text ∧
        present.disk.find (cache.entryPath text) = .ok found ∧
        shortLived.cache.ttl.toNanos < found.age present.now := by
  obtain ⟨answered, -⟩ := served_behind_lapse
  obtain ⟨cache, text, entry, asks, -⟩ := hit_of_serve rfl answered
  obtain ⟨found, here, age⟩ := age_behind_lapse asks
  refine ⟨rfl, ⟨trivial, rfl⟩, answered, cache, text, found, asks, here, ?_⟩
  rw [age]
  decide

end Session

end Querent
