import Mathlib.Data.Set.Function
import Querent.Proofs.Cache.Calls
import Querent.Proofs.Cache.Entry
import Querent.Proofs.Cache.Files

/-! A cache in an empty directory answers by the history of the calls to it. -/

namespace Querent

open Exchange

/-- Whether a call is about one of some texts, and stores only what its file gives back. -/
def CacheCall.Known (texts : Set String) (call : CacheCall) : Prop :=
  call.text ∈ texts ∧ ∀ entry ∈ call.entry?, CacheEntry.parse? entry.render = some entry

/-- Whether the files of some texts are those that the history of calls asks for: each entry as it
was stored last, and a marker of the latest renewal since. -/
structure Mirrors (texts : Set String) (nodes : String → Option Node) (past : List Exchange) :
    Prop where
  entries : ∀ text ∈ texts, nodes (CacheFile.entry.name text) =
    (latestStore? text past).map fun kept => .file (textBytes kept.1.render) kept.2
  markers : ∀ text ∈ texts, nodes (CacheFile.marker.name text) =
    (latestRefresh? text past).map (.file [])
  restored : ∀ text ∈ texts, ∀ kept ∈ latestStore? text past,
    CacheEntry.parse? kept.1.render = some kept.1

namespace Mirrors

variable {texts : Set String} {nodes : String → Option Node} {past : List Exchange}

/-- An empty directory is that of no calls. -/
theorem empty : Mirrors texts (fun _ => none) [] :=
  ⟨fun _ _ => rfl, fun _ _ => rfl, fun _ _ _ stored => absurd stored (by simp [latestStore?])⟩

/-- A file of a text has the name of another file only if both are the same file of the same text.
-/
theorem name_eq_iff (distinct : texts.InjOn Sha256.hex) {text other : String}
    (used : text ∈ texts) (otherUsed : other ∈ texts) {file file' : CacheFile} :
    file.name text = file'.name other ↔ file = file' ∧ text = other := by
  constructor
  · intro same
    -- The digests of texts in use tell them apart.
    obtain ⟨files, digests⟩ := CacheFile.name_inj same
    exact ⟨files, distinct used otherUsed digests⟩
  · rintro ⟨rfl, rfl⟩
    rfl

/-- An entry that is stored is the latest of its text, and no other text is concerned. -/
theorem store (mirrors : Mirrors texts nodes past) (distinct : texts.InjOn Sha256.hex)
    {text : String} (used : text ∈ texts) (now : Int) {entry : CacheEntry}
    (restored : CacheEntry.parse? entry.render = some entry) (answer : Except Failure CacheAnswer) :
    Mirrors texts (ResultCache.stocked nodes text (.file (textBytes entry.render) now))
      (⟨.store now text entry, answer⟩ :: past) := by
  -- The store changes the entry and the marker of its own text only.
  refine ⟨?_, ?_, ?_⟩
  · intro other otherUsed
    rw [latestStore?_store]
    simp only [ResultCache.stocked, Function.update_apply, name_eq_iff distinct otherUsed used]
    by_cases same : text = other
    · simp [same]
    · simpa [same, Ne.symm same] using mirrors.entries other otherUsed
  · -- Its marker is dropped, as there was no renewal since.
    intro other otherUsed
    rw [latestRefresh?_store]
    simp only [ResultCache.stocked, Function.update_apply, name_eq_iff distinct otherUsed used]
    by_cases same : text = other
    · simp [same]
    · simpa [same, Ne.symm same] using mirrors.markers other otherUsed
  · -- The latest entry is the one that was stored, or the one from before.
    intro other otherUsed kept latest
    rw [latestStore?_store] at latest
    split at latest
    · obtain rfl := Option.some.inj latest
      exact restored
    · exact mirrors.restored other otherUsed kept latest

/-- A text that is given out for renewal has a marker, and no other text is concerned. -/
theorem refresh (mirrors : Mirrors texts nodes past) (distinct : texts.InjOn Sha256.hex)
    {text : String} (used : text ∈ texts) (now : Int) :
    Mirrors texts (Function.update nodes (CacheFile.marker.name text) (some (.file [] now)))
      (⟨.lookup now text, .ok (.found .refresh)⟩ :: past) := by
  refine ⟨?_, ?_, mirrors.restored⟩
  · intro other otherUsed
    -- A marker is no entry, whatever texts they are of.
    have differs : CacheFile.entry.name other ≠ CacheFile.marker.name text :=
      CacheFile.name_ne_of_ne (by decide)
    rw [Function.update_of_ne differs]
    exact mirrors.entries other otherUsed
  · intro other otherUsed
    rw [latestRefresh?_refresh]
    simp only [Function.update_apply, name_eq_iff distinct otherUsed used]
    by_cases same : text = other
    · simp [same]
    · simpa [same, Ne.symm same] using mirrors.markers other otherUsed

/-- Any other lookup leaves the history of stores and renewals as it is. -/
theorem skip (mirrors : Mirrors texts nodes past) {exchange : Exchange}
    (kept : ∀ text, exchange.stored? text = none) (idle : ∀ text, exchange.refreshed? text = none) :
    Mirrors texts nodes (exchange :: past) := by
  -- Neither a store nor a renewal is added to the history.
  have stores : ∀ text, latestStore? text (exchange :: past) = latestStore? text past :=
    fun text => latestStore?_cons (kept text)
  have renewals : ∀ text, latestRefresh? text (exchange :: past) = latestRefresh? text past := by
    intro text
    rw [latestRefresh?_cons (kept text), idle text, Option.none_or]
  refine ⟨?_, ?_, ?_⟩
  · intro text used
    rw [stores]
    exact mirrors.entries text used
  · intro text used
    rw [renewals]
    exact mirrors.markers text used
  · intro text used
    rw [stores]
    exact mirrors.restored text used

end Mirrors

namespace ResultCache

variable {cache : ResultCache} {disk : Disk} {trail : List String} {nodes : String → Option Node}
  {texts : Set String} {past : List Exchange}

/-- A lookup in a directory that mirrors the history finds what the history asks for, and the
directory mirrors the history with the lookup. -/
theorem Keeps.lookup (keeps : cache.Keeps disk trail nodes) (mirrors : Mirrors texts nodes past)
    (distinct : texts.InjOn Sha256.hex) {text : String} (used : text ∈ texts) (now : Int) :
    ∃ after nodes', cache.lookup now text disk = (.ok (awaited cache.ttl past text now), after) ∧
      cache.Keeps after trail nodes' ∧ Mirrors texts nodes'
        (⟨.lookup now text, .ok (.found (awaited cache.ttl past text now))⟩ :: past) := by
  have file := mirrors.entries text used
  have renewed : cache.isRenewed now text disk = isUnderway past text now :=
    keeps.isRenewed now (mirrors.markers text used)
  -- The answer follows the history: was there a store, and is it fresh or being renewed?
  unfold awaited
  cases latest : latestStore? text past with
  | none =>
    rw [latest] at file
    exact ⟨disk, nodes, keeps.lookup_missing now file, keeps,
      mirrors.skip (fun _ => rfl) fun _ => rfl⟩
  | some kept =>
    obtain ⟨entry, stored⟩ := kept
    rw [latest] at file
    dsimp only
    split
    · -- The directory is left alone by a hit.
      next served =>
      rw [← renewed] at served
      have restored := mirrors.restored text used _ latest
      have given := lookup_hit keeps.grants (keeps.takes .entry text) now file restored served
      exact ⟨disk, nodes, given, keeps, mirrors.skip (fun _ => rfl) fun _ => rfl⟩
    · -- A stale entry that nobody renews gets a marker, and so the history gets a renewal.
      next due =>
      obtain ⟨stale, idle⟩ := not_or.mp due
      rw [← renewed] at idle
      obtain ⟨after, found, kept⟩ := keeps.lookup_refresh now file (Int.not_le.mp stale)
        (Bool.not_eq_true _ ▸ idle)
      exact ⟨after, _, found, kept, mirrors.refresh distinct used now⟩

/-- A call gets the answer that the history asks for, and the directory mirrors the history with it.
-/
theorem Keeps.serve (keeps : cache.Keeps disk trail nodes) (mirrors : Mirrors texts nodes past)
    (distinct : texts.InjOn Sha256.hex) {call : CacheCall} (known : call.Known texts) :
    ∃ after nodes', cache.serve disk call = (.ok (answerTo cache.ttl past call), after) ∧
      cache.Keeps after trail nodes' ∧
      Mirrors texts nodes' (⟨call, .ok (answerTo cache.ttl past call)⟩ :: past) := by
  obtain ⟨used, restored⟩ := known
  -- A store is always done; a lookup was dealt with above.
  cases call with
  | store now text entry =>
    obtain ⟨after, done, kept⟩ := keeps.store now text entry
    refine ⟨after, _, ?_, kept, mirrors.store distinct used now (restored entry rfl) _⟩
    rw [ResultCache.serve, done]
    rfl
  | lookup now text =>
    obtain ⟨after, nodes', found, kept, mirrors'⟩ := keeps.lookup mirrors distinct used now
    refine ⟨after, nodes', ?_, kept, mirrors'⟩
    exact congrArg (fun found => (found.1.map CacheAnswer.found, found.2)) found

/-- Whether the directory of a cache is there, with nothing in it and with room for the names of all
files, since a disk refuses every path that is too long, and nothing is in the way of calls on it.
-/
structure Ready (cache : ResultCache) (disk : Disk) : Prop where
  bare : ∃ made, disk.find (pathOf cache.directory) = .ok (.directory made .empty)
  room : (pathOf cache.directory).size + (CacheFile.longest + 1) ≤ Path.sizeLimit
  spare : disk.hindrances.Spare (pathOf cache.directory)

/-- A directory that is ready has no files yet. -/
theorem Ready.keeps (ready : cache.Ready disk) :
    ∃ trail, cache.Keeps disk trail fun _ => none := by
  obtain ⟨made, found⟩ := ready.bare
  -- To find an empty directory at the path is to locate it there.
  unfold Disk.find at found
  cases located : disk.locate (pathOf cache.directory) with
  | error fault =>
    rw [located] at found
    cases found
  | ok spot =>
    obtain ⟨trail, node?⟩ := spot
    rw [located] at found
    cases node? with
    | none => cases found
    | some node =>
      obtain rfl := Except.ok.inj found
      have bare : FilesOnly fun _ => none := fun _ _ absent => nomatch absent
      exact ⟨trail, ⟨⟨made, .empty, located, rfl⟩, ready.spare⟩, bare, ready.room⟩

variable {calls : List CacheCall}

/-- After any calls, the directory mirrors their history, which explains all answers. -/
theorem Keeps.play (keeps : cache.Keeps disk trail fun _ => none)
    (distinct : texts.InjOn Sha256.hex) (known : ∀ call ∈ calls, call.Known texts) :
    Explained cache.ttl (cache.play disk calls).1 ∧
      ∃ nodes, cache.Keeps (cache.play disk calls).2 trail nodes ∧
        Mirrors texts nodes (cache.play disk calls).1 := by
  -- The latest call is the first of the list, and it meets the directory that mirrors the earlier
  -- ones.
  induction calls with
  | nil => exact ⟨trivial, _, keeps, Mirrors.empty⟩
  | cons call earlier ih =>
    obtain ⟨knownNow, knownBefore⟩ := List.forall_mem_cons.mp known
    obtain ⟨explained, nodes, kept, mirrors⟩ := ih knownBefore
    obtain ⟨after, nodes', served, kept', mirrors'⟩ := kept.serve mirrors distinct knownNow
    have played : cache.play disk (call :: earlier) =
        (⟨call, .ok (answerTo cache.ttl (cache.play disk earlier).1 call)⟩ ::
          (cache.play disk earlier).1, after) := by
      rw [ResultCache.play, served]
    rw [played]
    exact ⟨⟨rfl, explained⟩, nodes', kept', mirrors'⟩

/-- After any calls, one more gets the answer that their history asks for. -/
theorem Keeps.serve_play (keeps : cache.Keeps disk trail fun _ => none)
    (distinct : texts.InjOn Sha256.hex) (known : ∀ call ∈ calls, call.Known texts)
    {call : CacheCall} (knownNow : call.Known texts) :
    (cache.serve (cache.play disk calls).2 call).1 =
      .ok (answerTo cache.ttl (cache.play disk calls).1 call) := by
  obtain ⟨-, nodes, kept, mirrors⟩ := keeps.play distinct known
  obtain ⟨after, nodes', served, -, -⟩ := kept.serve mirrors distinct knownNow
  exact congrArg Prod.fst served

/-- The exchanges about a text are those of the calls about it, had there been no others. -/
theorem Keeps.play_filter (keeps : cache.Keeps disk trail fun _ => none)
    (distinct : texts.InjOn Sha256.hex) (known : ∀ call ∈ calls, call.Known texts)
    (text : String) :
    (cache.play disk calls).1.filter (about text) =
      (cache.play disk (calls.filter fun call => call.text = text)).1 := by
  induction calls with
  | nil => rfl
  | cons call earlier ih =>
    obtain ⟨knownNow, knownBefore⟩ := List.forall_mem_cons.mp known
    have before := ih knownBefore
    rw [play_cons]
    -- A call about another text is left out on both sides.
    by_cases same : call.text = text
    · -- What the call gets is told by the exchanges about its text, which are the same ones.
      subst same
      have knownThere : ∀ other ∈ earlier.filter fun other => other.text = call.text,
          other.Known texts := fun other mem => knownBefore other (List.mem_of_mem_filter mem)
      rw [List.filter_cons_of_pos (by simp [about]), List.filter_cons_of_pos (by simp), play_cons,
        keeps.serve_play distinct knownBefore knownNow,
        keeps.serve_play distinct knownThere knownNow, ← before, answerTo_filter]
    · rw [List.filter_cons_of_neg (by simpa [about] using same),
        List.filter_cons_of_neg (by simpa using same), before]

/-- After any calls, a lookup finds what their history asks for. -/
theorem Keeps.lookup_play (keeps : cache.Keeps disk trail fun _ => none)
    (distinct : texts.InjOn Sha256.hex) (known : ∀ call ∈ calls, call.Known texts)
    {text : String} (used : text ∈ texts) (now : Int) :
    (cache.lookup now text (cache.play disk calls).2).1 =
      .ok (awaited cache.ttl (cache.play disk calls).1 text now) := by
  obtain ⟨-, nodes, kept, mirrors⟩ := keeps.play distinct known
  obtain ⟨after, nodes', found, -, -⟩ := kept.lookup mirrors distinct used now
  exact congrArg Prod.fst found

/-- A cache in an empty directory answers by the history of the calls to it, at whatever times they
are made. A lookup finds what the latest store of its text and the latest renewal since ask for, and
every store is done; calls about other texts make no difference, and between two renewals of a text
that is not stored there is a minute. -/
theorem answers_by_history (ready : cache.Ready disk) (distinct : texts.InjOn Sha256.hex)
    (known : ∀ call ∈ calls, call.Known texts) :
    (∀ text ∈ texts, ∀ now, (cache.lookup now text (cache.play disk calls).2).1 =
      .ok (awaited cache.ttl (cache.play disk calls).1 text now)) ∧
    (∀ text now entry, (cache.store now text entry (cache.play disk calls).2).1 = .ok ()) ∧
    (∀ text ∈ texts, ∀ now, (cache.lookup now text (cache.play disk calls).2).1 =
      (cache.lookup now text (cache.play disk (calls.filter fun call => call.text = text)).2).1) ∧
    ∀ text later second between first past, ∀ before after : Int,
      (cache.play disk calls).1 = later ++ second :: (between ++ first :: past) →
      first.refreshed? text = some before → second.refreshed? text = some after →
      (∀ exchange ∈ between, exchange.stored? text = none) →
      before + 60 * nanosPerSecond ≤ after := by
  obtain ⟨trail, keeps⟩ := ready.keeps
  obtain ⟨explained, nodes, kept, mirrors⟩ := keeps.play distinct known
  -- All four follow from the directory that mirrors the history, and from answers that it explains.
  refine ⟨?_, ?_, ?_, ?_⟩
  · intro text used now
    exact keeps.lookup_play distinct known used now
  · intro text now entry
    obtain ⟨after, done, -⟩ := kept.store now text entry
    exact congrArg Prod.fst done
  · intro text used now
    -- Without the calls about other texts, the history of the text is the same.
    have knownToo : ∀ call ∈ calls.filter fun call => call.text = text, call.Known texts :=
      fun call mem => known call (List.mem_of_mem_filter mem)
    rw [keeps.lookup_play distinct known used now, keeps.lookup_play distinct knownToo used now,
      ← keeps.play_filter distinct known]
    exact congrArg Except.ok (awaited_filter ..).symm
  · intro text later second between first past before after history given again unstored
    -- That the answers are explained holds at the time of the second renewal, too.
    rw [history] at explained
    exact minute_of_explained explained.of_append given again unstored

/-- An entry that is stale by two seconds is given out for renewal, and then served while this is
under way, whatever is stored under another text. -/
theorem renews_stale_entry :
    let disk : Disk := { root := .directory 0 ⟨[("c", .directory 0 .empty)]⟩ }
    let cache : ResultCache := ⟨"/c", .ofSeconds 1⟩
    let entry : CacheEntry := ⟨[], [[.int 1, .null]], 1, 1, none, false, 0⟩
    let stores : List CacheCall := [.store 7 "b" ⟨[], [], 0, 3, none, true, 0⟩, .store 0 "a" entry]
    let asked := CacheCall.lookup (3 * nanosPerSecond) "a" :: stores
    (cache.Ready disk ∧ Set.InjOn Sha256.hex {"a", "b"} ∧ ∀ call ∈ asked, call.Known {"a", "b"}) ∧
      (cache.lookup (3 * nanosPerSecond) "a" (cache.play disk stores).2).1 = .ok .refresh ∧
      (cache.lookup (4 * nanosPerSecond) "a" (cache.play disk asked).2).1 = .ok (.hit entry) := by
  intro disk cache entry stores asked
  have ready : cache.Ready disk := by
    have found : disk.find (pathOf "/c") = .ok (.directory 0 .empty) := by rfl
    exact ⟨⟨0, found⟩, by decide, Hindrances.spare_free _⟩
  have differ : Sha256.hex "a" ≠ Sha256.hex "b" := by decide +kernel
  have distinct : Set.InjOn Sha256.hex {"a", "b"} :=
    Set.injOn_pair.mpr fun same => absurd same differ
  -- Both entries hold no float, so that their files give them back.
  have known : ∀ call ∈ asked, call.Known {"a", "b"} := by
    intro call mem
    simp only [asked, stores, List.mem_cons, List.not_mem_nil, or_false] at mem
    rcases mem with rfl | rfl | rfl
    · exact ⟨.inl rfl, fun _ stored => nomatch stored⟩
    · refine ⟨.inr rfl, ?_⟩
      rintro _ ⟨⟩
      exact CacheEntry.parse?_render (by simp [CacheEntry.IsStorable])
    · refine ⟨.inl rfl, ?_⟩
      rintro _ ⟨⟩
      exact CacheEntry.parse?_render (by simp [CacheEntry.IsStorable, entry, Value.IsStorable])
  have knownBefore : ∀ call ∈ stores, call.Known {"a", "b"} := fun call mem =>
    known call (List.mem_cons_of_mem _ mem)
  -- At three seconds, the entry is two seconds too old, and no renewal is under way.
  have latest : latestStore? "a" (cache.play disk stores).1 = some (entry, 0) := rfl
  have idle : isUnderway (cache.play disk stores).1 "a" (3 * nanosPerSecond) = false := rfl
  have first : (cache.lookup (3 * nanosPerSecond) "a" (cache.play disk stores).2).1 =
      .ok .refresh := by
    rw [(answers_by_history ready distinct knownBefore).1 "a" (.inl rfl), awaited, latest, idle]
    exact congrArg Except.ok (if_neg (by decide))
  refine ⟨⟨ready, distinct, known⟩, first, ?_⟩
  have second := (answers_by_history ready distinct known).1 "a" (.inl rfl) (4 * nanosPerSecond)
  -- The second lookup has the first one in its history.
  have served : (cache.serve (cache.play disk stores).2 (.lookup (3 * nanosPerSecond) "a")).1 =
      (cache.lookup (3 * nanosPerSecond) "a" (cache.play disk stores).2).1.map .found := rfl
  have still : latestStore? "a" (cache.play disk asked).1 = some (entry, 0) := rfl
  rw [second, awaited, still, isUnderway, play_cons, served, first]
  exact congrArg Except.ok (if_pos (.inr (by decide)))

end ResultCache

end Querent
