import Querent.Proofs.Cache.Files
import Querent.Proofs.Disk.Files

/-! What the calls of a cache do to the files of a disk, wherever its directory is. -/

namespace Querent

namespace ResultCache

/-- Whether the directory of a cache has room for the name of a marker, which is the longest, and
nothing is in the way of calls on it. -/
structure Roomy (cache : ResultCache) (disk : Disk) : Prop where
  room : (pathOf cache.directory).size + (CacheFile.longest + 1) ≤ Path.sizeLimit
  spare : disk.hindrances.Spare (pathOf cache.directory)

variable {cache : ResultCache} {disk : Disk} {trail : List String} {nodes : String → Option Node}
  {text : String}

/-- To make the directory changes no file. -/
theorem file?_ensure (cache : ResultCache) (now : Int) (disk : Disk) :
    (cache.ensure now disk).2.file? = disk.file? :=
  disk.file?_createDirectories (pathOf cache.directory) now

/-- To make the directory puts nothing new in the way. -/
theorem hindrances_ensure (cache : ResultCache) (now : Int) (disk : Disk) :
    (cache.ensure now disk).2.hindrances = disk.hindrances :=
  Disk.hindrances_createUpward now disk (pathOf cache.directory) _

/-- A lookup changes no file, unless it finds a stale entry and leaves a marker beside it. -/
theorem file?_lookup (cache : ResultCache) (now : Int) (text : String) (disk : Disk) :
    (cache.lookup now text disk).2.file? = disk.file? ∨
      (cache.lookup now text disk).1 = .ok .refresh ∧ ∃ trail found,
        disk.locate (cache.entryPath text) =
          .ok ⟨CacheFile.entry.name text :: trail, some found⟩ ∧
        (cache.lookup now text disk).2.file? =
          Function.update disk.file? (CacheFile.marker.name text :: trail) (some ([], now)) := by
  unfold lookup
  split
  · exact .inl rfl
  · exact .inl rfl
  · next node said =>
    obtain ⟨-, found⟩ := Disk.stat_eq_ok_iff.mp said
    split
    · split
      · next after wrote =>
        refine .inr ⟨rfl, ?_⟩
        obtain ⟨trail, nodes, holds, changed⟩ :=
          Disk.file?_of_write (CacheFile.marker.isName text) wrote
        -- The entry and its marker are in one directory.
        obtain ⟨place, located⟩ := Disk.locate_of_find found
        obtain ⟨trail', nodes', holds', -, spot⟩ :=
          Disk.holds_of_locate (CacheFile.entry.isName text) (cache.entryPath_eq text ▸ located)
        obtain ⟨rfl, rfl⟩ := holds.unique holds'
        rw [(Spot.mk.inj spot).1] at located
        exact ⟨trail, node, located, changed⟩
      · -- A marker has no content, so that it is written or nothing changes.
        next failed =>
        rw [Disk.eq_of_write_nil_failed failed]
        exact .inl rfl
    · exact .inl rfl

/-- What is discarded is the one file that may change, and it is gone if the directory takes its
name and nothing is in the way. -/
theorem file?_discard (holds : disk.Holds (pathOf cache.directory) trail nodes) (file : CacheFile)
    (text : String) :
    ∃ left, (discard (cache.pathTo (file.name text)) disk).file? =
        Function.update disk.file? (file.name text :: trail) left ∧
      (left = none ∨ left = disk.file? (file.name text :: trail)) ∧
      ((pathOf cache.directory).Takes (file.name text) →
        disk.hindrances.Spare (pathOf cache.directory) → left = none) := by
  unfold discard pathTo
  -- A file that cannot be removed stays, which needs a fault or a name that leads nowhere.
  split
  · next after removed =>
    obtain ⟨trail', nodes', holds', changed⟩ := Disk.file?_of_remove (file.isName text) removed
    obtain ⟨rfl, rfl⟩ := holds.unique holds'
    exact ⟨none, changed, .inl rfl, fun _ _ => rfl⟩
  · next fault refused =>
    refine ⟨disk.file? (file.name text :: trail), (Function.update_eq_self ..).symm, .inr rfl, ?_⟩
    intro takes spare
    have grants : disk.Grants (pathOf cache.directory) trail nodes := ⟨holds, spare⟩
    rw [holds.file?]
    cases here : nodes (file.name text) with
    | none => rfl
    | some old =>
      cases old with
      | directory made entries => rfl
      | file content written =>
        obtain ⟨after, removed, -⟩ := grants.remove takes here
        exact absurd (refused.symm.trans removed) (by simp)

/-- Files of a directory that are for other things than one stay as they are. -/
theorem update_other {files : List String → Option (List UInt8 × Int)} {file other : CacheFile}
    (differ : other ≠ file) (text text' : String) (trail way : List String)
    (value : Option (List UInt8 × Int)) :
    Function.update files (file.name text :: trail) value (other.name text' :: way) =
      files (other.name text' :: way) :=
  Function.update_of_ne (fun same =>
    CacheFile.name_ne_of_ne differ (List.cons_eq_cons.mp same).1) ..

/-- A lookup leaves every entry as it is. -/
theorem entry_lookup (cache : ResultCache) (now : Int) (other : String) (disk : Disk)
    (text : String) (trail : List String) :
    (cache.lookup now other disk).2.file? (CacheFile.entry.name text :: trail) =
      disk.file? (CacheFile.entry.name text :: trail) := by
  rcases cache.file?_lookup now other disk with same | ⟨-, way, -, -, marked⟩
  · exact congrFun same _
  · rw [marked, update_other (by decide)]

/-- A lookup leaves every marker as it is, unless it finds the entry beside it stale and leaves
another. -/
theorem marker_lookup (cache : ResultCache) (now : Int) (other : String) (disk : Disk)
    (text : String) (trail : List String) :
    let place := CacheFile.marker.name text :: trail
    let looked := cache.lookup now other disk
    looked.2.file? place = disk.file? place ∨
      looked.1 = .ok .refresh ∧ looked.2.file? place = some ([], now) ∧ ∃ stale,
        disk.locate (cache.entryPath other) =
          .ok ⟨CacheFile.entry.name text :: trail, some stale⟩ := by
  intro place looked
  rcases cache.file?_lookup now other disk with same | ⟨refreshed, way, stale, located, marked⟩
  · exact .inl (congrFun same _)
  · rw [show looked.2.file? = _ from marked]
    by_cases here : place = CacheFile.marker.name other :: way
    · -- An entry and its marker are in one directory, under one digest.
      obtain ⟨names, rfl⟩ := List.cons_eq_cons.mp here
      rw [here, CacheFile.name_congr (CacheFile.name_inj names).2]
      exact .inr ⟨refreshed, Function.update_self .., stale, located⟩
    · exact .inl (Function.update_of_ne here ..)

/-- What a store does to the files that are no drafts, wherever they are: nothing, or it puts the
entry in its place and takes the marker away from beside it. -/
inductive StoreLeaves (cache : ResultCache) (disk : Disk) (text : String)
    (stored : List UInt8 × Int) (after : Disk) : Prop
  | same : (∀ file other way, file ≠ CacheFile.draft →
      after.file? (file.name other :: way) = disk.file? (file.name other :: way)) →
      StoreLeaves cache disk text stored after
  | placed (trail : List String) {marker : Option (List UInt8 × Int)} :
      marker = none ∨ marker = disk.file? (CacheFile.marker.name text :: trail) →
      (cache.Roomy disk → marker = none) →
      (∀ file other way, file ≠ CacheFile.draft → after.file? (file.name other :: way) =
        Function.update (Function.update disk.file? (CacheFile.entry.name text :: trail)
          (some stored)) (CacheFile.marker.name text :: trail) marker (file.name other :: way)) →
      StoreLeaves cache disk text stored after

/-- A draft that takes the place of its entry makes the entry all that is new beside drafts, and the
marker is then dropped as far as it can be. -/
theorem storeLeaves_publish {drafted published : Disk} {content : List UInt8} {now : Int}
    (kept : drafted.Holds (pathOf cache.directory) trail nodes)
    (drawn : nodes (CacheFile.draft.name text) = some (.file content now))
    (written : drafted.file? =
      Function.update disk.file? (CacheFile.draft.name text :: trail) (some (content, now)))
    (still : drafted.hindrances = disk.hindrances)
    (placed : cache.publish text drafted = .ok published) :
    StoreLeaves cache disk text (content, now) (cache.dropMarker text published) := by
  rw [publish, entryPath_eq] at placed
  have moved : CacheFile.entry.name text ≠ CacheFile.draft.name text :=
    CacheFile.name_ne_of_ne (by decide)
  have files := kept.file?_of_rename (CacheFile.draft.isName text) (CacheFile.entry.isName text)
    moved drawn placed
  have stands := kept.after_rename (CacheFile.draft.isName text) (CacheFile.entry.isName text)
    moved drawn placed
  obtain ⟨left, dropped, either, gone⟩ := file?_discard stands .marker text
  -- Where the draft was written and moved away again, only drafts differ.
  have others : ∀ file other way, file ≠ CacheFile.draft →
      published.file? (file.name other :: way) =
        Function.update disk.file? (CacheFile.entry.name text :: trail)
          (some (content, now)) (file.name other :: way) := by
    intro file other way notDraft
    rw [files, Function.update_apply, update_other notDraft, written, update_other notDraft,
      Function.update_apply]
  refine .placed trail (either.imp id fun same => ?_) (fun roomy => gone ?_ ?_)
    fun file other way notDraft => ?_
  · -- The marker that stays is the one from before: neither draft nor entry is in its place.
    rw [same, others _ _ _ (by decide), update_other (by decide)]
  · obtain ⟨made, entries, located, -⟩ := kept
    have short := (CacheFile.marker.utf8ByteSize_name text).2
    have room := roomy.room
    exact Path.takes_name (Disk.walk_of_locate located).1 (by omega)
  · -- Nothing new has come in the way of the marker.
    rw [Disk.hindrances_rename placed, still]
    exact roomy.spare
  · have path : cache.markerPath text = cache.pathTo (CacheFile.marker.name text) := rfl
    rw [dropMarker, path, dropped, Function.update_apply, Function.update_apply,
      others file other way notDraft]

/-- A store leaves other files than drafts, its entry and its marker as they are. -/
theorem storeLeaves_store (cache : ResultCache) (now : Int) (text : String) (entry : CacheEntry)
    (disk : Disk) :
    StoreLeaves cache disk text (textBytes entry.render, now)
      (cache.store now text entry disk).2 := by
  have ensured := cache.file?_ensure now disk
  have still := cache.hindrances_ensure now disk
  unfold store
  generalize cache.ensure now disk = step at ensured still ⊢
  obtain ⟨outcome, made⟩ := step
  dsimp only at ensured still
  cases outcome with
  | error failure => exact .same fun _ _ _ _ => congrFun ensured _
  | ok _ =>
    dsimp only
    split
    · next torn failed =>
      -- What could be written of the draft may be there.
      have changed := Disk.file?_writeBytes (CacheFile.draft.isName text) made
        (pathOf cache.directory) (textBytes entry.render) now
      rw [show made.writeBytes (pathOf cache.directory ++ [CacheFile.draft.name text])
        (textBytes entry.render) now = _ from failed] at changed
      refine .same fun file other way notDraft => ?_
      rw [← ensured]
      rcases changed with same | ⟨trail, left, changed⟩
      · exact congrFun same _
      · rw [changed, update_other notDraft]
    · next drafted wrote =>
      obtain ⟨trail, nodes, holds, written⟩ :=
        Disk.file?_of_write (CacheFile.draft.isName text) wrote
      obtain ⟨trail', nodes', holds', kept⟩ :=
        Disk.holds_of_write (CacheFile.draft.isName text) wrote
      obtain ⟨rfl, rfl⟩ := holds.unique holds'
      rw [ensured] at written
      split
      · -- Only the draft was written, and may be gone again.
        obtain ⟨left, discarded, -⟩ := file?_discard kept .draft text
        refine .same fun file other way notDraft => ?_
        have path : cache.draftPath text = cache.pathTo (CacheFile.draft.name text) := rfl
        rw [path, discarded, update_other notDraft, written, update_other notDraft]
      · next published renamed =>
        have still : drafted.hindrances = disk.hindrances := by
          rw [← still, ← made.hindrances_writeBytes _ _ now]
          exact congrArg (·.2.hindrances) wrote.symm
        exact storeLeaves_publish kept (Function.update_self ..) written still renamed

section

variable {stored : List UInt8 × Int} {after : Disk}
  (leaves : StoreLeaves cache disk text stored after) (other : String) (way : List String)

include leaves

/-- A store leaves no marker that was not there. -/
theorem StoreLeaves.marker :
    after.file? (CacheFile.marker.name other :: way) =
        disk.file? (CacheFile.marker.name other :: way) ∨
      after.file? (CacheFile.marker.name other :: way) = none := by
  -- The store left everything, or has put its entry in place.
  cases leaves with
  | same kept => exact .inl (kept _ _ _ (by decide))
  | placed trail either _ changed =>
    rw [changed _ _ _ (by decide), Function.update_apply]
    split
    · next here =>
      rw [here]
      exact either.symm
    · exact .inl (update_other (by decide) ..)

/-- A store that puts a new entry somewhere leaves no marker there, if there is room for one. -/
theorem StoreLeaves.entry (roomy : cache.Roomy disk)
    (changed : after.file? (CacheFile.entry.name other :: way) ≠
      disk.file? (CacheFile.entry.name other :: way)) :
    after.file? (CacheFile.marker.name other :: way) = none := by
  cases leaves with
  | same kept => exact absurd (kept _ _ _ (by decide)) changed
  | placed trail _ gone files =>
    rw [files _ _ _ (by decide), update_other (by decide), Function.update_apply] at changed
    rw [files _ _ _ (by decide), gone roomy]
    split at changed
    · -- The marker of the entry is that of its digest, in the same directory.
      next here =>
      obtain ⟨name, rfl⟩ := List.cons_eq_cons.mp here
      rw [CacheFile.name_congr (CacheFile.name_inj name).2]
      exact Function.update_self ..
    · exact absurd rfl changed

end

/-- An entry is given out as its file gives it back, which is fresh or is being renewed. -/
theorem found_of_hit {now : Int} {entry : CacheEntry}
    (hit : (cache.lookup now text disk).1 = .ok (.hit entry)) :
    ∃ trail nodes content written, disk.Holds (pathOf cache.directory) trail nodes ∧
      disk.locate (cache.entryPath text) =
        .ok ⟨CacheFile.entry.name text :: trail, some (.file content written)⟩ ∧
      CacheEntry.ofBytes? content = some entry ∧
      (cache.ttl.toNanos < (now - written).toNat → cache.isRenewed now text disk = true) := by
  unfold lookup at hit
  split at hit
  · cases hit
  · cases hit
  · next node said =>
    obtain ⟨-, found⟩ := Disk.stat_eq_ok_iff.mp said
    split at hit
    · split at hit <;> cases hit
    · next served =>
      obtain ⟨place, located⟩ := Disk.locate_of_find found
      obtain ⟨trail, nodes, holds, -, spot⟩ :=
        Disk.holds_of_locate (CacheFile.entry.isName text) (cache.entryPath_eq text ▸ located)
      unfold load at hit
      split at hit
      · cases hit
      · next content read =>
        -- What was read is the file that was found.
        obtain ⟨-, written, found'⟩ := Disk.readBytes_eq_ok_iff.mp read
        obtain rfl := Except.ok.inj (found.symm.trans found')
        rw [(Spot.mk.inj spot).1] at located
        refine ⟨trail, nodes, content, written, holds, located, ?_, fun stale => ?_⟩
        · split at hit
          · cases hit
          · next given parsed =>
            obtain rfl := Lookup.hit.inj (Except.ok.inj hit)
            exact parsed
        · by_contra idle
          exact served ⟨stale, by simpa using idle⟩

/-- An entry is being renewed by a young marker beside it, or by a young directory in its place. -/
theorem marker_of_isRenewed {now : Int} (holds : disk.Holds (pathOf cache.directory) trail nodes)
    (renewed : cache.isRenewed now text disk = true) :
    (∃ made entries, disk.find (cache.markerPath text) = .ok (.directory made entries) ∧
      (now - made).toNat < markerWindow) ∨
      ∃ content written, disk.file? (CacheFile.marker.name text :: trail) =
        some (content, written) ∧ (now - written).toNat < markerWindow := by
  unfold isRenewed at renewed
  split at renewed
  · next node said =>
    obtain ⟨-, found⟩ := Disk.stat_eq_ok_iff.mp said
    cases node with
    | directory made entries => exact .inl ⟨made, entries, found, of_decide_eq_true renewed⟩
    | file content written =>
      refine .inr ⟨content, written, ?_, of_decide_eq_true renewed⟩
      obtain ⟨place, located⟩ := Disk.locate_of_find found
      obtain ⟨trail', nodes', holds', -, spot⟩ :=
        Disk.holds_of_locate (CacheFile.marker.isName text) located
      obtain ⟨rfl, rfl⟩ := holds.unique holds'
      obtain ⟨rfl, -⟩ := Spot.mk.inj spot
      exact Disk.file?_of_locate located
  · cases renewed

end ResultCache

end Querent
