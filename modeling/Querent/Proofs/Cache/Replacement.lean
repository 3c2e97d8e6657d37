import Querent.Proofs.Cache.Files

/-! What a cache does to the entry of a text, whatever else is in its directory. -/

namespace Querent

namespace ResultCache

variable {cache : ResultCache} {disk : Disk} {trail : List String} {nodes : String → Option Node}
  {text : String}

/-- A lookup puts nothing new in the way of calls. -/
theorem hindrances_lookup (cache : ResultCache) (now : Int) (text : String) (disk : Disk) :
    (cache.lookup now text disk).2.hindrances = disk.hindrances := by
  -- The marker is all that a lookup may write.
  have marked := disk.hindrances_writeBytes (cache.markerPath text) [] now
  unfold lookup
  split
  · rfl
  · rfl
  · split
    · split <;> next wrote => rwa [wrote] at marked
    · rfl

/-- What is discarded puts nothing new in the way of calls. -/
theorem hindrances_discard (path : Path) (disk : Disk) :
    (discard path disk).hindrances = disk.hindrances := by
  unfold discard
  split
  · next removed => exact Disk.hindrances_remove removed
  · rfl

/-- A lookup leaves the nodes of a directory as they are, but for the marker of the text. -/
theorem holds_of_lookup (holds : disk.Holds (pathOf cache.directory) trail nodes) (now : Int)
    (text : String) :
    ∃ nodes', (cache.lookup now text disk).2.Holds (pathOf cache.directory) trail nodes' ∧
      ∀ name, name ≠ CacheFile.marker.name text → nodes' name = nodes name := by
  unfold lookup
  split
  · exact ⟨nodes, holds, fun _ _ => rfl⟩
  · exact ⟨nodes, holds, fun _ _ => rfl⟩
  · split
    · split
      · -- The marker is written into the directory that the entry is in.
        next after wrote =>
        obtain ⟨trail', nodes', before, behind⟩ :=
          Disk.holds_of_write (CacheFile.marker.isName text) wrote
        obtain ⟨rfl, rfl⟩ := holds.unique before
        exact ⟨_, behind, fun name other => Function.update_of_ne other ..⟩
      · next failed =>
        rw [Disk.eq_of_write_nil_failed failed]
        exact ⟨nodes, holds, fun _ _ => rfl⟩
    · exact ⟨nodes, holds, fun _ _ => rfl⟩

/-- A marker that is dropped leaves the other nodes of a directory as they are, and so does one that
cannot be. -/
theorem holds_of_dropMarker (holds : disk.Holds (pathOf cache.directory) trail nodes)
    (text : String) :
    ∃ nodes', (cache.dropMarker text disk).Holds (pathOf cache.directory) trail nodes' ∧
      ∀ name, name ≠ CacheFile.marker.name text → nodes' name = nodes name := by
  unfold dropMarker discard
  -- Either the marker is removed from where it is, or nothing is.
  split
  · next after removed =>
    obtain ⟨trail', nodes', before, behind⟩ :=
      Disk.holds_of_remove (CacheFile.marker.isName text) removed
    obtain ⟨rfl, rfl⟩ := holds.unique before
    exact ⟨_, behind, fun name other => Function.update_of_ne other ..⟩
  · exact ⟨nodes, holds, fun _ _ => rfl⟩

/-- A marker that is dropped leaves the entries and drafts of a directory where nothing is in the
way as they are. -/
theorem grants_of_dropMarker (grants : disk.Grants (pathOf cache.directory) trail nodes)
    (text : String) :
    ∃ nodes', (cache.dropMarker text disk).Grants (pathOf cache.directory) trail nodes' ∧
      ∀ name, name ≠ CacheFile.marker.name text → nodes' name = nodes name := by
  obtain ⟨nodes', left, kept⟩ := holds_of_dropMarker grants.holds text
  exact ⟨nodes', ⟨left, (hindrances_discard _ disk).symm ▸ grants.spare⟩, kept⟩

/-- A lookup leaves the file of an entry as it is. -/
theorem find_entry_of_lookup (cache : ResultCache) (now : Int) (text : String) (disk : Disk) :
    (cache.lookup now text disk).2.find (cache.entryPath text) =
      disk.find (cache.entryPath text) := by
  cases said : disk.stat (cache.entryPath text) with
  | error fault =>
    -- Where nothing is found the disk stays as it is.
    unfold lookup
    rw [said]
    cases fault <;> rfl
  | ok node =>
    obtain ⟨-, found⟩ := Disk.stat_eq_ok_iff.mp said
    rw [cache.entryPath_eq] at found ⊢
    -- The directory of the entry is the one whose marker may have changed.
    obtain ⟨place, located⟩ := Disk.locate_of_find found
    obtain ⟨trail, nodes, holds, takes, -⟩ :=
      Disk.holds_of_locate (CacheFile.entry.isName text) located
    obtain ⟨nodes', behind, kept⟩ := holds_of_lookup holds now text
    rw [behind.find takes, kept _ (CacheFile.name_ne_of_ne (by decide)), ← holds.find takes, found]

/-- Whether an entry of a text can be put into the directory of a cache: the directory is there, it
has room for the name of the draft, no other directory is in its place, and nothing else is in the
way. -/
structure Writable (cache : ResultCache) (disk : Disk) (text : String) : Prop where
  directory : disk.isDirectory (pathOf cache.directory) = true
  room : Path.fault? (cache.draftPath text) = none
  draft : disk.isDirectory (cache.draftPath text) = false
  entry : disk.isDirectory (cache.entryPath text) = false
  spare : disk.hindrances.Spare (pathOf cache.directory)

/-- A name that leads to no directory has none. -/
theorem free_of_isDirectory {file : CacheFile}
    (grants : disk.Grants (pathOf cache.directory) trail nodes)
    (takes : (pathOf cache.directory).Takes (file.name text))
    (none : disk.isDirectory (cache.pathTo (file.name text)) = false) :
    ∀ old ∈ nodes (file.name text), ¬old.IsDirectory := by
  intro old here stands
  -- A call that asks about the name sees what stands there.
  have found := grants.stat takes
  rw [here] at found
  unfold Disk.isDirectory pathTo at none
  rw [found] at none
  cases old with
  | file content written => exact stands.elim
  | directory made entries => cases none

/-- A directory into which an entry can be put takes its name and that of its draft, and has no
directory under either. -/
theorem Writable.grants (writable : cache.Writable disk text) :
    ∃ trail nodes, disk.Grants (pathOf cache.directory) trail nodes ∧
      ∀ file, file ≠ .marker → (pathOf cache.directory).Takes (CacheFile.name file text) ∧
        ∀ old ∈ nodes (CacheFile.name file text), ¬old.IsDirectory := by
  obtain ⟨directory, room, draft, entry, spare⟩ := writable
  obtain ⟨trail, nodes, grants⟩ :
      ∃ trail nodes, disk.Grants (pathOf cache.directory) trail nodes := by
    unfold Disk.isDirectory at directory
    split at directory
    · next made entries said =>
      obtain ⟨-, found⟩ := Disk.stat_eq_ok_iff.mp said
      obtain ⟨trail, located⟩ := Disk.locate_of_find found
      exact ⟨trail, _, ⟨made, entries, located, rfl⟩, spare⟩
    · cases directory
  -- The two names are left to be taken.
  refine ⟨trail, nodes, grants, ?_⟩
  have fits := Path.size_le_of_accepted room
  rw [draftPath, pathTo, Path.size_append, Path.size_name] at fits
  intro file other
  -- The entry has the shorter name of the two.
  have shorter : (CacheFile.name file text).utf8ByteSize ≤
      (Sha256.hex text ++ ".tmp").utf8ByteSize := by
    rw [CacheFile.name, String.utf8ByteSize_append, String.utf8ByteSize_append]
    cases file with
    | marker => exact absurd rfl other
    | _ => exact Nat.add_le_add_left (by decide) _
  have takes : (pathOf cache.directory).Takes (CacheFile.name file text) :=
    Path.takes_name (Path.fault?_of_append room) (by omega)
  refine ⟨takes, free_of_isDirectory grants takes ?_⟩
  cases file with
  | entry =>
    rw [CacheFile.entry_name]
    exact entry
  | draft => exact draft
  | marker => exact absurd rfl other

/-- An entry that is stored behind a lookup takes the place of whatever file was there, so that
until it is stale each lookup gives out what its file gives back. -/
theorem Writable.replaced (writable : cache.Writable disk text) {entry given : CacheEntry}
    (restored : CacheEntry.parse? entry.render = some given) (now : Int) :
    ∃ after, cache.store now text entry (cache.lookup now text disk).2 = (.ok (), after) ∧
      ∀ later : Int, later - now ≤ cache.ttl.toNanos →
        cache.lookup later text after = (.ok (.hit given), after) := by
  obtain ⟨trail, nodes, grants, fit⟩ := writable.grants
  obtain ⟨looked, behind, kept⟩ := holds_of_lookup grants.holds now text
  have behind : (cache.lookup now text disk).2.Grants (pathOf cache.directory) trail looked :=
    ⟨behind, cache.hindrances_lookup now text disk ▸ grants.spare⟩
  obtain ⟨takes, free⟩ := fit .entry (by decide)
  obtain ⟨draftTakes, draftFree⟩ := fit .draft (by decide)
  rw [← kept _ (CacheFile.name_ne_of_ne (by decide))] at free draftFree
  -- Behind the lookup, both places are as they were, so that the store goes through.
  obtain ⟨published, stored, placed⟩ :=
    store_of_grants behind takes draftTakes free draftFree now entry
  obtain ⟨nodes', left, kept'⟩ := grants_of_dropMarker placed text
  refine ⟨_, stored, ?_⟩
  intro later fresh
  have file : nodes' (CacheFile.entry.name text) = some (.file (textBytes entry.render) now) := by
    rw [kept' _ (CacheFile.name_ne_of_ne (by decide)), Function.update_self]
  exact lookup_hit left takes later file restored (.inl fresh)

end ResultCache

end Querent
