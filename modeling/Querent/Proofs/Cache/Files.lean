import Querent.Cache.Store
import Querent.Proofs.Cache.Entry
import Querent.Proofs.Digest.Sha256
import Querent.Proofs.Disk.Calls

/-! The three files that a cache has for a text, and what its calls do to them. -/

namespace Querent

/-- What a file of a cache is for. -/
inductive CacheFile
  | entry
  | draft
  | marker
deriving DecidableEq

namespace CacheFile

/-- What is behind the digest in the name of a file. -/
def suffix : CacheFile → String
  | entry => ""
  | draft => ".tmp"
  | marker => ".updating"

/-- The name of a file that a cache has for a text. -/
def name (file : CacheFile) (text : String) : String :=
  Sha256.hex text ++ file.suffix

/-- The entry of a text is under the digest alone. -/
theorem entry_name (text : String) : entry.name text = Sha256.hex text :=
  String.append_empty

/-- Files are for different things by what is behind the digest. -/
theorem suffix_inj {file other : CacheFile} (same : file.suffix = other.suffix) : file = other := by
  cases file <;> cases other <;> first | rfl | exact absurd same (by decide)

/-- Files have the same name if they are for the same thing and of texts with the same digest. -/
theorem name_inj {file other : CacheFile} {text text' : String}
    (same : file.name text = other.name text') :
    file = other ∧ Sha256.hex text = Sha256.hex text' := by
  -- All digests have the same length, so that they end at the same place.
  obtain ⟨digests, suffixes⟩ := Sha256.hex_append_inj same
  exact ⟨suffix_inj suffixes, digests⟩

/-- Files for different things have different names, of whatever texts they are. -/
theorem name_ne_of_ne {file other : CacheFile} (differ : file ≠ other) {text text' : String} :
    file.name text ≠ other.name text' :=
  fun same => differ (name_inj same).1

/-- The files of texts with one digest have the same names. -/
theorem name_congr {text other : String} (same : Sha256.hex text = Sha256.hex other)
    (file : CacheFile) : file.name text = file.name other :=
  congrArg (· ++ file.suffix) same

/-- The files of texts with other digests have other names. -/
theorem name_ne {text other : String} (apart : Sha256.hex text ≠ Sha256.hex other)
    (file file' : CacheFile) : file.name text ≠ file'.name other :=
  fun same => apart (name_inj same).2

/-- How many bytes the longest name of a file takes. -/
def longest : Nat := 73

/-- The name of a file takes more bytes than two dots, and no more than the longest. -/
theorem utf8ByteSize_name (file : CacheFile) (text : String) :
    2 < (file.name text).utf8ByteSize ∧ (file.name text).utf8ByteSize ≤ longest := by
  -- The digest takes 64 bytes, and the longest of the suffixes 9 more.
  rw [name, String.utf8ByteSize_append, Sha256.utf8ByteSize_hex]
  cases file <;> decide

/-- There is no zero character in the name of a file. -/
theorem name_visible (file : CacheFile) (text : String) : '\x00' ∉ (file.name text).toList := by
  rw [name, String.toList_append, List.mem_append]
  -- Neither a digit nor a letter of a suffix is the zero character.
  rintro (digit | behind)
  · exact (Sha256.hex_visible digit).2 rfl
  · cases file <;> exact absurd behind (by decide)

/-- The name of a file leads down, since steps that do not are of two bytes at most. -/
theorem isName (file : CacheFile) (text : String) : IsName (file.name text) := by
  have long := (file.utf8ByteSize_name text).1
  -- A name is longer than any step that stays in place or leads up.
  have differs : ∀ step : String, step.utf8ByteSize ≤ 2 → file.name text ≠ step := by
    intro step small same
    rw [same] at long
    exact absurd long (Nat.not_lt.mpr small)
  refine ⟨?_, differs ".." (by decide)⟩
  have notEmpty := differs "" (by decide)
  have notDot := differs "." (by decide)
  simp [staysPut, notEmpty, notDot]

end CacheFile

/-- A path without fault that is short enough may be followed by the name of a file. -/
theorem Path.takes_name {path : Path} (accepted : path.fault? = none) {file : CacheFile}
    {text : String} (room : path.size + ((file.name text).utf8ByteSize + 1) ≤ sizeLimit) :
    path.Takes (file.name text) := by
  have isName := file.isName text
  have short : CacheFile.longest ≤ nameLimit := by decide
  refine ⟨isName.moves, isName.down, Nat.le_trans (file.utf8ByteSize_name text).2 short, ?_⟩
  have visible := file.name_visible text
  -- With room for the name, the whole path is short enough.
  have fits : ¬sizeLimit < Path.size (path ++ [file.name text]) := by
    rw [size_append, size_name]
    omega
  -- The name brings no zero character either, so that there is still no fault.
  rw [fault?] at accepted ⊢
  split at accepted
  · cases accepted
  · next clear =>
    rw [List.any_append, Bool.eq_false_iff.mpr clear]
    simp [visible, fits]

/-- Whether no directory stands under any name. -/
def FilesOnly (nodes : String → Option Node) : Prop :=
  ∀ name, ∀ old ∈ nodes name, ¬old.IsDirectory

/-- There are only files where a name has got one, or nothing. -/
theorem FilesOnly.update {nodes : String → Option Node} {node : Option Node}
    (only : FilesOnly nodes) (name : String) (file : ∀ old ∈ node, ¬old.IsDirectory) :
    FilesOnly (Function.update nodes name node) := by
  intro other
  -- Under the name itself is the new node, and elsewhere what was there.
  rw [Function.update_apply]
  split
  · exact file
  · exact only other

namespace ResultCache

/-- The entry of a text is the file of its name in the directory. -/
theorem entryPath_eq (cache : ResultCache) (text : String) :
    cache.entryPath text = pathOf cache.directory ++ [CacheFile.entry.name text] := by
  rw [CacheFile.entry_name]
  rfl

/-- Whether the directory of a cache, at the end of a trail, has these nodes and only files among
them, and has room for the names of all files, while nothing is in the way of calls on it. -/
structure Keeps (cache : ResultCache) (disk : Disk) (trail : List String)
    (nodes : String → Option Node) : Prop where
  grants : disk.Grants (pathOf cache.directory) trail nodes
  only : FilesOnly nodes
  room : (pathOf cache.directory).size + (CacheFile.longest + 1) ≤ Path.sizeLimit

variable {cache : ResultCache} {disk : Disk} {trail : List String} {nodes : String → Option Node}

/-- The directory takes the name of each file. -/
theorem Keeps.takes (keeps : cache.Keeps disk trail nodes) (file : CacheFile) (text : String) :
    (pathOf cache.directory).Takes (file.name text) := by
  obtain ⟨made, entries, located, -⟩ := keeps.grants.holds
  have room := keeps.room
  have short := (file.utf8ByteSize_name text).2
  -- That the directory was located shows that its path is without fault.
  exact Path.takes_name (Disk.walk_of_locate located).1 (by omega)

/-- A file that is written is there. -/
theorem Keeps.write (keeps : cache.Keeps disk trail nodes) (file : CacheFile) (text : String)
    (content : List UInt8) (now : Int) :
    ∃ after, disk.writeBytes (cache.pathTo (file.name text)) content now = (.ok (), after) ∧
      cache.Keeps after trail
        (Function.update nodes (file.name text) (some (.file content now))) := by
  obtain ⟨after, wrote, grants⟩ :=
    keeps.grants.write (keeps.takes file text) (keeps.only _) content now
  refine ⟨after, wrote, grants, keeps.only.update _ ?_, keeps.room⟩
  simp [Node.IsDirectory]

/-- A file that is discarded is gone, if it was there at all. -/
theorem grants_of_discard (grants : disk.Grants (pathOf cache.directory) trail nodes)
    {file : CacheFile} {text : String}
    (takes : (pathOf cache.directory).Takes (file.name text))
    (free : ∀ old ∈ nodes (file.name text), ¬old.IsDirectory) :
    (discard (cache.pathTo (file.name text)) disk).Grants (pathOf cache.directory) trail
      (Function.update nodes (file.name text) none) := by
  unfold discard pathTo
  cases found : nodes (file.name text) with
  -- What is missing is not removed, and to take nothing away changes nothing.
  | none =>
    have same : Function.update nodes (file.name text) none = nodes := by
      rw [← found, Function.update_eq_self]
    rw [(grants.missing takes found).1, same]
    exact grants
  | some old =>
    cases old with
    | directory made entries => exact absurd trivial (free _ found)
    | file content written =>
      obtain ⟨after, removed, left⟩ := grants.remove takes found
      rw [removed]
      exact left

/-- There are only files left when a file is discarded. -/
theorem Keeps.discard (keeps : cache.Keeps disk trail nodes) (file : CacheFile) (text : String) :
    cache.Keeps (discard (cache.pathTo (file.name text)) disk) trail
      (Function.update nodes (file.name text) none) :=
  ⟨grants_of_discard keeps.grants (keeps.takes file text) (keeps.only _),
    keeps.only.update _ (by simp), keeps.room⟩

/-- What a directory has once an entry is stored: its file, without a draft or a marker. -/
def stocked (nodes : String → Option Node) (text : String) (node : Node) : String → Option Node :=
  Function.update (Function.update (Function.update nodes (CacheFile.draft.name text) none)
    (CacheFile.entry.name text) (some node)) (CacheFile.marker.name text) none

section

variable {text : String} (grants : disk.Grants (pathOf cache.directory) trail nodes)
  (takes : (pathOf cache.directory).Takes (CacheFile.entry.name text))

include grants takes

/-- Where neither the entry of a text nor its draft is a directory, an entry is stored: it is in its
place before its marker is dropped. -/
theorem store_of_grants (draftTakes : (pathOf cache.directory).Takes (CacheFile.draft.name text))
    (free : ∀ old ∈ nodes (CacheFile.entry.name text), ¬old.IsDirectory)
    (draftFree : ∀ old ∈ nodes (CacheFile.draft.name text), ¬old.IsDirectory) (now : Int)
    (entry : CacheEntry) :
    ∃ published, cache.store now text entry disk = (.ok (), cache.dropMarker text published) ∧
      published.Grants (pathOf cache.directory) trail
        (Function.update (Function.update nodes (CacheFile.draft.name text) none)
          (CacheFile.entry.name text) (some (.file (textBytes entry.render) now))) := by
  -- The directory is there, so that the draft is written at once.
  have ensured : cache.ensure now disk = (.ok (), disk) := by
    rw [ensure, grants.createDirectories]
    rfl
  have moved : CacheFile.entry.name text ≠ CacheFile.draft.name text :=
    CacheFile.name_ne_of_ne (by decide)
  obtain ⟨drafted, wrote, kept⟩ :=
    grants.write draftTakes draftFree (textBytes entry.render) now
  -- The draft has another name than the entry, so that it is not in the way of the move.
  have stillFree : ∀ old ∈ Function.update nodes (CacheFile.draft.name text)
      (some (.file (textBytes entry.render) now)) (CacheFile.entry.name text),
        ¬old.IsDirectory := by
    rwa [Function.update_of_ne moved]
  obtain ⟨published, renamed, kept⟩ :=
    kept.rename draftTakes takes moved (Function.update_self ..) stillFree
  -- The draft that was written is moved away again, as if there had been none.
  rw [Function.update_idem] at kept
  refine ⟨published, ?_, kept⟩
  rw [CacheFile.entry_name] at renamed
  have written : cache.writeDraft now text entry disk = (.ok (), drafted) := wrote
  have placed : cache.publish text drafted = .ok published := renamed
  rw [ResultCache.store, ensured]
  dsimp only
  rw [written]
  dsimp only
  rw [placed]

variable {entry given : CacheEntry} {stored : Int} (now : Int)
  (file : nodes (CacheFile.entry.name text) = some (.file (textBytes entry.render) stored))

include file

/-- What a lookup of a text with an entry comes down to: how old its file is, and whether it is
being renewed. -/
theorem lookup_stocked : cache.lookup now text disk =
    if (cache.ttl.toNanos : Int) < now - stored ∧ cache.isRenewed now text disk = false then
      match disk.writeBytes (cache.markerPath text) [] now with
      | (.ok _, disk) => (.ok .refresh, disk)
      | (.error fault, disk) => (.error fault.failure, disk)
    else ((cache.load text disk).map .hit, disk) := by
  have found := grants.stat takes
  rw [file, CacheFile.entry_name] at found
  -- Ages are never negative, which makes no difference since the time to live is not either.
  have old : cache.ttl.toNanos < (now - stored).toNat ↔
      (cache.ttl.toNanos : Int) < now - stored := by
    omega
  unfold ResultCache.lookup entryPath pathTo
  rw [found]
  dsimp only [Option.elim, Node.age]
  exact if_congr (and_congr old (by rw [Bool.not_eq_true'])) rfl rfl

/-- An entry that is fresh, or is being renewed, is given out as its file gives it back. -/
theorem lookup_hit (restored : CacheEntry.parse? entry.render = some given)
    (served : now - stored ≤ cache.ttl.toNanos ∨ cache.isRenewed now text disk = true) :
    cache.lookup now text disk = (.ok (.hit given), disk) := by
  have content := grants.readBytes takes file
  -- The bytes of the file are read as the text that was written.
  have loaded : cache.load text disk = .ok given := by
    rw [CacheFile.entry_name] at content
    unfold load entryPath pathTo
    rw [content]
    simp [CacheEntry.ofBytes?_textBytes, restored]
  rw [lookup_stocked grants takes now file, if_neg, loaded]
  · rfl
  · -- It would have to be stale and not being renewed for any other answer.
    rintro ⟨stale, idle⟩
    rcases served with fresh | renewed
    · omega
    · exact absurd (renewed.symm.trans idle) (by decide)

end

/-- An entry that is stored is in its place. -/
theorem Keeps.store (keeps : cache.Keeps disk trail nodes) (now : Int) (text : String)
    (entry : CacheEntry) :
    ∃ after, cache.store now text entry disk = (.ok (), after) ∧
      cache.Keeps after trail (stocked nodes text (.file (textBytes entry.render) now)) := by
  obtain ⟨published, stored, grants⟩ := store_of_grants keeps.grants (keeps.takes .entry text)
    (keeps.takes .draft text) (keeps.only _) (keeps.only _) now entry
  -- The marker is dropped last, and only files are touched on the way.
  have kept : cache.Keeps published trail _ := ⟨grants, ?_, keeps.room⟩
  · exact ⟨_, stored, kept.discard .marker text⟩
  · exact (keeps.only.update _ (by simp)).update _ (by simp [Node.IsDirectory])

/-- A text without a file of its own is not found. -/
theorem Keeps.lookup_missing (keeps : cache.Keeps disk trail nodes) (now : Int) {text : String}
    (missing : nodes (CacheFile.entry.name text) = none) :
    cache.lookup now text disk = (.ok .miss, disk) := by
  have found := keeps.grants.stat (keeps.takes .entry text)
  rw [missing, CacheFile.entry_name] at found
  unfold ResultCache.lookup entryPath pathTo
  rw [found]
  rfl

/-- An entry is being renewed if its marker, which was left when it was last given out for renewal,
is less than a minute old. -/
theorem Keeps.isRenewed (keeps : cache.Keeps disk trail nodes) (now : Int) {text : String}
    {left? : Option Int} (marker : nodes (CacheFile.marker.name text) = left?.map (.file [])) :
    cache.isRenewed now text disk = left?.any fun left => now - left < 60 * nanosPerSecond := by
  have found := keeps.grants.stat (keeps.takes .marker text)
  have path : cache.markerPath text = pathOf cache.directory ++ [CacheFile.marker.name text] := rfl
  rw [ResultCache.isRenewed, path, found, marker]
  cases left? with
  | none => rfl
  | some left =>
    -- A marker of a time to come is young, as it is on the line of times.
    have young : (now - left).toNat < markerWindow ↔ now - left < 60 * nanosPerSecond := by
      unfold markerWindow nanosPerSecond
      omega
    simp [Node.age, young]

/-- A stale entry that is not being renewed is given out for renewal, and gets a marker. -/
theorem Keeps.lookup_refresh {text : String} {entry : CacheEntry} {stored : Int}
    (keeps : cache.Keeps disk trail nodes) (now : Int)
    (file : nodes (CacheFile.entry.name text) = some (.file (textBytes entry.render) stored))
    (stale : (cache.ttl.toNanos : Int) < now - stored)
    (idle : cache.isRenewed now text disk = false) :
    ∃ after, cache.lookup now text disk = (.ok .refresh, after) ∧
      cache.Keeps after trail
        (Function.update nodes (CacheFile.marker.name text) (some (.file [] now))) := by
  -- The marker is a file without content, and its time is that of the lookup.
  obtain ⟨after, wrote, kept⟩ := keeps.write .marker text [] now
  have marked : disk.writeBytes (cache.markerPath text) [] now = (.ok (), after) := wrote
  refine ⟨after, ?_, kept⟩
  rw [lookup_stocked keeps.grants (keeps.takes .entry text) now file, if_pos ⟨stale, idle⟩, marked]

end ResultCache

end Querent
