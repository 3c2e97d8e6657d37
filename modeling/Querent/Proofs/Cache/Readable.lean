import Querent.Proofs.Cache.History
import Querent.Proofs.Cache.Replacement
import Querent.Proofs.Json.Nesting

/-! What is stored is found again exactly if its text can be read. -/

namespace Querent

namespace Value

/-- Levels that a JSON value may nest in an entry: the entry, its list of rows, the row and the kind
of the value take one each. -/
def readableDepth : Nat := Document.maxDepth - 4

/-- Whether the stored form of a value can be read: a float is finite, and a JSON value does not
nest too deeply. -/
def IsReadable : Value → Prop
  | float number => number.isFinite = true
  | json document => document.depth ≤ readableDepth
  | _ => True

/-- A float that is not finite is written as null, which is no number. -/
theorem isSome_float?_document (number : Binary64) :
    (Json.ofFloat number).document.float?.isSome = true ↔ number.isFinite = true := by
  -- A number that is finite is written in digits, and is read from them.
  cases finite : number.isFinite with
  | false => simp [Json.ofFloat, finite, Json.document, Document.float?]
  | true =>
    simp [Json.ofFloat, finite, Json.document, Document.float?,
      Numeral.isSome_quantity?_ofFloat finite]

/-- A value is read from its stored form exactly if it is readable. -/
theorem isSome_decode?_encode (value : Value) :
    (decode? (Document.maxDepth - 3) value.encode.document).isSome = true ↔ value.IsReadable := by
  -- Values of the other kinds are stored exactly, whatever they are.
  have exact : value.IsStorable →
      (decode? (Document.maxDepth - 3) value.encode.document).isSome = true := by
    intro storable
    rw [decode?_encode storable (by decide)]
    rfl
  cases value with
  | float number =>
    rw [encode, decode?, variant?_tagged]
    simp [ofTagged?, IsReadable, isSome_float?_document]
  | json document =>
    -- The kind takes the last of the four levels.
    rw [encode, decode?, variant?_tagged]
    simp only [Option.bind_some, Option.bind_eq_bind, ofTagged?, Option.isSome_map,
      Json.isSome_toJson?_document]
    rfl
  | _ => simp [IsReadable, exact trivial]

end Value

namespace CacheEntry

/-- Whether every value of an entry can be read from its stored form. -/
def IsReadable (entry : CacheEntry) : Prop :=
  ∀ row ∈ entry.values, ∀ value ∈ row, value.IsReadable

/-- The rows of an entry are read from their stored form exactly if all values are readable. -/
theorem isSome_rowsRead? (entry : CacheEntry) :
    entry.rowsRead?.isSome = true ↔ entry.IsReadable := by
  simp only [rowsRead?, Document.isSome_list?_document, Value.isSome_decode?_encode, IsReadable]

/-- The text of an entry with readable values is read as the entry, with what is read of the values.
-/
theorem exists_parse?_render {entry : CacheEntry} (readable : entry.IsReadable) :
    ∃ values, parse? entry.render = some { entry with values } := by
  -- All other members are there whatever the values are.
  obtain ⟨values, given⟩ := Option.isSome_iff_exists.mp (entry.isSome_rowsRead?.mpr readable)
  refine ⟨values, ?_⟩
  rw [parse?, render, Json.parse_render, Option.bind_some, decode?_document, given,
    Option.map_some]

/-- The text of an entry is refused if one of its values is not readable. -/
theorem parse?_render_eq_none {entry : CacheEntry} (refused : ¬entry.IsReadable) :
    parse? entry.render = none := by
  have rows := Option.not_isSome_iff_eq_none.mp (mt entry.isSome_rowsRead?.mp refused)
  rw [parse?, render, Json.parse_render, Option.bind_some, decode?_document, rows, Option.map_none]

end CacheEntry

namespace QueryResult

/-- Whether every value of a result can be read from its stored form. -/
def IsReadable : QueryResult → Prop
  | affected _ _ => True
  | rows set => ∀ row ∈ set.values, ∀ value ∈ row, value.IsReadable

/-- An entry is readable exactly if the result is that it is made of. -/
theorem isReadable_ofResult (made : Int) (result : QueryResult) :
    (CacheEntry.ofResult made result).IsReadable ↔ result.IsReadable := by
  cases result with
  | affected count insertId => simp [CacheEntry.ofResult, CacheEntry.IsReadable, IsReadable]
  | rows set => rfl

end QueryResult

/-- Arrays, one in the other, around null. -/
def Json.nested : Nat → Json
  | 0 => .null
  | levels + 1 => .array [nested levels]

/-- The arrays are as many levels. -/
theorem Json.depth_nested (levels : Nat) : (nested levels).depth = levels := by
  -- Each array adds one level to the one inside of it.
  induction levels with
  | zero => rfl
  | succ levels ih => rw [nested, depth, depthOfItems, depthOfItems, ih, Nat.max_zero]

namespace ResultCache

variable {cache : ResultCache} {text : String} {stored : Int}

/-- Once an entry is stored, its text is in the file of its place, written at that time. -/
theorem find_entry_of_store {entry : CacheEntry} {disk after : Disk}
    (done : cache.store stored text entry disk = (.ok (), after)) :
    after.find (cache.entryPath text) = .ok (.file (textBytes entry.render) stored) := by
  unfold store at done
  split at done
  · cases done
  · split at done
    · cases done
    · next made drafted wrote =>
      split at done
      · cases done
      · next published renamed =>
        cases done
        obtain ⟨trail, nodes, -, kept⟩ := Disk.holds_of_write (CacheFile.draft.isName text) wrote
        -- The draft takes the place of the entry, which is another one.
        have moved : CacheFile.entry.name text ≠ CacheFile.draft.name text :=
          CacheFile.name_ne_of_ne (by decide)
        rw [publish, entryPath_eq] at renamed
        have takes := Disk.takes_of_rename (CacheFile.entry.isName text) renamed
        have placed := kept.after_rename (CacheFile.draft.isName text) (CacheFile.entry.isName text)
          moved (Function.update_self ..) renamed
        -- Only the marker is dropped then.
        obtain ⟨nodes', behind, others⟩ := holds_of_dropMarker placed text
        rw [entryPath_eq, behind.find takes, others _ (CacheFile.name_ne_of_ne (by decide)),
          Function.update_self]
        rfl

/-- A fresh file of an entry is read if the system lets it be: it is given out, or its bytes are
refused. -/
theorem lookup_of_fresh {content : List UInt8} {disk : Disk} {now : Int}
    (found : disk.find (cache.entryPath text) = .ok (.file content stored))
    (seen : disk.allow .stat (cache.entryPath text) = .ok ())
    (opened : disk.allow .read (cache.entryPath text) = .ok ())
    (fresh : now - stored ≤ cache.ttl.toNanos) :
    cache.lookup now text disk =
      (match CacheEntry.ofBytes? content with
        | none => .error .json
        | some entry => .ok (.hit entry), disk) := by
  have young : ¬cache.ttl.toNanos < (Node.file content stored).age now := by
    unfold Node.age
    dsimp only
    omega
  have said := Disk.stat_eq_ok_iff.mpr ⟨Disk.allow_eq_ok_iff.mp seen, found⟩
  have read := Disk.readBytes_eq_ok_iff.mpr ⟨Disk.allow_eq_ok_iff.mp opened, stored, found⟩
  unfold lookup load
  rw [said, read]
  dsimp only
  rw [if_neg fun stale => young stale.1]
  cases CacheEntry.ofBytes? content <;> rfl

/-- A directory that is ready takes every entry, and its file can be read. -/
theorem Ready.store {disk : Disk} (ready : cache.Ready disk) (now : Int) (text : String)
    (entry : CacheEntry) :
    ∃ after, cache.store now text entry disk = (.ok (), after) ∧
      ∀ call, after.allow call (cache.entryPath text) = .ok () := by
  obtain ⟨trail, keeps⟩ := ready.keeps
  obtain ⟨after, done, kept⟩ := keeps.store now text entry
  exact ⟨after, done, fun call => kept.grants.allow call (Sha256.hex text)⟩

section

variable {entry : CacheEntry} {disk after later : Disk} {now : Int}
  (done : cache.store stored text entry disk = (.ok (), after))
  (kept : later.find (cache.entryPath text) = after.find (cache.entryPath text))
  (seen : later.allow .stat (cache.entryPath text) = .ok ())
  (opened : later.allow .read (cache.entryPath text) = .ok ())
  (fresh : now - stored ≤ cache.ttl.toNanos)

include done kept seen opened fresh

/-- What is stored is given out as long as it is fresh, if it is readable. -/
theorem lookup_of_readable (readable : entry.IsReadable) :
    ∃ values, cache.lookup now text later = (.ok (.hit { entry with values }), later) := by
  obtain ⟨values, parsed⟩ := CacheEntry.exists_parse?_render readable
  refine ⟨values, ?_⟩
  rw [lookup_of_fresh (kept.trans (find_entry_of_store done)) seen opened fresh,
    CacheEntry.ofBytes?_textBytes, parsed]

/-- What is stored is refused as long as it is fresh, if it is not readable. -/
theorem lookup_of_not_readable (refused : ¬entry.IsReadable) :
    cache.lookup now text later = (.error .json, later) := by
  rw [lookup_of_fresh (kept.trans (find_entry_of_store done)) seen opened fresh,
    CacheEntry.ofBytes?_textBytes, CacheEntry.parse?_render_eq_none refused]

end

/-- A result that is stored without failure is found by every lookup within the time to live, as
long as its file stays in place and can be read, exactly if all its floats are finite and none of
its JSON values nests more than 123 levels; the entry is then the one that was stored, with what is
read of the values. If one of them is not like that, the text that was stored is refused. -/
theorem hit_iff_of_store {result : QueryResult} {made now : Int} {disk after later : Disk}
    (done : cache.store stored text (.ofResult made result) disk = (.ok (), after))
    (kept : later.find (cache.entryPath text) = after.find (cache.entryPath text))
    (seen : later.allow .stat (cache.entryPath text) = .ok ())
    (opened : later.allow .read (cache.entryPath text) = .ok ())
    (fresh : now - stored ≤ cache.ttl.toNanos) :
    ((∃ values, cache.lookup now text later =
        (.ok (.hit { CacheEntry.ofResult made result with values }), later)) ↔
      result.IsReadable) ∧
    (¬result.IsReadable → cache.lookup now text later = (.error .json, later)) := by
  -- The second half comes first, since it rules out a hit as well.
  have refused : ¬result.IsReadable → cache.lookup now text later = (.error .json, later) := by
    intro unreadable
    apply lookup_of_not_readable done kept seen opened fresh
    rwa [QueryResult.isReadable_ofResult]
  refine ⟨⟨?_, ?_⟩, refused⟩
  · -- An entry that is given out has not been refused.
    intro found
    by_contra unreadable
    obtain ⟨values, given⟩ := found
    rw [refused unreadable] at given
    cases given
  · intro readable
    apply lookup_of_readable done kept seen opened fresh
    rwa [QueryResult.isReadable_ofResult]

/-- The greatest float is found again, beside a JSON value of 123 levels. -/
theorem hit_greatest_and_deepest :
    let disk : Disk := { root := .directory 0 ⟨[("c", .directory 0 .empty)]⟩ }
    let cache : ResultCache := ⟨"/c", .ofSeconds 1⟩
    let result : QueryResult := .rows ⟨[⟨"x", "REAL", none⟩, ⟨"j", "TEXT", none⟩],
      [[.float ⟨0x7fefffffffffffff⟩, .json (.nested 123)]]⟩
    ∃ after, cache.store 0 "q" (.ofResult 0 result) disk = (.ok (), after) ∧
      (∀ call, after.allow call (cache.entryPath "q") = .ok ()) ∧
      7 - 0 ≤ (cache.ttl.toNanos : Int) ∧ result.IsReadable ∧
      ∃ values, cache.lookup 7 "q" after =
        (.ok (.hit { CacheEntry.ofResult 0 result with values }), after) := by
  intro disk cache result
  have bare : disk.find (pathOf "/c") = .ok (.directory 0 .empty) := by rfl
  have ready : cache.Ready disk := ⟨⟨0, bare⟩, by decide, Hindrances.spare_free _⟩
  obtain ⟨after, done, allowed⟩ := ready.store 0 "q" (.ofResult 0 result)
  have fresh : (7 : Int) - 0 ≤ cache.ttl.toNanos := by decide
  have readable : result.IsReadable := by
    intro row mem value inside
    obtain rfl := List.mem_singleton.mp mem
    rcases List.mem_pair.mp inside with rfl | rfl
    · exact (by decide : Binary64.isFinite ⟨0x7fefffffffffffff⟩ = true)
    · exact Nat.le_of_eq (Json.depth_nested 123)
  exact ⟨after, done, allowed, fresh, readable,
    (hit_iff_of_store done rfl (allowed _) (allowed _) fresh).1.mpr readable⟩

/-- A float that is no number is stored and then refused, and so is a JSON value of 124 levels,
which is read where it stands alone. -/
theorem refused_nan_and_deeper :
    let disk : Disk := { root := .directory 0 ⟨[("c", .directory 0 .empty)]⟩ }
    let cache : ResultCache := ⟨"/c", .ofSeconds 1⟩
    ((Document.parse (Json.nested 124).render).bind
        (Document.toJson? Document.maxDepth)).isSome = true ∧
      ∀ value ∈ [Value.float ⟨0x7ff8000000000000⟩, .json (.nested 124)], ∃ after,
        cache.store 0 "q" (.ofResult 0 (.rows ⟨[⟨"v", "", none⟩], [[value]]⟩)) disk =
          (.ok (), after) ∧ cache.lookup 7 "q" after = (.error .json, after) := by
  intro disk cache
  have bare : disk.find (pathOf "/c") = .ok (.directory 0 .empty) := by rfl
  have ready : cache.Ready disk := ⟨⟨0, bare⟩, by decide, Hindrances.spare_free _⟩
  refine ⟨?_, ?_⟩
  · rw [Json.parse_render, Option.bind_some, Json.isSome_toJson?_document, Json.depth_nested]
    decide
  · intro value mem
    obtain ⟨after, done, allowed⟩ :=
      ready.store 0 "q" (.ofResult 0 (.rows ⟨[⟨"v", "", none⟩], [[value]]⟩))
    refine ⟨after, done, lookup_of_not_readable done rfl (allowed _) (allowed _) (by decide) ?_⟩
    intro readable
    have single : value.IsReadable :=
      readable [value] (List.mem_singleton.mpr rfl) value (List.mem_singleton.mpr rfl)
    rcases List.mem_pair.mp mem with rfl | rfl
    · exact absurd single (by decide : ¬Binary64.isFinite ⟨0x7ff8000000000000⟩ = true)
    · rw [Value.IsReadable, Json.depth_nested] at single
      exact absurd single (by decide)

end ResultCache

end Querent
