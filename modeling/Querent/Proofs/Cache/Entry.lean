import Querent.Cache.Entry
import Querent.Proofs.Json.Decoder
import Querent.Proofs.Text.Utf8
import Querent.Proofs.Time.Reader

/-! What the text that stores a result gives back of it. -/

namespace Querent

/-- Levels that a document in a result may nest, which is fewer than a reader of the entry allows.
-/
def Value.storedDepth : Nat := 100

namespace Value

/-- Whether a value holds no float, and a document in it has distinct names and nests no deeper than
any reader accepts. -/
def IsStorable : Value → Prop
  | float _ => False
  | json document => document.Storable storedDepth
  | _ => True

/-- Whether a value is in no leap second that follows another second than 59. -/
def IsRegular : Value → Prop
  | timestamp time => time.moment.Regular
  | _ => True

/-- The value that the stored form of a storable value tells. -/
def settled : Value → Value
  | timestamp time => timestamp time.settled
  | value => value

/-- A value is told by its own stored form exactly if it is regular. -/
theorem settled_eq_self_iff {value : Value} : value.settled = value ↔ value.IsRegular := by
  -- Only a timestamp can tell another one.
  cases value with
  | timestamp time => rw [settled, timestamp.injEq, Timestamp.settled_eq_self_iff, IsRegular]
  | _ => exact iff_of_true rfl trivial

/-- A document with one member is the variant of that name. -/
theorem variant?_tagged (kind : String) (content : Json) :
    (tagged kind content).document.variant? = some (kind, some content.document) := by
  simp only [tagged, Json.document, Json.memberDocuments, Document.variant?]

/-- From the stored form of a value the one is read that it tells. -/
theorem decode?_encode {levels : Nat} {value : Value} (storable : value.IsStorable)
    (enough : storedDepth ≤ levels - 1) :
    decode? levels value.encode.document = some value.settled := by
  -- The kind is the name of the only member, and each kind reads the content that it wrote.
  cases value with
  | null => simp [encode, Json.document, decode?, Document.variant?, settled]
  | int number =>
    rw [encode, decode?, variant?_tagged]
    simp [ofTagged?, Document.int64?_document, settled]
  | float number => exact storable.elim
  | text content =>
    rw [encode, decode?, variant?_tagged]
    simp [ofTagged?, Document.text?_document, settled]
  | bool flag =>
    rw [encode, decode?, variant?_tagged]
    simp [ofTagged?, Document.bool?_document, settled]
  | timestamp time =>
    rw [encode, decode?, variant?_tagged]
    simp [ofTagged?, Document.text?_document, Timestamp.parse?_isoText, settled]
  | json document =>
    -- One level of what the reader accepts is used up by the member around the document.
    have read := Document.toJson?_document (Json.Storable.mono storable enough)
    rw [encode, decode?, variant?_tagged]
    simp [ofTagged?, read, settled]
  | blob bytes =>
    have read := Document.list?_document fun byte (_ : byte ∈ bytes) => Document.byte?_document byte
    rw [encode, decode?, variant?_tagged]
    simp [ofTagged?, read, settled]

end Value

/-- A column is read from its stored form. -/
theorem Column.decode?_encode (column : Column) :
    decode? column.encode.document = some column := by
  have name := Document.text?_document column.name
  have nativeType := Document.text?_document column.nativeType
  have size := Document.nullable?_int64?_document column.size
  -- The members have different names, and each is found under its own.
  rw [encode, Json.document]
  simp only [decode?, Json.memberDocuments]
  simp [Document.members?, Document.pairs?, Members.required?, Members.optional?, Members.find?,
    name, nativeType, size]

namespace CacheEntry

/-- Whether every value of an entry is stored exactly. -/
def IsStorable (entry : CacheEntry) : Prop :=
  ∀ row ∈ entry.values, ∀ value ∈ row, value.IsStorable

/-- What is read of the rows of an entry from their stored form. -/
def rowsRead? (entry : CacheEntry) : Option (List (List Value)) :=
  Document.list? (Document.list? (Value.decode? (Document.maxDepth - 3)))
    (Json.array (entry.values.map fun row => .array (row.map Value.encode))).document

/-- From the stored form of rows those are read that it tells, with every value in its place. -/
theorem rowsRead?_eq {entry : CacheEntry} (storable : entry.IsStorable) :
    entry.rowsRead? = some (entry.values.map (·.map Value.settled)) := by
  -- Three levels are around a value, and one more is its kind.
  apply Document.list?_document_eq_map
  intro row mem
  apply Document.list?_document_eq_map
  intro value inside
  exact Value.decode?_encode (storable row mem value inside) (by decide)

/-- An entry is read from its stored form as far as its rows are: all other members are there. -/
theorem decode?_document (entry : CacheEntry) :
    decode? entry.encode.document = entry.rowsRead?.map fun values => { entry with values } := by
  have columns : Document.list? Column.decode?
      (Json.array (entry.columns.map Column.encode)).document = some entry.columns :=
    Document.list?_document fun column _ => column.decode?_encode
  have size := Document.uint64?_document entry.size
  have count := Document.uint64?_document entry.count
  have insertId := Document.nullable?_int64?_document entry.insertId
  have mutating := Document.bool?_document entry.mutating
  have storedAt := Document.int64?_document entry.storedAt
  unfold rowsRead?
  generalize rows : Json.array (entry.values.map fun row => .array (row.map Value.encode)) = stored
  -- As in a column, each member is found under its own name.
  rw [encode, rows, Json.document]
  simp only [decode?, Json.memberDocuments]
  cases given : Document.list? (Document.list? (Value.decode? (Document.maxDepth - 3)))
      stored.document <;>
    simp [Document.members?, Document.pairs?, Members.required?, Members.withDefault?,
      Members.find?, columns, given, size, count, insertId, mutating, storedAt]

/-- The entry that the stored form of an entry with storable values tells. -/
def settled (entry : CacheEntry) : CacheEntry :=
  { entry with values := entry.values.map (·.map Value.settled) }

/-- From the text of the file of an entry the one is read that it tells. -/
theorem parse?_render {entry : CacheEntry} (storable : entry.IsStorable) :
    parse? entry.render = some entry.settled := by
  rw [parse?, render, Json.parse_render, Option.bind_some, decode?_document, rowsRead?_eq storable]
  rfl

/-- The bytes of a text store the entry that the text stores. -/
theorem ofBytes?_textBytes (text : String) : ofBytes? (textBytes text) = parse? text := by
  rw [ofBytes?, Document.ofBytes?, decodeBytes_textBytes, parse?]

/-- An entry gives back the result that it was made of. -/
theorem toResult_ofResult (now : Int) (result : QueryResult) :
    (ofResult now result).toResult = result := by
  -- The mark of a change tells which form the result has.
  cases result with
  | affected count insertId => rfl
  | rows set => rfl

end CacheEntry

/-- Rows are told by their own stored form exactly if every value in them is regular. -/
theorem map_settled_eq_self_iff {rows : List (List Value)} :
    rows.map (·.map Value.settled) = rows ↔ ∀ row ∈ rows, ∀ value ∈ row, value.IsRegular := by
  -- First for one row, and then for the list of rows in the same way.
  have items : ∀ row : List Value, row.map Value.settled = row ↔
      ∀ value ∈ row, value.IsRegular := by
    intro row
    simp only [← Value.settled_eq_self_iff]
    rw [← List.map_inj_left, List.map_id']
  simp only [← items]
  rw [← List.map_inj_left, List.map_id']

namespace QueryResult

/-- Whether every value of a result is storable. -/
def IsStorable : QueryResult → Prop
  | affected _ _ => True
  | rows set => ∀ row ∈ set.values, ∀ value ∈ row, value.IsStorable

/-- Whether every value of a result is regular. -/
def IsRegular : QueryResult → Prop
  | affected _ _ => True
  | rows set => ∀ row ∈ set.values, ∀ value ∈ row, value.IsRegular

/-- The result that the stored form of a result with storable values tells. -/
def settled : QueryResult → QueryResult
  | rows set => rows { set with values := set.values.map (·.map Value.settled) }
  | result => result

/-- A result is told by its own stored form exactly if every value of it is regular. -/
theorem settled_eq_self_iff {result : QueryResult} :
    result.settled = result ↔ result.IsRegular := by
  cases result with
  | affected count insertId => exact iff_of_true rfl trivial
  | rows set =>
    obtain ⟨columns, values⟩ := set
    simp only [settled, rows.injEq, ResultSet.mk.injEq, true_and, map_settled_eq_self_iff,
      IsRegular]

/-- An entry holds the values of its result and no others. -/
theorem IsStorable.ofResult {result : QueryResult} (storable : result.IsStorable) (now : Int) :
    (CacheEntry.ofResult now result).IsStorable := by
  cases result with
  | affected count insertId =>
    intro row mem
    simp [CacheEntry.ofResult] at mem
  | rows set => exact storable

/-- The text that stores a result at any time gives back the result that it tells. -/
theorem restored_eq {result : QueryResult} (now : Int) (storable : result.IsStorable) :
    (CacheEntry.parse? (CacheEntry.ofResult now result).render).map CacheEntry.toResult =
      some result.settled := by
  -- What the entry tells is the entry of what the result tells.
  have told : (CacheEntry.ofResult now result).settled = .ofResult now result.settled := by
    cases result with
    | affected count insertId => rfl
    | rows set => simp [CacheEntry.settled, CacheEntry.ofResult, settled, ResultSet.size]
  rw [CacheEntry.parse?_render (storable.ofResult now), Option.map_some, told,
    CacheEntry.toResult_ofResult]

/-- The text that stores a result at any time gives back the result that it tells, and that is the
result itself exactly if no leap second in it follows another second than 59. -/
theorem restored_iff_isRegular (now : Int) (result : QueryResult) (storable : result.IsStorable) :
    let restored := (CacheEntry.parse? (CacheEntry.ofResult now result).render).map
      CacheEntry.toResult
    restored = some result.settled ∧ (restored = some result ↔ result.IsRegular) := by
  intro restored
  have told : restored = some result.settled := restored_eq now storable
  refine ⟨told, ?_⟩
  -- The result is what it tells exactly if it is regular.
  rw [told, Option.some.injEq, settled_eq_self_iff]

/-- Rows of different lengths with a leap second, bytes, and a document that lists the largest
integer under the later of two names. -/
theorem restored_ragged_rows :
    let leap : Timestamp := ⟨⟨-4, 12, 31, 23, 59, 59, 1500000000⟩, by decide⟩
    let document : Json := .object [("b", .array [.whole ⟨18446744073709551615, by decide⟩]),
      ("a", .null)]
    let result : QueryResult := .rows ⟨[⟨"at", "TEXT", none⟩, ⟨"n", "", some (-1)⟩],
      [[.timestamp leap, .blob [0, 255]], [], [.json document, .text "\"\n", .null]]⟩
    result.IsStorable ∧
      (CacheEntry.parse? (CacheEntry.ofResult (-1) result).render).map CacheEntry.toResult =
        some result := by
  intro leap document result
  have nested : document.Storable Value.storedDepth := by
    refine .object (by decide) ?_
    intro member mem
    rcases List.mem_pair.mp mem with rfl | rfl
    · refine .array ?_
      intro item inside
      rw [List.mem_singleton.mp inside]
      exact .whole _
    · exact .null
  have regular : leap.moment.Regular := by decide
  have facts : ∀ row ∈ [[Value.timestamp leap, .blob [0, 255]], [],
      [.json document, .text "\"\n", .null]], ∀ value ∈ row,
        value.IsStorable ∧ value.IsRegular := by
    intro row mem value inside
    simp only [List.mem_cons, List.not_mem_nil, or_false] at mem
    rcases mem with rfl | rfl | rfl
    · rcases List.mem_pair.mp inside with rfl | rfl
      · exact ⟨trivial, regular⟩
      · exact ⟨trivial, trivial⟩
    · exact absurd inside (List.not_mem_nil)
    · simp only [List.mem_cons, List.not_mem_nil, or_false] at inside
      rcases inside with rfl | rfl | rfl
      · exact ⟨nested, trivial⟩
      · exact ⟨trivial, trivial⟩
      · exact ⟨trivial, trivial⟩
  have storable : result.IsStorable := fun row mem value inside => (facts row mem value inside).1
  exact ⟨storable, (restored_iff_isRegular (-1) result storable).2.mpr
    fun row mem value inside => (facts row mem value inside).2⟩

/-- A leap second behind second 30 is given back as half of second 31. -/
theorem not_restored_of_leap_second :
    let late : Timestamp := ⟨⟨2024, 5, 1, 12, 30, 30, 1500000000⟩, by decide⟩
    let next : Timestamp := ⟨⟨2024, 5, 1, 12, 30, 31, 500000000⟩, by decide⟩
    let result : QueryResult := .rows ⟨[⟨"at", "TEXT", none⟩], [[.timestamp late]]⟩
    let restored := (CacheEntry.parse? (CacheEntry.ofResult 0 result).render).map
      CacheEntry.toResult
    result.IsStorable ∧ restored = some (.rows ⟨[⟨"at", "TEXT", none⟩], [[.timestamp next]]⟩) ∧
      restored ≠ some result := by
  intro late next result restored
  have irregular : ¬late.moment.Regular := by decide
  have nanosecond : late.moment.nanosecond - 1000000000 = next.moment.nanosecond := by decide
  have moment : late.moment.settled = next.moment := by
    rw [Moment.settled, if_neg irregular, nanosecond]
  have storable : result.IsStorable := by
    intro row mem value inside
    rw [List.mem_singleton.mp mem] at inside
    rw [List.mem_singleton.mp inside]
    trivial
  have told : restored = some result.settled := restored_eq 0 storable
  have time : late.settled = next := (Timestamp.mk.injEq ..).mpr moment
  have other : result.settled = .rows ⟨[⟨"at", "TEXT", none⟩], [[.timestamp next]]⟩ := by
    rw [← time]
    rfl
  refine ⟨storable, told.trans (congrArg some other), ?_⟩
  rw [told, ne_eq, Option.some.injEq, settled_eq_self_iff]
  exact fun regular => irregular (regular _ (List.mem_singleton_self _) _
    (List.mem_singleton_self _))

end QueryResult

end Querent
