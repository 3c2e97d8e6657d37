import Querent.Result.Set
import Querent.Time.Duration
import Querent.Value.Stored

/-! What is stored of a result. -/

namespace Querent

/-- A column as stored data. -/
def Column.encode (column : Column) : Json :=
  .object [("name", .text column.name), ("native_type", .text column.nativeType),
    ("size", .ofOption Json.ofInt64 column.size)]

/-- The column that a document stores. -/
def Column.decode? (document : Document) : Option Column := do
  let members ← document.members? .ignored ["name", "native_type", "size"]
  return {
    name := ← members.required? "name" Document.text?
    nativeType := ← members.required? "native_type" Document.text?
    size := ← members.optional? "size" Document.int64? }

/-- A stored result. -/
structure CacheEntry where
  columns : List Column
  values : List (List Value)
  /-- How many rows there are. -/
  size : UInt64
  /-- How many rows there are, or were affected. -/
  count : UInt64
  insertId : Option Int64
  /-- Whether the statement changed data. -/
  mutating : Bool
  /-- The second in which the entry was made. -/
  storedAt : Int64
deriving Repr

namespace CacheEntry

/-- The second of a time in nanoseconds. -/
def secondOf (now : Int) : Int64 :=
  Int64.ofInt (now / nanosPerSecond)

/-- The entry of a result. -/
def ofResult (now : Int) : QueryResult → CacheEntry
  | .rows set =>
    let size := UInt64.ofNat set.size
    ⟨set.columns, set.values, size, size, none, false, secondOf now⟩
  | .affected count insertId => ⟨[], [], 0, count, insertId, true, secondOf now⟩

/-- The result of an entry. -/
def toResult (entry : CacheEntry) : QueryResult :=
  if entry.mutating then .affected entry.count entry.insertId
  else .rows ⟨entry.columns, entry.values⟩

/-- An entry as stored data. -/
def encode (entry : CacheEntry) : Json :=
  .object [("col_info", .array (entry.columns.map Column.encode)),
    ("last_result", .array (entry.values.map fun row => .array (row.map Value.encode))),
    ("num_rows", .ofUInt64 entry.size), ("return_value", .ofUInt64 entry.count),
    ("insert_id", .ofOption Json.ofInt64 entry.insertId), ("mutating", .bool entry.mutating),
    ("stored_at", .ofInt64 entry.storedAt)]

/-- The entry that a document stores; the id and the mark of a change have defaults. -/
def decode? (document : Document) : Option CacheEntry := do
  let members ← document.members? .ignored
    ["col_info", "last_result", "num_rows", "return_value", "insert_id", "mutating", "stored_at"]
  return {
    columns := ← members.required? "col_info" (Document.list? Column.decode?)
    -- A value is inside of the entry, the list of rows and its row.
    values := ← members.required? "last_result"
      (Document.list? (Document.list? (Value.decode? (Document.maxDepth - 3))))
    size := ← members.required? "num_rows" Document.uint64?
    count := ← members.required? "return_value" Document.uint64?
    insertId := ← members.withDefault? "insert_id" none (Document.nullable? Document.int64?)
    mutating := ← members.withDefault? "mutating" false Document.bool?
    storedAt := ← members.required? "stored_at" Document.int64? }

/-- The text of an entry in a file. -/
def render (entry : CacheEntry) : String :=
  entry.encode.render

/-- The entry that a text stores. -/
def parse? (text : String) : Option CacheEntry :=
  (Document.parse text).bind decode?

/-- The entry that the bytes of a file store. -/
def ofBytes? (bytes : List UInt8) : Option CacheEntry :=
  (Document.ofBytes? bytes).bind decode?

end CacheEntry

end Querent
