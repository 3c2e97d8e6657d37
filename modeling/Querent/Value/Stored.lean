import Querent.Value.Basic
import Querent.Json.Decoder
import Querent.Time.Reader

/-! Values as stored data, which names the kind of each. -/

namespace Querent

namespace Value

/-- An object whose only member is named for the kind of a value. -/
def tagged (kind : String) (content : Json) : Json :=
  .object [(kind, content)]

/-- The stored form of a value. -/
def encode : Value → Json
  | null => .text "Null"
  | int number => tagged "Int" (.ofInt64 number)
  | float number => tagged "Float" (.ofFloat number)
  | text content => tagged "Text" (.text content)
  | bool flag => tagged "Bool" (.bool flag)
  | timestamp time => tagged "Timestamp" (.text time.isoText)
  | json document => tagged "JSON" document
  | blob bytes => tagged "Blob" (.array (bytes.map .ofByte))

/-- The value of a kind with given content. -/
def ofTagged? (levels : Nat) (kind : String) (content : Document) : Option Value :=
  match kind with
  | "Null" => match content with
    | .null => some null
    | _ => none
  | "Int" => content.int64?.map int
  | "Float" => content.float?.map float
  | "Text" => content.text?.map text
  | "Bool" => content.bool?.map bool
  | "Timestamp" => (content.text?.bind Timestamp.parse?).map timestamp
  | "JSON" => (content.toJson? levels).map json
  | "Blob" => (content.list? Document.byte?).map blob
  | _ => none

/-- The value that a document stores, where it may nest at most a given number of levels. -/
def decode? (levels : Nat) (document : Document) : Option Value := do
  match ← document.variant? with
  | ("Null", none) => some null
  | (_, none) => none
  | (kind, some content) => ofTagged? (levels - 1) kind content

/-- The value that a text stores. -/
def parse? (text : String) : Option Value :=
  (Document.parse text).bind (decode? Document.maxDepth)

end Value

end Querent
