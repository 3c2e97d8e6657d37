import Querent.Json.Printer
import Querent.Text.Search
import Querent.Text.Utf8
import Querent.Time.Timestamp

/-! Values of rows and parameters, the same for every backend. -/

namespace Querent

/-- A value that a row holds or a statement binds. -/
inductive Value where
  | null
  | int (number : Int64)
  | float (number : Binary64)
  | text (content : String)
  | bool (flag : Bool)
  | timestamp (time : Timestamp)
  | json (document : Json)
  | blob (bytes : List UInt8)
deriving Repr

namespace Value

/-- Whether the value is the null of SQL. -/
def isNull : Value → Bool
  | null => true
  | _ => false

/-- Whether the value stands for null: the null of SQL, or the word itself in any letter case. -/
def isNullToken : Value → Bool
  | null => true
  | text content => sameLetters content "null"
  | _ => false

/-- The number of an integer. -/
def asInt? : Value → Option Int64
  | int number => some number
  | _ => none

/-- The content of a text. -/
def asText? : Value → Option String
  | text content => some content
  | _ => none

/-- The text of a value inside a SQL literal. -/
def sqlText : Value → String
  | null => "NULL"
  | int number => toString number.toInt
  | float number => sqlFloat.text number
  | text content => content
  | bool flag => if flag then "1" else "0"
  | timestamp time => time.sqlText
  | json document => document.render
  | blob bytes => decodeUtf8 bytes

/-- The JSON value that shows a value to a reader; it does not tell every two kinds apart. -/
def toJson : Value → Json
  | null => .null
  | int number => .ofInt64 number
  | float number => .ofFloat number
  | text content => .text content
  | bool flag => .bool flag
  | timestamp time => .text time.sqlText
  | json document => document
  | blob bytes => .array (bytes.map .ofByte)

end Value

end Querent
