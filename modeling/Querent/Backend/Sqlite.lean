import Querent.Backend.Basic

/-! SQLite as a backend: its kinds of values, its errors, and how a link to it is opened. -/

namespace Querent.Sqlite

/-- A value of a kind that SQLite knows. -/
inductive Datum
  | null
  | integer (number : Int64)
  | real (number : Binary64)
  | text (content : String)
  | blob (bytes : List UInt8)
deriving DecidableEq, Repr

/-- The datum that a value is bound as. -/
def Datum.ofValue : Value → Datum
  | .null => null
  | .int number => integer number
  | .float number => real number
  | .text content => text content
  | .bool flag => integer (if flag then 1 else 0)
  | .timestamp time => text time.sqlText
  | .json document => text document.render
  | .blob bytes => blob bytes

/-- An error of SQLite. -/
inductive Fault
  /-- A failure with an extended result code. -/
  | failure (extended : Int) (message : String)
  /-- A failure to understand a statement. -/
  | input (extended : Int) (message : String)
  | invalidColumn (name : String)
deriving DecidableEq, Repr

/-- What a session is told of an error: the low byte of a result code, or that there is none. -/
def Fault.info : Fault → BackendFault
  | failure extended message => ⟨extended % 256, message⟩
  | input extended message => ⟨extended % 256, message⟩
  | invalidColumn name => ⟨-1, "Invalid column name: " ++ name⟩

/-- A link to a database. -/
structure Link where
  connected : Bool
  insertId : Option Int64
  fault : Option BackendFault
deriving DecidableEq, Repr

/-- A link before it is opened. -/
def Link.closed : Link := ⟨false, none, none⟩

/-- The name of a database in memory. -/
def memoryDsn : String := ":memory:"

/-- The option that chooses a journal. -/
def journalOption : String := "journal_mode"

/-- Words that are no names in SQL, less those that a pragma takes for a value. -/
def reservedWords : List String :=
  ["add", "all", "alter", "and", "as", "autoincrement", "between", "case", "check", "collate",
    "commit", "constraint", "create", "deferrable", "distinct", "drop", "else", "escape", "except",
    "exists", "foreign", "from", "group", "having", "in", "index", "insert", "intersect", "into",
    "is", "isnull", "join", "limit", "not", "nothing", "notnull", "null", "or", "order", "primary",
    "references", "returning", "select", "set", "table", "then", "to", "transaction", "union",
    "unique", "update", "using", "values", "when", "where"]

/-- Whether a journal can be chosen by a name, or why not. -/
def checkJournal (mode : String) : Except Failure Unit :=
  if !mode.toList.all Char.isAlpha then
    .error (.config ("invalid sqlite journal_mode `" ++ mode ++ "`"))
  -- The pragma expects a name, which an empty text or a reserved word is not.
  else if mode.isEmpty || reservedWords.any (sameLetters mode) then
    let near := if mode.isEmpty then ";" else mode
    .error (.sqlite ("near \"" ++ near ++ "\": syntax error in PRAGMA journal_mode = " ++ mode ++
      "; at offset 22"))
  else .ok ()

/-- The database that a data source names: without a name, one in memory. -/
def databasePath (dsn : String) : String :=
  if isBlankText dsn then memoryDsn else dsn

/-- Whether a database can be opened as asked, or why not. -/
def checkOpening (params : ConnectParams) : Except Failure Unit :=
  let path := databasePath params.dsn
  match path.toList.idxOf? '\x00' with
  | some _ =>
    let before := String.ofList (path.toList.takeWhile (· ≠ '\x00'))
    .error (.connection ("cannot open " ++ path ++
      ": nul byte found in provided data at position: " ++ toString before.utf8ByteSize))
  | none =>
    match params.options.find? journalOption with
    | some mode => checkJournal mode
    | none => .ok ()

namespace Link

/-- Opens a link; a failure leaves one that was open before as it was. -/
def connect (params : ConnectParams) (link : Link) : Except Failure Unit × Link :=
  match checkOpening params with
  | .ok () => (.ok (), { link with connected := true, fault := none })
  | .error failure => (.error failure, link)

/-- Closes a link, which never fails. -/
def disconnect (link : Link) : Except Failure Unit × Link :=
  (.ok (), { link with connected := false })

/-- Runs a statement; nothing runs it while there is no engine behind the link. -/
def execute (link : Link) : Except Failure Execution × Link :=
  let failure := if link.connected then Failure.execution "no engine runs the statement"
    else .connection "sqlite driver is not connected"
  (.error failure, { link with fault := none })

end Link

/-- SQLite as a backend. -/
def backend : Backend Link where
  name := BackendKind.sqlite.name
  style := .sqlite
  presentTime := "datetime('now')"
  escape := doubleQuotes
  connect := Link.connect
  disconnect := Link.disconnect
  isConnected := Link.connected
  execute _ _ link := link.execute
  executePrepared _ _ _ link := link.execute
  insertId? := Link.insertId
  fault? := Link.fault

end Querent.Sqlite
