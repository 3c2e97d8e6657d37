import Querent.Placeholder.Statement
import Querent.Session.Basic

/-! How a session runs a statement: from its cache, or by its backend. -/

namespace Querent

/-- The rows of a cursor, and columns that stand in where the backend describes none. -/
def Cursor.drain (cursor : Cursor) : ResultSet :=
  ⟨cursor.columns.map (·.getD .undefined), cursor.rows⟩

/-- The text that a result is kept under: the statement, and the values if it binds any. -/
def cacheText (statement : String) (values : List Value) : String :=
  if values.isEmpty then statement
  else statement ++ "\n[" ++ joinWith "," (values.map fun value => value.toJson.render) ++ "]"

namespace Session

variable {σ : Type}

/-- Opens the link if it is not open. -/
def reach (session : Session σ) : Step σ Unit :=
  if session.isConnected then (.ok (), session) else session.dial

/-- Hands a statement to the backend, together with its values if it binds any. -/
def send (session : Session σ) (statement : String) (values : List Value) : Step σ Execution :=
  let kind := StatementKind.of statement
  let (outcome, link) :=
    if values.isEmpty then session.backend.execute statement kind session.link
    else session.backend.executePrepared statement values kind session.link
  (outcome, { session with link := link })

/-- Heeds what the backend reports: a value or a column out of range is noticed, all else fails. -/
def heed (session : Session σ) : Step σ Unit :=
  match session.backend.fault? session.link with
  | none => (.ok (), session)
  | some fault =>
    if fault.isOutOfRange then (.ok (), { session with record := session.record.notice fault })
    else (.error (.backend fault), session)

/-- The result that an execution amounts to. -/
def resultOf (session : Session σ) (statement : String) : Execution → QueryResult
  | .affected count =>
    .affected count (if givesId statement then session.backend.insertId? session.link else none)
  | .cursor rows => .rows rows.drain

/-- Has the backend run a statement. -/
def dispatch (session : Session σ) (statement : String) (values : List Value) :
    Step σ QueryResult :=
  session.reach.andThen fun _ session =>
    (session.send statement values).andThen fun execution session =>
      session.heed.andThen fun _ session => (.ok (session.resultOf statement execution), session)

/-- What the cache has for a text; failures of the cache are remembered and count as nothing. -/
def consult (session : Session σ) (text : String) : Option QueryResult × Session σ :=
  match session.cache with
  | none => (none, session)
  | some cache =>
    match cache.lookup session.now text session.disk with
    | (.ok (.hit entry), disk) => (some entry.toResult, { session with disk := disk })
    | (.ok _, disk) => (none, { session with disk := disk })
    | (.error failure, disk) => (none, { session with disk := disk }.recordError failure)

/-- Keeps a result in the cache; failures of the cache are remembered. -/
def keep (session : Session σ) (text : String) (result : QueryResult) : Session σ :=
  match session.cache with
  | none => session
  | some cache =>
    let entry := CacheEntry.ofResult session.now result
    match cache.store session.now text entry session.disk with
    | (.ok _, disk) => { session with disk := disk }
    | (.error failure, disk) => { session with disk := disk }.recordError failure

/-- Begins a statement. -/
def begin (session : Session σ) (statement : String) : Session σ :=
  { session with record := session.record.start statement }

/-- Remembers a result. -/
def absorb (session : Session σ) (result : QueryResult) : Session σ :=
  { session with record := session.record.absorb result }

/-- Ends a statement by the number of its timer, with the records that the session makes of it. -/
def finish (session : Session σ) (timer : Nat) : Session σ :=
  let session := { session with record := session.record.stop timer session.trace.profile }
  if session.trace.traceLog then { session with traceLog := session.traceLog ++ [session.report] }
  else session

/-- Answers a statement from the cache. -/
def answer (session : Session σ) (timer : Nat) (result : QueryResult) : Step σ QueryResult :=
  let session := session.absorb result
  (.ok result, { session with record.given.fromCache := true }.finish timer)

/-- Has the backend run a statement and remembers the outcome; a result may be kept under a text. -/
def perform (session : Session σ) (timer : Nat) (statement : String) (values : List Value)
    (text : Option String) : Step σ QueryResult :=
  match session.dispatch statement values with
  | (.error failure, session) => (.error failure, (session.recordError failure).finish timer)
  | (.ok result, session) =>
    let session := session.absorb result
    let session := match text with
      | none => session
      | some text => session.keep text result
    (.ok result, session.finish timer)

/-- Runs a statement with the values that it binds. -/
def run (session : Session σ) (sql : String) (values : List Value) : Step σ QueryResult :=
  let statement := session.backend.style.normalize sql
  let session := session.begin statement
  let timer := session.record.queries
  if session.cacheConfig.keeps (StatementKind.of statement = .mutating) then
    let text := cacheText statement values
    match session.consult text with
    | (some result, session) => session.answer timer result
    | (none, session) => session.perform timer statement values (some text)
  else session.perform timer statement values none

/-- Remembers a call. -/
def logCall (session : Session σ) (text : String) : Session σ :=
  { session with record := session.record.call text }

/-- Runs a statement with the values that are pending. -/
def query (session : Session σ) (sql : String) : Step σ QueryResult :=
  let values := session.compiler.pending
  ((session.logCall ("query(\"" ++ sql ++ "\")")).clearPending).run sql values

/-- Runs a statement with values of its own; what is pending is forgotten. -/
def queryWith (session : Session σ) (sql : String) (values : List Value) : Step σ QueryResult :=
  let call := "query_with(\"" ++ sql ++ "\", " ++ toString values.length ++ " params)"
  (session.logCall call).clearPending.run sql values

end Session

end Querent
