import Querent.Backend.Basic
import Querent.Cache.Store
import Querent.Report
import Querent.Session.Record
import Querent.Text.Quoted

/-! Sessions with a database: how they are started, connected, switched and reported on. -/

namespace Querent

/-- A session with a database over a link whose states are of some type. -/
structure Session (σ : Type) where
  backend : Backend σ
  link : σ
  connection : ConnectParams
  compiler : Compiler
  cacheConfig : CacheConfig
  /-- The cache, once there is one; it is used when the configuration says so too. -/
  cache : Option ResultCache
  trace : TraceConfig
  record : Record
  /-- One report for each statement, if they are kept. -/
  traceLog : List Report
  disk : Disk
  /-- The present time in nanoseconds. -/
  now : Int

namespace Session

variable {σ α : Type}

/-- A step of a session: it gives an answer or a failure, and the session goes on from both. -/
abbrev Step (σ α : Type) := Except Failure α × Session σ

/-- Goes on from an answer; a failure ends the step. -/
def Step.andThen {β : Type} (step : Step σ α) (next : α → Session σ → Step σ β) : Step σ β :=
  match step with
  | (.ok answer, session) => next answer session
  | (.error failure, session) => (.error failure, session)

/-- A new session, if nothing is missing in its configuration. -/
def start (backend : Backend σ) (link : σ) (config : SessionConfig) (disk : Disk) (now : Int) :
    Except Failure (Session σ) :=
  config.validate.map fun config => {
    backend := backend
    link := link
    connection := config.connectParams
    compiler := .fresh config.prepared
    cacheConfig := config.cache
    cache := if config.cache.enabled then some ⟨config.cache.directory, config.cache.ttl⟩ else none
    trace := config.trace
    record := .fresh
    traceLog := []
    disk := disk
    now := now }

/-- Whether the link is open. -/
def isConnected (session : Session σ) : Bool :=
  session.backend.isConnected session.link

/-- Text as the body of a literal. -/
def escape (session : Session σ) (text : String) : String :=
  session.backend.escape text

/-- Remembers a failure. -/
def recordError (session : Session σ) (failure : Failure) : Session σ :=
  { session with record := session.record.error failure.message }

/-- An outcome, which is remembered if it is a failure. -/
def noted (step : Step σ α) : Step σ α :=
  match step with
  | (.error failure, session) => (.error failure, session.recordError failure)
  | (.ok answer, session) => (.ok answer, session)

/-- Opens the link, unless credentials are missing; every failure is one to connect. -/
def dial (session : Session σ) : Step σ Unit :=
  if session.connection.hasCredentials then
    let (outcome, link) := session.backend.connect session.connection session.link
    (outcome.mapError Failure.asConnection, { session with link := link })
  else (.error (.connection "missing user or password"), session)

/-- The session counting anew for a connection. -/
def recount (session : Session σ) : Session σ :=
  { session with record := session.record.recount }

/-- Connects. -/
def connect (session : Session σ) : Step σ Unit :=
  noted (session.dial.andThen fun _ session => (.ok (), session.recount))

/-- Disconnects; a failure is not remembered. -/
def disconnect (session : Session σ) : Step σ Unit :=
  let (outcome, link) := session.backend.disconnect session.link
  Step.andThen (outcome, { session with link := link }) fun _ session => (.ok (), session.recount)

/-- Sets whether values are handed over beside statements. -/
def setPrepared (session : Session σ) (on : Bool) : Session σ :=
  { session with compiler.prepared := on }

/-- Sets whether errors are shown. -/
def setShowErrors (session : Session σ) (on : Bool) : Session σ :=
  { session with trace.showErrors := on }

/-- Sets whether all is shown. -/
def setDebug (session : Session σ) (on : Bool) : Session σ :=
  { session with trace.debugAll := on }

/-- Sets whether results of statements that give rows are kept. -/
def setCacheQueries (session : Session σ) (on : Bool) : Session σ :=
  { session with cacheConfig.queries := on }

/-- Sets whether results of statements that change data are kept. -/
def setCacheInserts (session : Session σ) (on : Bool) : Session σ :=
  { session with cacheConfig.inserts := on }

/-- Turns the cache on, in a directory of its own or the configured one, and makes the directory. -/
def createCache (session : Session σ) (directory : Option String) : Step σ Unit :=
  let config := { session.cacheConfig with
    enabled := true
    directory := directory.getD session.cacheConfig.directory }
  let session := { session with cacheConfig := config }
  let cache : ResultCache := ⟨config.directory, config.ttl⟩
  noted (match cache.ensure session.now session.disk with
    | (.ok _, disk) => (.ok (), { session with cache := some cache, disk := disk })
    | (.error failure, disk) => (.error failure, { session with disk := disk }))

/-- Forgets the last statement, what it gave, the log of calls and what is pending. -/
def flush (session : Session σ) : Session σ :=
  { session with record := session.record.flush, compiler := session.compiler.clear }

/-- Forgets the values that are pending. -/
def clearPending (session : Session σ) : Session σ :=
  { session with compiler := session.compiler.clear }

/-- The session after a step of its compiler, whose fault is remembered. -/
def compiled (session : Session σ) (step : Except ClauseFault α × Compiler) : Step σ α :=
  noted (step.1.mapError ClauseFault.failure, { session with compiler := step.2 })

/-- Compiles a WHERE clause, or the HAVING clause that was announced. -/
def filter (session : Session σ) (conditions : List Condition) : Step σ Clause :=
  session.compiled (session.compiler.compile session.escape conditions)

/-- Compiles a HAVING clause. -/
def having (session : Session σ) (conditions : List Condition) : Step σ Clause :=
  session.compiled (session.compiler.compileHaving session.escape conditions)

/-- How many statements there were, in all or for the connection; the count may go up first. -/
def count (session : Session σ) (all increase : Bool) : Nat × Session σ :=
  let session := if increase then { session with record := session.record.count } else session
  (if all then session.record.queries else session.record.connectionQueries, session)

/-- The report on a session. -/
def report (session : Session σ) : Report where
  backend := session.backend.name
  queries := session.record.queries
  lastQuery := session.record.lastQuery
  lastError := session.record.lastError
  fromCache := session.record.given.fromCache
  lastCall := session.record.lastCall
  calls := session.record.calls
  columns := session.record.given.columns
  values := (session.record.given.rows.map ResultSet.values).getD []
  affected := match session.record.given.outcome with
    | some (.affected count _) => some count
    | _ => none
  dump := none

/-- The report on a session together with a value. -/
def dump (session : Session σ) (value : Dump) : Report :=
  { session.report with dump := some value }

/-- A session in a few words. -/
def summary (session : Session σ) : String :=
  "QueryEngine \x7b driver: " ++ quoted session.backend.name ++
    ", connected: " ++ toString session.isConnected ++
    ", prepared: " ++ toString session.compiler.prepared ++
    ", num_queries: " ++ toString session.record.queries ++ ", .. \x7d"

end Session

end Querent
