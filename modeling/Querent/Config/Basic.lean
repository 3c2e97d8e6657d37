import Querent.Error
import Querent.NameMap
import Querent.Text.Blank
import Querent.Text.Search
import Querent.Time.Duration

/-! What a session is opened with. -/

namespace Querent

/-- The backends that come with the library. -/
inductive BackendKind
  | sqlite
deriving DecidableEq, Repr

/-- The name of a backend. -/
def BackendKind.name : BackendKind → String
  | sqlite => "sqlite"

/-- The backend that a token names, with letter case counting or not. -/
def BackendKind.parse? (ignoreCase : Bool) (token : String) : Option BackendKind :=
  if (if ignoreCase then sameLetters token "sqlite" else token == "sqlite") then some .sqlite
  else none

/-- What a backend needs to connect. -/
structure ConnectParams where
  dsn : String
  user : Option String
  password : Option String
  options : NameMap String
  /-- A backend over a file asks for no credentials. -/
  fileBased : Bool
deriving DecidableEq, Repr

/-- Whether user and password are there, or not asked for. -/
def ConnectParams.hasCredentials (params : ConnectParams) : Bool :=
  params.fileBased || (params.user.isSome && params.password.isSome)

/-- Where temporary files go when the environment names no directory for them. -/
def temporaryDirectory : String := "/tmp"

/-- Where results are kept when a configuration names no directory: beside temporary files. -/
def defaultCacheDirectory (temporary : String := temporaryDirectory) : String :=
  match temporary.toList.getLast? with
  | none => "sql-session-cache"
  | some '/' => temporary ++ "sql-session-cache"
  | some _ => temporary ++ "/sql-session-cache"

/-- Which results are kept, where and how long. -/
structure CacheConfig where
  enabled : Bool
  directory : String
  ttl : Duration
  /-- Whether results of statements that give rows are kept. -/
  queries : Bool
  /-- Whether results of statements that change data are kept. -/
  inserts : Bool
deriving DecidableEq, Repr

/-- Nothing is kept; once something is, it stays for a day. -/
def CacheConfig.default (temporary : String := temporaryDirectory) : CacheConfig :=
  ⟨false, defaultCacheDirectory temporary, .ofHours 24, false, false⟩

/-- Whether results of a class of statements are kept. -/
def CacheConfig.keeps (config : CacheConfig) (mutating : Bool) : Bool :=
  config.enabled && if mutating then config.inserts else config.queries

/-- Which records a session makes of itself. -/
structure TraceConfig where
  debugAll : Bool
  /-- Whether a report is kept of each statement. -/
  traceLog : Bool
  /-- Whether each statement is listed in the profile. -/
  profile : Bool
  showErrors : Bool
deriving DecidableEq, Repr

/-- Errors are shown, and nothing else is recorded. -/
def TraceConfig.default : TraceConfig :=
  ⟨false, false, false, true⟩

/-- What a session is opened with. -/
structure SessionConfig where
  backend : BackendKind
  dsn : String
  user : Option String
  password : Option String
  options : NameMap String
  fileBased : Bool
  prepared : Bool
  cache : CacheConfig
  trace : TraceConfig
deriving DecidableEq, Repr

namespace SessionConfig

/-- The configuration for a data source before anything is set. -/
def initial (backend : BackendKind) (dsn : String)
    (temporary : String := temporaryDirectory) : SessionConfig :=
  ⟨backend, dsn, none, none, .empty, false, true, .default temporary, .default⟩

/-- The configuration for a SQLite file. -/
def sqlite (path : String) (temporary : String := temporaryDirectory) : SessionConfig :=
  { initial .sqlite path temporary with fileBased := true }

/-- What is missing, if anything is. -/
def fault? (config : SessionConfig) : Option ConfigFault :=
  if isBlankText config.dsn then some .missingDsn
  else if !config.fileBased && (config.user.getD "").isEmpty then some .missingUser
  else if !config.fileBased && config.password.isNone then some .missingPassword
  else if config.cache.enabled && config.cache.directory.isEmpty then some .missingCacheDirectory
  else none

/-- The configuration itself if nothing is missing. -/
def validate (config : SessionConfig) : Except Failure SessionConfig :=
  match config.fault? with
  | none => .ok config
  | some fault => .error fault.failure

/-- What a backend is given to connect. -/
def connectParams (config : SessionConfig) : ConnectParams :=
  ⟨config.dsn, config.user, config.password, config.options, config.fileBased⟩

end SessionConfig

/-- One thing that a caller sets in a configuration. -/
inductive Setting
  | user (name : String)
  | password (word : String)
  | option (name value : String)
  | fileBased (on : Bool)
  | prepared (on : Bool)
  /-- Keeping results in a directory also turns keeping on. -/
  | cacheDirectory (path : String)
  | cacheHours (hours : UInt64)
  | cacheTtl (ttl : Duration)
  | cacheQueries (on : Bool)
  | cacheInserts (on : Bool)
  | debugAll (on : Bool)
  | traceLog (on : Bool)
  | profile (on : Bool)
  | showErrors (on : Bool)
deriving Repr

/-- The configuration with one thing set. -/
def SessionConfig.set (config : SessionConfig) : Setting → SessionConfig
  | .user name => { config with user := some name }
  | .password word => { config with password := some word }
  | .option name value => { config with options := config.options.insert name value }
  | .fileBased on => { config with fileBased := on }
  | .prepared on => { config with prepared := on }
  | .cacheDirectory path => { config with cache.enabled := true, cache.directory := path }
  | .cacheHours hours => { config with cache.ttl := .ofHours hours }
  | .cacheTtl ttl => { config with cache.ttl := ttl }
  | .cacheQueries on => { config with cache.queries := on }
  | .cacheInserts on => { config with cache.inserts := on }
  | .debugAll on => { config with trace.debugAll := on }
  | .traceLog on => { config with trace.traceLog := on }
  | .profile on => { config with trace.profile := on }
  | .showErrors on => { config with trace.showErrors := on }

/-- The configuration for a data source with some things set one after another. -/
def SessionConfig.ofSettings (backend : BackendKind) (dsn : String) (settings : List Setting)
    (temporary : String := temporaryDirectory) : SessionConfig :=
  settings.foldl SessionConfig.set (initial backend dsn temporary)

end Querent
