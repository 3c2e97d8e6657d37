import Querent.Config.Basic

/-! Configurations as stored data. -/

namespace Querent

/-- The backend that a document names. -/
def BackendKind.decode? (document : Document) : Option BackendKind := do
  match ← document.variant? with
  | ("sqlite", none) => some .sqlite
  | ("sqlite", some .null) => some .sqlite
  | _ => none

namespace CacheConfig

/-- The cache settings as stored data. -/
def encode (config : CacheConfig) : Json :=
  .object [("enabled", .bool config.enabled), ("directory", .text config.directory),
    ("ttl", config.ttl.encode), ("cache_queries", .bool config.queries),
    ("cache_inserts", .bool config.inserts)]

/-- The cache settings that a document stores, each with its default. -/
def decode? (temporary : String) (document : Document) : Option CacheConfig := do
  let default := CacheConfig.default temporary
  let members ← document.members? .ignored
    ["enabled", "directory", "ttl", "cache_queries", "cache_inserts"]
  return {
    enabled := ← members.withDefault? "enabled" default.enabled Document.bool?
    directory := ← members.withDefault? "directory" default.directory Document.text?
    ttl := ← members.withDefault? "ttl" default.ttl Duration.decode?
    queries := ← members.withDefault? "cache_queries" default.queries Document.bool?
    inserts := ← members.withDefault? "cache_inserts" default.inserts Document.bool? }

end CacheConfig

namespace TraceConfig

/-- The trace settings as stored data. -/
def encode (config : TraceConfig) : Json :=
  .object [("debug_all", .bool config.debugAll), ("use_trace_log", .bool config.traceLog),
    ("profile", .bool config.profile), ("show_errors", .bool config.showErrors)]

/-- The trace settings that a document stores, each with its default. -/
def decode? (document : Document) : Option TraceConfig := do
  let members ← document.members? .ignored ["debug_all", "use_trace_log", "profile", "show_errors"]
  return {
    debugAll := ← members.withDefault? "debug_all" default.debugAll Document.bool?
    traceLog := ← members.withDefault? "use_trace_log" default.traceLog Document.bool?
    profile := ← members.withDefault? "profile" default.profile Document.bool?
    showErrors := ← members.withDefault? "show_errors" default.showErrors Document.bool? }

end TraceConfig

namespace SessionConfig

/-- A configuration as stored data. -/
def encode (config : SessionConfig) : Json :=
  .object [("driver", .text config.backend.name), ("dsn", .text config.dsn),
    ("user", .ofOption Json.text config.user), ("password", .ofOption Json.text config.password),
    ("options", .object (config.options.entries.map fun entry => (entry.1, .text entry.2))),
    ("file_based", .bool config.fileBased), ("prepared", .bool config.prepared),
    ("cache", config.cache.encode), ("trace", config.trace.encode)]

/-- The configuration that a document stores; backend and data source have no default. -/
def decode? (temporary : String) (document : Document) : Option SessionConfig := do
  let members ← document.members? .ignored
    ["driver", "dsn", "user", "password", "options", "file_based", "prepared", "cache", "trace"]
  return {
    backend := ← members.required? "driver" BackendKind.decode?
    dsn := ← members.required? "dsn" Document.text?
    user := ← members.withDefault? "user" none (Document.nullable? Document.text?)
    password := ← members.withDefault? "password" none (Document.nullable? Document.text?)
    options := ← members.withDefault? "options" .empty
      fun options => (options.pairs? Document.text?).map NameMap.ofPairs
    fileBased := ← members.withDefault? "file_based" false Document.bool?
    prepared := ← members.withDefault? "prepared" true Document.bool?
    cache := ← members.withDefault? "cache" (.default temporary) (CacheConfig.decode? temporary)
    trace := ← members.withDefault? "trace" .default TraceConfig.decode? }

/-- The configuration that a JSON text stores, if nothing is missing in it. -/
def parse (text : String) (temporary : String := temporaryDirectory) :
    Except Failure SessionConfig :=
  match (Document.parse text).bind (decode? temporary) with
  | none => .error .json
  | some config => config.validate

end SessionConfig

end Querent
