import Querent.Config.Stored
import Querent.Proofs.Json.Decoder
import Querent.Proofs.NameMap

/-! A configuration is read back from the text that stores it, and refused if something is missing
in it. -/

namespace Querent

/-- A span of time is made of its own seconds and nanoseconds, for nothing is carried over. -/
theorem Duration.ofParts?_seconds_nanos (duration : Duration) :
    ofParts? duration.seconds duration.nanos = some duration := by
  obtain ⟨seconds, nanos, small⟩ := duration
  have whole : nanos / nanosPerSecond = 0 := Nat.div_eq_of_lt small
  have rest : nanos % nanosPerSecond = nanos := Nat.mod_eq_of_lt small
  have word := seconds.toNat_lt
  have size : UInt64.size = 18446744073709551616 := rfl
  simp only [ofParts?, whole, rest, Nat.add_zero]
  rw [if_pos (by omega)]
  simp

/-- A span of time is read from its stored form. -/
theorem Duration.decode?_encode (duration : Duration) :
    decode? duration.encode.document = some duration := by
  -- Its nanoseconds are fewer than those of a second, and fit in half a word.
  have small : duration.nanos < 1000000000 := duration.nanos_lt
  have range : -9223372036854775808 ≤ (duration.nanos : Int) ∧
      (duration.nanos : Int) < 18446744073709551616 := by omega
  have seconds := Document.uint64?_document duration.seconds
  have nanos : (Json.whole ⟨duration.nanos, range⟩).document.between? 0 4294967296 =
      some (duration.nanos : Int) :=
    Document.between?_document _ (by constructor <;> dsimp only <;> omega)
  have parts := duration.ofParts?_seconds_nanos
  rw [encode, Json.ofInt, dif_pos range, decode?, Document.members?_document]
  · simp [Members.required?, Members.find?, seconds, nanos, parts]
  · rfl
  · decide

/-- A backend is read from its name. -/
theorem BackendKind.decode?_name (backend : BackendKind) :
    decode? (Json.text backend.name).document = some backend := by
  cases backend
  rfl

/-- Cache settings are read from their stored form. -/
theorem CacheConfig.decode?_encode (config : CacheConfig) (temporary : String) :
    decode? temporary config.encode.document = some config := by
  have enabled := Document.bool?_document config.enabled
  have directory := Document.text?_document config.directory
  have ttl := config.ttl.decode?_encode
  have queries := Document.bool?_document config.queries
  have inserts := Document.bool?_document config.inserts
  -- The members have different names, and each is found under its own.
  rw [encode, decode?, Document.members?_document]
  · simp [Members.withDefault?, Members.find?, enabled, directory, ttl, queries, inserts]
  · rfl
  · decide

/-- Trace settings are read from their stored form. -/
theorem TraceConfig.decode?_encode (config : TraceConfig) :
    decode? config.encode.document = some config := by
  have debugAll := Document.bool?_document config.debugAll
  have traceLog := Document.bool?_document config.traceLog
  have profile := Document.bool?_document config.profile
  have showErrors := Document.bool?_document config.showErrors
  rw [encode, decode?, Document.members?_document]
  · simp [Members.withDefault?, Members.find?, debugAll, traceLog, profile, showErrors]
  · rfl
  · decide

namespace SessionConfig

/-- Setting one thing keeps the options in order. -/
theorem sorted_set {config : SessionConfig} (sorted : config.options.Sorted) (setting : Setting) :
    (config.set setting).options.Sorted := by
  -- Only one setting is about the options.
  cases setting with
  | option name value => exact sorted.insert name value
  | _ => exact sorted

/-- The options are in order whatever is set. -/
theorem sorted_ofSettings (backend : BackendKind) (dsn : String) (settings : List Setting)
    (temporary : String) : (ofSettings backend dsn settings temporary).options.Sorted := by
  have general : ∀ config : SessionConfig, config.options.Sorted →
      (settings.foldl set config).options.Sorted := by
    -- What is set later leaves in order what was set before.
    induction settings with
    | nil => exact fun _ sorted => sorted
    | cons setting settings ih => exact fun _ sorted => ih _ (sorted_set sorted setting)
  exact general (initial backend dsn temporary) NameMap.sorted_empty

/-- The options that are read from a document are in order. -/
theorem sorted_of_decode? {temporary : String} {document : Document} {config : SessionConfig}
    (read : decode? temporary document = some config) : config.options.Sorted := by
  simp only [decode?, Option.bind_eq_bind, Option.bind_eq_some_iff, Option.pure_def,
    Option.some.injEq] at read
  obtain ⟨members, -, _, -, _, -, _, -, _, -, options, given, _, -, _, -, _, -, _, -, rfl⟩ := read
  -- They are made of the pairs that are there, or missing altogether.
  unfold Members.withDefault? at given
  split at given
  · obtain rfl := Option.some.inj given
    exact NameMap.sorted_empty
  · obtain ⟨pairs, -, rfl⟩ := Option.map_eq_some_iff.mp given
    exact NameMap.sorted_ofPairs pairs

/-- A configuration is read from its stored form if its options are in order. -/
theorem decode?_encode {config : SessionConfig} (sorted : config.options.Sorted)
    (temporary : String) : decode? temporary config.encode.document = some config := by
  have backend := config.backend.decode?_name
  have dsn := Document.text?_document config.dsn
  have user := Document.nullable?_text?_document config.user
  have password := Document.nullable?_text?_document config.password
  have options : (Json.object (config.options.entries.map fun entry =>
      (entry.1, Json.text entry.2))).document.pairs? Document.text? =
        some (config.options.entries.map fun entry => (entry.1, id entry.2)) :=
    Document.pairs?_document fun entry _ => Document.text?_document entry.2
  have whole := sorted.ofPairs_entries
  have fileBased := Document.bool?_document config.fileBased
  have prepared := Document.bool?_document config.prepared
  have cache := config.cache.decode?_encode temporary
  have trace := config.trace.decode?_encode
  rw [encode, decode?, Document.members?_document]
  · simp [Members.required?, Members.withDefault?, Members.find?, backend, dsn, user, password,
      options, whole, fileBased, prepared, cache, trace]
  · rfl
  · decide

/-- A configuration whose options are in order is given back by its text unless something is missing
in it. -/
theorem parse_render {config : SessionConfig} (sorted : config.options.Sorted)
    (temporary : String) : parse config.encode.render temporary = config.validate := by
  rw [parse, Json.parse_render, Option.bind_some, decode?_encode sorted]

/-- A configuration that is accepted is the one that was given. -/
theorem validate_eq_ok_iff {config accepted : SessionConfig} :
    config.validate = .ok accepted ↔ config.fault? = none ∧ config = accepted := by
  unfold validate
  cases config.fault? <;> simp

/-- Whatever is set, and wherever temporary files go, a configuration is read from its text as its
own check says: as itself, or with the fault of what is missing. Whatever text a configuration is
read from, its own text gives it back. -/
theorem restored_of_text :
    (∀ backend dsn settings temporary later,
      let config := ofSettings backend dsn settings temporary
      parse config.encode.render later = config.validate ∧
        (config.validate = .ok config ∨
          ∃ fault : ConfigFault, config.validate = .error (.config fault.message))) ∧
      ∀ text temporary later config, parse text temporary = .ok config →
        parse config.encode.render later = .ok config := by
  constructor
  · intro backend dsn settings temporary later config
    refine ⟨parse_render (sorted_ofSettings backend dsn settings temporary) later, ?_⟩
    unfold validate
    cases config.fault? with
    | none => exact .inl rfl
    | some fault => exact .inr ⟨fault, rfl⟩
  · intro text temporary later config accepted
    unfold parse at accepted
    split at accepted
    · cases accepted
    · next read stored =>
      -- What was accepted is what was read, and nothing is missing in it.
      obtain ⟨document, -, decoded⟩ := Option.bind_eq_some_iff.mp stored
      obtain rfl : read = config := (validate_eq_ok_iff.mp accepted).2
      rw [parse_render (sorted_of_decode? decoded), accepted]

/-- A configuration that is built, with an option set twice and the longest time to live, and one
that is read, with members in another order, one of them undeclared, an option that is named twice,
and nanoseconds that are carried over. -/
theorem restored_of_text_reordered :
    let settings : List Setting := [.option "b" "1", .option "a" "\"", .cacheDirectory "/c\n",
      .cacheTtl ⟨18446744073709551615, 999999999, by decide⟩, .option "b" "2", .user "app",
      .password ""]
    let built := ofSettings .sqlite "host=db" settings "/var/tmp"
    let text := "\x7b\"later\": [1e3], \"cache\": \x7b\"ttl\": " ++
      "\x7b\"nanos\":1500000000,\"secs\":1\x7d\x7d, \"user\":\"app\", \"password\":\"\", " ++
      "\"options\": \x7b\"b\":\"1\", \"a\":\"\\ud83d\\ude00\", \"b\":\"2\"\x7d, " ++
      "\"driver\":\x7b\"sqlite\":null\x7d, \"dsn\":\"host=db\"\x7d"
    let config : SessionConfig := { SessionConfig.initial .sqlite "host=db" "/var/tmp/" with
      user := some "app", password := some ""
      options := ⟨[("a", "😀"), ("b", "2")]⟩
      cache.ttl := ⟨2, 500000000, by decide⟩ }
    (built.options.entries = [("a", "\""), ("b", "2")] ∧ parse built.encode.render = .ok built) ∧
      parse text "/var/tmp/" = .ok config ∧ parse config.encode.render = .ok config := by
  intro settings built text config
  have complete : built.validate = .ok built := by decide +kernel
  have accepted : parse text "/var/tmp/" = .ok config := by decide +kernel
  refine ⟨⟨by decide +kernel, ?_⟩, accepted, restored_of_text.2 text _ _ config accepted⟩
  exact (restored_of_text.1 .sqlite "host=db" settings _ _).1.trans complete

end SessionConfig

end Querent
