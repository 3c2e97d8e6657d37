import Querent.Proofs.Session.Calls
import Querent.Proofs.Session.Files

/-! What goes on between a session and its backend while one statement is queried: an attempt to
connect at most, and behind it one handing over at most. -/

namespace Querent

namespace Cursor

/-- Whether a cursor gives rows one after another, and then no more. -/
inductive Fetches : Cursor → List (List Value) → Prop
  | done {cursor : Cursor} : cursor.fetch.1 = none → Fetches cursor []
  | next {cursor : Cursor} {row : List Value} {rows : List (List Value)} :
      cursor.fetch.1 = some row → Fetches cursor.fetch.2 rows → Fetches cursor (row :: rows)

/-- Whether a result has the columns of a cursor in their order, with a stand-in for those that are
not described, and the rows in the order of fetching. -/
structure Drained (cursor : Cursor) (set : ResultSet) : Prop where
  columns : set.columns =
    (List.range cursor.columnCount).map fun index => (cursor.column? index).getD .undefined
  rows : cursor.Fetches set.values

/-- All rows are fetched, and each of them once. -/
theorem fetches_iff {cursor : Cursor} {rows : List (List Value)} :
    cursor.Fetches rows ↔ rows = cursor.rows := by
  constructor
  · intro fetches
    induction fetches with
    | done none => exact (List.head?_eq_none_iff.mp none).symm
    | @next cursor row rows first _ ih =>
      -- The cursor goes on behind the row that it gave.
      obtain ⟨others, shape⟩ := List.head?_eq_some_iff.mp first
      rw [ih, fetch, shape]
      rfl
  · rintro rfl
    obtain ⟨columns, rows⟩ := cursor
    induction rows with
    | nil => exact .done rfl
    | cons row rows ih => exact .next rfl ih

/-- Draining a cursor gives all that it has. -/
theorem drained_iff {cursor : Cursor} {set : ResultSet} :
    cursor.Drained set ↔ set = cursor.drain := by
  have columns : (List.range cursor.columnCount).map (fun index =>
      (cursor.column? index).getD .undefined) = cursor.columns.map (·.getD .undefined) := by
    refine List.ext_getElem (by simp [columnCount]) fun index _ within => ?_
    rw [List.length_map] at within
    simp [column?, within]
  constructor
  · rintro ⟨described, fetched⟩
    obtain ⟨own, values⟩ := set
    obtain rfl := fetches_iff.mp fetched
    obtain rfl : own = _ := described.trans columns
    rfl
  · rintro rfl
    exact ⟨columns.symm, fetches_iff.mpr rfl⟩

end Cursor

namespace Backend

variable {σ : Type} (backend : Backend σ)

/-- Hands a statement over, with its values if it binds any. -/
def hand (statement : String) (values : List Value) (link : σ) : Except Failure Execution × σ :=
  if values.isEmpty then backend.execute statement (.of statement) link
  else backend.executePrepared statement values (.of statement) link

/-- Whether a result is that of an execution, which may have given an id to a new row. -/
inductive Yields (statement : String) (link : σ) : Execution → QueryResult → Prop
  | affected (count : UInt64) : Yields statement link (.affected count)
      (.affected count (if givesId statement then backend.insertId? link else none))
  | rows {cursor : Cursor} {set : ResultSet} : cursor.Drained set →
      Yields statement link (.cursor cursor) (.rows set)

/-- What comes of a statement that was tried: it fails exactly if the backend failed or reports any
other code than the one of values out of range, which is noticed with the statement. -/
structure Settles (statement : String) (tried : Except Failure Execution × σ)
    (outcome : Except Failure QueryResult) (notices : List Notice) : Prop where
  fails : (∃ failure, outcome = .error failure) ↔ (∃ failure, tried.1 = .error failure) ∨
    ∃ fault, backend.fault? tried.2 = some fault ∧ fault.code ≠ 25
  failure : ∀ failure, outcome = .error failure → notices = [] ∧
    (tried.1 = .error failure ∨
      tried.1.isOk = true ∧ ∃ fault, backend.fault? tried.2 = some fault ∧ failure = .backend fault)
  result : ∀ result, outcome = .ok result →
    notices = (backend.fault? tried.2).toList.map (⟨·, some statement⟩) ∧
      ∃ execution, tried.1 = .ok execution ∧ backend.Yields statement tried.2 execution result

end Backend

/-- How far a statement gets on its way to the backend. -/
inductive Route
  /-- The cache has its result. -/
  | cached
  /-- The link cannot be opened. -/
  | unreached
  /-- The backend is handed the statement. -/
  | executed
deriving DecidableEq, Repr

namespace Session

variable {σ : Type}

/-- Whether a session has an open link: the one that it has, or else what one call to connect
makes of that. -/
inductive Opens (session : Session (Recorded σ)) (backend : Backend σ) : Recorded σ → Prop
  | already : session.isConnected = true → Opens session backend session.link
  | dialed {link : σ} : session.isConnected = false → session.connection.hasCredentials = true →
      backend.connect session.connection session.link.link = (.ok (), link) →
      Opens session backend ⟨link, session.link.calls ++ [.connect session.connection]⟩

/-- What goes on for one statement: by which route it gets its outcome, the link with the calls that
went over it, and what is noticed. -/
inductive Exchange (session : Session (Recorded σ)) (backend : Backend σ) (statement : String)
    (values : List Value) :
    Route → Except Failure QueryResult → Recorded σ → List Notice → Prop
  | cached {cache : ResultCache} {entry : CacheEntry} :
      session.cacheConfig.keeps (StatementKind.of statement = .mutating) = true →
      session.cache = some cache →
      (cache.lookup session.now (cacheText statement values) session.disk).1 = .ok (.hit entry) →
      Exchange session backend statement values .cached (.ok entry.toResult) session.link []
  | uncredited : session.isConnected = false → session.connection.hasCredentials = false →
      Exchange session backend statement values .unreached
        (.error (.connection "missing user or password")) session.link []
  | refused {failure : Failure} {reason : String} {link : σ} : session.isConnected = false →
      session.connection.hasCredentials = true →
      backend.connect session.connection session.link.link = (.error failure, link) →
      failure.asConnection = .connection reason →
      Exchange session backend statement values .unreached (.error (.connection reason))
        ⟨link, session.link.calls ++ [.connect session.connection]⟩ []
  | executed {reached : Recorded σ} {outcome : Except Failure QueryResult}
      {notices : List Notice} : session.Opens backend reached →
      backend.Settles statement (backend.hand statement values reached.link) outcome notices →
      Exchange session backend statement values .executed outcome
        ⟨(backend.hand statement values reached.link).2,
          reached.calls ++ [.handing statement values]⟩ notices

/-- An answer of the cache makes no call and no notice. -/
theorem answer_left (session : Session σ) (timer : Nat) (result : QueryResult) :
    let step := session.answer timer result
    step.1 = .ok result ∧ step.2.link = session.link ∧
      step.2.record.given.notices = session.record.given.notices ∧
        step.2.record.given.fromCache = true := by
  intro step
  -- To finish a statement touches neither the link nor the notices.
  have after : step.2 = _ := finish_eq _ timer
  rw [after]
  cases result <;> exact ⟨rfl, rfl, rfl, rfl⟩

/-- A failure to connect has a reason. -/
theorem exists_asConnection (failure : Failure) :
    ∃ reason, failure.asConnection = .connection reason := by
  cases failure <;> exact ⟨_, rfl⟩

variable {backend : Backend σ} {session : Session (Recorded σ)} {statement : String}
  {values : List Value}

section

variable {route : Route} {outcome : Except Failure QueryResult} {after : Recorded σ}
  {notices : List Notice}

/-- What goes on is the same for another session over the same link, if it has the same cache or the
cache has no part in it. -/
theorem Exchange.of_same {other : Session (Recorded σ)}
    (exchange : other.Exchange backend statement values route outcome after notices)
    (link : other.link = session.link) (connected : other.isConnected = session.isConnected)
    (connection : other.connection = session.connection)
    (same : route = .cached → other.cacheConfig = session.cacheConfig ∧
      other.cache = session.cache ∧ other.now = session.now ∧ other.disk = session.disk) :
    session.Exchange backend statement values route outcome after notices := by
  -- Each route reads only the parts of the session that are the same.
  cases exchange with
  | cached kept used hit =>
    obtain ⟨config, cache, now, disk⟩ := same rfl
    rw [config] at kept
    rw [cache] at used
    rw [now, disk] at hit
    rw [link]
    exact .cached kept used hit
  | uncredited closed missing =>
    rw [connected] at closed
    rw [connection] at missing
    rw [link]
    exact .uncredited closed missing
  | refused closed given tried reason =>
    rw [connected] at closed
    rw [connection] at given
    rw [connection, link] at tried
    rw [connection, link]
    exact .refused closed given tried reason
  | executed opened settled =>
    refine .executed ?_ settled
    cases opened with
    | already open' =>
      rw [connected] at open'
      rw [link]
      exact .already open'
    | dialed closed given tried =>
      rw [connected] at closed
      rw [connection] at given
      rw [connection, link] at tried
      rw [connection, link]
      exact .dialed closed given tried

/-- Only a result that is kept is found in the cache. -/
theorem Exchange.keeps_of_cached
    (exchange : session.Exchange backend statement values route outcome after notices)
    (cached : route = .cached) :
    session.cacheConfig.keeps (StatementKind.of statement = .mutating) = true := by
  cases exchange with
  | cached kept => exact kept
  | uncredited | refused | executed => cases cached

/-- To hand a statement over is no call to connect. -/
theorem handing_ne_connect (statement : String) (values : List Value) (params : ConnectParams) :
    Call.handing statement values ≠ .connect params := by
  unfold Call.handing
  split <;> simp

/-- A statement was handed over exactly if its call is the last one that was made. -/
theorem Exchange.executed_iff
    (exchange : session.Exchange backend statement values route outcome after notices) :
    route = .executed ↔
      ∃ calls, after.calls = session.link.calls ++ calls ++ [.handing statement values] := by
  cases exchange with
  | cached => simp
  | uncredited => simp
  | refused =>
    -- The last call is the one to connect.
    refine ⟨Route.noConfusion, ?_⟩
    rintro ⟨calls, made⟩
    have last := congrArg List.getLast? made
    simp only [List.getLast?_append, List.getLast?_singleton, Option.some_or,
      Option.some.injEq] at last
    exact absurd last.symm (handing_ne_connect _ _ _)
  | executed opened =>
    refine ⟨fun _ => ?_, fun _ => rfl⟩
    cases opened with
    | already => exact ⟨[], by rw [List.append_nil]⟩
    | dialed => exact ⟨_, rfl⟩

/-- Where a statement is not handed over, only the cache gives a result. -/
theorem Exchange.cached_iff
    (exchange : session.Exchange backend statement values route outcome after notices)
    (still : route ≠ .executed) : route = .cached ↔ ∃ result, outcome = .ok result := by
  cases exchange with
  | cached => exact ⟨fun _ => ⟨_, rfl⟩, fun _ => rfl⟩
  | uncredited => exact ⟨Route.noConfusion, (fun ⟨_, made⟩ => nomatch made)⟩
  | refused => exact ⟨Route.noConfusion, (fun ⟨_, made⟩ => nomatch made)⟩
  | executed => exact absurd rfl still

/-- The outcome and the calls tell the route. -/
theorem Exchange.route_eq
    (exchange : session.Exchange backend statement values route outcome after notices)
    {other : Route}
    (exchange' : session.Exchange backend statement values other outcome after notices) :
    other = route := by
  have executed : other = .executed ↔ route = .executed :=
    exchange'.executed_iff.trans exchange.executed_iff.symm
  -- The calls tell whether it was handed over, and the outcome tells the other two apart.
  by_cases reached : route = .executed
  · rw [reached]
    exact executed.mpr reached
  · have cached : other = .cached ↔ route = .cached :=
      (exchange'.cached_iff (mt executed.mp reached)).trans (exchange.cached_iff reached).symm
    clear exchange exchange'
    cases route <;> cases other <;> simp_all

end

section

variable (recording : session.backend = backend.recording)

include recording

/-- A statement is handed to the recorded backend, and the call is recorded. -/
theorem send_recording : session.send statement values =
    ((backend.hand statement values session.link.link).1, { session with
      link := ⟨(backend.hand statement values session.link.link).2,
        session.link.calls ++ [.handing statement values]⟩ }) := by
  unfold send Backend.hand Call.handing
  rw [recording]
  -- With and without values there is one call.
  cases values.isEmpty <;> rfl

/-- A result is that of the execution, whatever the session remembers beside it. -/
theorem yields_resultOf (execution : Execution) :
    backend.Yields statement session.link.link execution
      (session.resultOf statement execution) := by
  cases execution with
  | affected count =>
    have newId : session.backend.insertId? session.link =
        backend.insertId? session.link.link := by
      rw [recording]
      rfl
    rw [resultOf, newId]
    exact .affected count
  | cursor rows => exact .rows (Cursor.drained_iff.mpr rfl)

/-- An execution is settled by what the backend reports on it. -/
theorem settles_heed (asked : session.record.lastQuery = some statement)
    (fresh : session.record.given.notices = []) (execution : Execution) :
    let step := session.heed.andThen fun _ session =>
      (.ok (session.resultOf statement execution), session)
    backend.Settles statement (.ok execution, session.link.link) step.1
      step.2.record.given.notices := by
  have report : session.backend.fault? session.link = backend.fault? session.link.link := by
    rw [recording]
    rfl
  unfold heed
  rw [report]
  cases reported : backend.fault? session.link.link with
  | none =>
    -- Nothing is reported, so the result stands.
    refine ⟨⟨(fun ⟨_, failed⟩ => nomatch failed), ?_⟩, (fun _ failed => nomatch failed), ?_⟩
    · rintro (⟨_, ⟨⟩⟩ | ⟨fault, given, -⟩)
      cases reported.symm.trans given
    · rintro _ ⟨⟩
      refine ⟨?_, execution, rfl, yields_resultOf recording execution⟩
      rw [reported]
      exact fresh
  | some fault =>
    dsimp only
    by_cases tolerated : fault.isOutOfRange = true
    · -- The report is noticed, and the result stands.
      rw [if_pos tolerated]
      refine ⟨⟨(fun ⟨_, failed⟩ => nomatch failed), ?_⟩, (fun _ failed => nomatch failed), ?_⟩
      · rintro (⟨_, ⟨⟩⟩ | ⟨other, given, spoils⟩)
        obtain rfl := Option.some.inj (reported.symm.trans given)
        exact absurd (beq_iff_eq.mp tolerated) spoils
      · rintro _ ⟨⟩
        let noticed := { session with record := session.record.notice fault }
        have own : noticed.backend = backend.recording := recording
        refine ⟨?_, execution, rfl, yields_resultOf own execution⟩
        rw [reported]
        simp [Step.andThen, Record.notice, fresh, asked]
    · -- Any other report is the failure.
      rw [if_neg tolerated]
      have spoils : fault.code ≠ 25 := fun same => tolerated (beq_iff_eq.mpr same)
      refine ⟨⟨fun _ => .inr ⟨fault, reported, spoils⟩, fun _ => ⟨_, rfl⟩⟩, ?_,
        (fun _ made => nomatch made)⟩
      rintro _ ⟨⟩
      exact ⟨fresh, .inr ⟨rfl, fault, reported, rfl⟩⟩

/-- Behind an open link, a statement is handed over, and settled by what the backend says. -/
theorem settles_send (values : List Value) (asked : session.record.lastQuery = some statement)
    (fresh : session.record.given.notices = []) :
    let tried := backend.hand statement values session.link.link
    let step := (session.send statement values).andThen fun execution session =>
      session.heed.andThen fun _ session =>
        (.ok (session.resultOf statement execution), session)
    backend.Settles statement tried step.1 step.2.record.given.notices ∧
      step.2.link = ⟨tried.2, session.link.calls ++ [.handing statement values]⟩ := by
  rw [send_recording recording]
  generalize backend.hand statement values session.link.link = tried
  obtain ⟨outcome, link⟩ := tried
  cases outcome with
  | error failure =>
    -- The backend has failed, and nothing is asked of it any more.
    refine ⟨⟨⟨fun _ => .inl ⟨_, rfl⟩, fun _ => ⟨_, rfl⟩⟩, ?_, (fun _ made => nomatch made)⟩, rfl⟩
    rintro _ ⟨⟩
    exact ⟨fresh, .inl rfl⟩
  | ok execution =>
    let handed : Session (Recorded σ) := { session with
      link := ⟨link, session.link.calls ++ [.handing statement values]⟩ }
    have own : handed.backend = backend.recording := recording
    have settled := settles_heed own asked fresh execution
    have link : (handed.heed.andThen fun _ session =>
        (.ok (session.resultOf statement execution), session)).2.link = handed.link :=
      (link_andThen fun _ _ => rfl).trans handed.link_heed
    exact ⟨settled, link⟩

/-- The backend is reached over an open link, or the link cannot be opened. -/
theorem reach_cases (statement : String) (values : List Value) :
    (∃ reached, session.Opens backend reached ∧
      session.reach = (.ok (), { session with link := reached })) ∨
    ∃ failure after, session.reach = (.error failure, { session with link := after }) ∧
      session.Exchange backend statement values .unreached (.error failure) after [] := by
  -- An open link is taken as it is.
  by_cases connected : session.isConnected = true
  · exact .inl ⟨session.link, .already connected, by rw [reach, if_pos connected]⟩
  have closed : session.isConnected = false := by simpa using connected
  rw [reach, if_neg connected, dial]
  by_cases given : session.connection.hasCredentials = true
  · have dialed : session.backend.connect session.connection session.link =
        ((backend.connect session.connection session.link.link).1,
          ⟨(backend.connect session.connection session.link.link).2,
            session.link.calls ++ [.connect session.connection]⟩) := by
      rw [recording]
      rfl
    rw [if_pos given, dialed]
    cases tried : backend.connect session.connection session.link.link with
    | mk outcome link =>
      cases outcome with
      | error failure =>
        -- Whatever the backend fails with is told as a failure to connect.
        obtain ⟨reason, wording⟩ := exists_asConnection failure
        refine .inr ⟨failure.asConnection, _, rfl, ?_⟩
        rw [wording]
        exact .refused closed given tried wording
      | ok _ => exact .inl ⟨_, .dialed closed given tried, rfl⟩
  · -- Without credentials nothing goes over the link.
    have missing : session.connection.hasCredentials = false := by simpa using given
    rw [if_neg given]
    exact .inr ⟨_, session.link, rfl, .uncredited closed missing⟩

/-- A statement is dispatched without the cache. -/
theorem exchange_dispatch (values : List Value)
    (asked : session.record.lastQuery = some statement)
    (fresh : session.record.given.notices = []) :
    let step := session.dispatch statement values
    ∃ route, route ≠ .cached ∧ session.Exchange backend statement values route step.1 step.2.link
      step.2.record.given.notices := by
  intro step
  rcases reach_cases recording statement values with
    ⟨reached, opens, run⟩ | ⟨failure, after, run, exchange⟩
  · -- Once the link is open, the statement is settled over it.
    have own : { session with link := reached }.backend = backend.recording := recording
    obtain ⟨settled, link⟩ := settles_send own values asked fresh
    have handed : step = (send { session with link := reached } statement values).andThen
        fun execution session => session.heed.andThen fun _ session =>
          (.ok (session.resultOf statement execution), session) := by
      dsimp only [step]
      rw [dispatch, run]
      rfl
    rw [handed, link]
    exact ⟨.executed, Route.noConfusion, .executed opens settled⟩
  · -- The statement is not handed over.
    have refused : step = (.error failure, { session with link := after }) := by
      dsimp only [step]
      rw [dispatch, run]
      rfl
    refine ⟨.unreached, Route.noConfusion, ?_⟩
    rw [refused, fresh]
    exact exchange

/-- A statement is performed by dispatching it. -/
theorem exchange_perform (values : List Value)
    (asked : session.record.lastQuery = some statement)
    (fresh : session.record.given.notices = []) (timer : Nat) (text : Option String) :
    let step := session.perform timer statement values text
    ∃ route, route ≠ .cached ∧ session.Exchange backend statement values route step.1 step.2.link
      step.2.record.given.notices := by
  obtain ⟨route, other, exchange⟩ := exchange_dispatch recording values asked fresh
  refine ⟨route, other, ?_⟩
  rw [link_perform]
  unfold perform
  generalize session.dispatch statement values = step at exchange ⊢
  obtain ⟨outcome, dispatched⟩ := step
  -- Neither the records nor the file of the result change what was noticed.
  cases outcome with
  | error failure =>
    dsimp only
    rw [finish_eq]
    exact exchange
  | ok result =>
    dsimp only
    rw [finish_eq]
    have absorbed : (dispatched.absorb result).record.given.notices =
        dispatched.record.given.notices := by
      cases result <;> rfl
    cases text with
    | none =>
      rw [← absorbed] at exchange
      exact exchange
    | some kept =>
      obtain ⟨disk, failures, left, -⟩ := (dispatched.absorb result).keep_left kept result
      dsimp only
      rw [left]
      have same : ((dispatched.absorb result).record.failed failures).given.notices =
          dispatched.record.given.notices := by
        rw [Record.given_failed, absorbed]
      rw [← same] at exchange
      exact exchange

/-- A statement that is run is found in the cache, or else performed in the style of the backend. -/
theorem exchange_run (sql : String) (values : List Value) :
    let ran := session.run sql values
    ∃ route, session.Exchange backend (backend.style.normalize sql) values route ran.1 ran.2.link
        ran.2.record.given.notices ∧
      (ran.2.record.given.fromCache = true ↔ route = .cached) := by
  have style : session.backend.style = backend.style := by rw [recording]; rfl
  have cases := session.run_cases sql values
  rw [style] at cases
  intro ran
  -- What the run does depends on the text in the style of the backend alone.
  generalize backend.style.normalize sql = statement at cases ⊢
  dsimp only at cases
  rcases cases with ⟨-, run⟩ | ⟨kept, ⟨result, found, run⟩ | ⟨-, run⟩⟩
  · -- The cache is not asked.
    have own : (session.begin statement).backend = backend.recording := recording
    obtain ⟨route, other, exchange⟩ :=
      exchange_perform own values rfl rfl (session.begin statement).record.queries none
    have fresh : ran.2.record.given.fromCache = false :=
      (congrArg (·.2.record.given.fromCache) run).trans (fromCache_perform rfl ..)
    refine ⟨route, ?_, by simp [fresh, other]⟩
    rw [← run] at exchange
    exact exchange.of_same rfl rfl rfl fun cached => absurd cached other
  · -- The cache is asked, and has the result.
    obtain ⟨cache, entry, used, hit, rfl⟩ := hit_of_consult found
    obtain ⟨disk, failures, left, -⟩ :=
      (session.begin statement).consult_left (cacheText statement values)
    rw [left] at run
    obtain ⟨gave, link, notices, fromCache⟩ := answer_left { session.begin statement with
      disk := disk, record := (session.begin statement).record.failed failures }
      (session.begin statement).record.queries entry.toResult
    rw [Record.given_failed] at notices
    rw [← run] at gave link notices fromCache
    refine ⟨.cached, ?_, by simp [ran, fromCache]⟩
    rw [gave, link, notices]
    exact .cached kept used hit
  · -- The cache is asked, and has no result.
    obtain ⟨disk, failures, left, -⟩ :=
      (session.begin statement).consult_left (cacheText statement values)
    rw [left] at run
    let missed : Session (Recorded σ) := { session.begin statement with
      disk := disk, record := (session.begin statement).record.failed failures }
    have given : missed.record.given = .none :=
      Record.given_failed (session.begin statement).record failures
    have asked : missed.record.lastQuery = some statement := by
      change ((session.begin statement).record.failed failures).lastQuery = _
      rw [Record.failed_eq]
      rfl
    have own : missed.backend = backend.recording := recording
    obtain ⟨route, other, exchange⟩ := exchange_perform own values asked (by rw [given]; rfl)
      (session.begin statement).record.queries (some (cacheText statement values))
    have fresh : ran.2.record.given.fromCache = false :=
      (congrArg (·.2.record.given.fromCache) run).trans
        (fromCache_perform (congrArg Yield.fromCache given) ..)
    refine ⟨route, ?_, by simp [fresh, other]⟩
    rw [← run] at exchange
    exact exchange.of_same rfl rfl rfl fun cached => absurd cached other

end

/-- To run a statement leaves the compiler as it was. -/
theorem compiler_run (session : Session σ) (sql : String) (values : List Value) :
    (session.run sql values).2.compiler = session.compiler := by
  obtain ⟨link, disk, before, behind, fromCache, notices, left, -⟩ := session.run_left sql values
  rw [left, finish_eq]

/-- A query goes one way, whatever the state of the session and whatever the backend does: either
the cache has its result and no call is made, or the link cannot be opened, or the statement is
handed over once and settled by what the backend says. Only what the cache has is marked as such,
and nothing is pending behind the query. -/
theorem exchange_queryBy_unique (session : Session (Recorded σ))
    (recording : session.backend = backend.recording) (sql : String)
    (own : Option (List Value)) :
    let statement := backend.style.normalize sql
    let values := own.getD session.compiler.pending
    let ran := session.queryBy sql own
    let exchange := fun route => session.Exchange backend statement values route ran.1 ran.2.link
      ran.2.record.given.notices
    ∃ route, exchange route ∧ (∀ other, exchange other → other = route) ∧
      (ran.2.record.given.fromCache = true ↔ route = .cached) ∧
      ran.2.compiler.pending = [] := by
  intro statement values ran exchange
  obtain ⟨call, called⟩ := exists_of_queryBy sql own
  -- The query is a run of the session once the call is logged and the values are taken.
  let began := (session.logCall call).clearPending
  have run : ran = began.run sql values := called session
  have recorded : began.backend = backend.recording := recording
  obtain ⟨route, exchanged, fromCache⟩ := exchange_run recorded sql values
  rw [← run] at exchanged fromCache
  have whole : exchange route := exchanged.of_same rfl rfl rfl fun _ => ⟨rfl, rfl, rfl, rfl⟩
  refine ⟨route, whole, fun other => whole.route_eq, fromCache, ?_⟩
  rw [run, compiler_run]
  rfl

/-- A value is pending, the link is not open, a column is not described, and a value is reported to
be out of range. -/
theorem exchange_queryBy_unique_noticed :
    let statement := "SELECT a, b FROM t WHERE c = $1"
    let backend := Script.backend "scripted" .postgres doubleQuotes
    let params : ConnectParams := ⟨"db", some "user", some "secret", .empty, false⟩
    let report : BackendFault := ⟨25, "value out of range"⟩
    let rows : List (List Value) := [[.int 1, .null], [.int 2, .text "x"]]
    let session : Session (Recorded Script) := {
      backend := backend.recording
      link := ⟨Script.start [] [] [{ Reply.plain with
        report := some report
        columns := some [some ⟨"a", "int4", none⟩, none]
        rows := rows }], []⟩
      connection := params
      compiler := { Compiler.fresh true with pending := [.int 7] }
      cacheConfig := .default
      cache := none
      trace := .default
      record := .fresh
      traceLog := []
      disk := .empty
      now := 0 }
    let ran := session.queryBy " SELECT a, b FROM t WHERE c = ?1 " none
    ran.1 = .ok (.rows ⟨[⟨"a", "int4", none⟩, .undefined], rows⟩) ∧
      ran.2.link.calls = [.connect params, .executePrepared statement [.int 7] .rows] ∧
      session.Exchange backend statement [.int 7] .executed ran.1 ran.2.link
        [⟨report, some statement⟩] := by
  intro statement backend params report rows session ran
  have style : backend.style.normalize " SELECT a, b FROM t WHERE c = ?1 " = statement := by
    decide +kernel
  have made : ran.1 = .ok (.rows ⟨[⟨"a", "int4", none⟩, .undefined], rows⟩) := rfl
  have notices : ran.2.record.given.notices = [⟨report, some statement⟩] := by
    rw [← style]
    rfl
  have kind : StatementKind.of statement = .rows := by decide +kernel
  have calls : ran.2.link.calls = [.connect params, .executePrepared statement [.int 7] .rows] := by
    rw [← kind, ← style]
    rfl
  obtain ⟨route, exchange, -, -⟩ := exchange_queryBy_unique session rfl
    " SELECT a, b FROM t WHERE c = ?1 " none
  rw [style] at exchange
  have handed : Call.handing statement [.int 7] = .executePrepared statement [.int 7] .rows := by
    rw [Call.handing, kind]
    rfl
  -- That the statement was handed over is read off the last call.
  have executed : route = .executed := by
    refine exchange.executed_iff.mpr ⟨[.connect params], ?_⟩
    rw [calls, ← handed]
    rfl
  rw [← notices]
  rw [executed] at exchange
  exact ⟨made, calls, exchange⟩

end Session

end Querent
