import Querent.Backend.Scripted
import Querent.Proofs.Session.Exchange
import Querent.Proofs.Statement.Verb
import Querent.Session.Statement

/-! Statements that are built to write, and what a cache of selections has to do with them. -/

namespace Querent

namespace Session

variable {σ : Type}

/-- A statement that is assembled is queried with what is pending behind the assembly. -/
theorem carryOut_of_assemble {session : Session σ} {statement : Statement} {sql : String}
    {after : Compiler}
    (ok : statement.assemble session.escape session.compiler = (.ok sql, after)) :
    session.carryOut statement = { session with compiler := after }.query sql := by
  rw [carryOut, assemble, ok]
  rfl

/-- The classification agrees with the builders, in both styles: the text that a statement is
handed over with is of the kind of the statement and tells whether it inserts. While results of
statements that change data are not kept, none of these statements is answered from the cache: it
is handed to the backend, or the link cannot be opened. -/
theorem writes_are_not_cached :
    (∀ (statement : Statement) (escape : Escape) (compiler after : Compiler) (sql : String),
      statement.assemble escape compiler = (.ok sql, after) → ∀ style : PlaceholderStyle,
        StatementKind.of (style.normalize sql) = statement.kind ∧
          givesId (style.normalize sql) = statement.inserts) ∧
    ∀ (backend : Backend σ) (session : Session (Recorded σ)) (statement : Statement)
      (sql : String) (after : Compiler), session.backend = backend.recording →
      session.cacheConfig.inserts = false → statement.kind = .mutating →
      statement.assemble session.escape session.compiler = (.ok sql, after) →
      let ran := session.carryOut statement
      ran.2.record.given.fromCache = false ∧
        ∃ route, route ≠ .cached ∧
          session.Exchange backend (backend.style.normalize sql) after.pending route ran.1
            ran.2.link ran.2.record.given.notices := by
  constructor
  · intro statement escape compiler after sql ok style
    exact kind_of_assemble ok style
  · intro backend session statement sql after recording off kind ok ran
    -- The query is a run of the session behind the assembly.
    let called := (({ session with compiler := after } : Session (Recorded σ)).logCall
      ("query(\"" ++ sql ++ "\")")).clearPending
    have run : ran = called.run sql after.pending := carryOut_of_assemble ok
    have own : called.backend = backend.recording := recording
    obtain ⟨route, exchange, fromCache⟩ := exchange_run own sql after.pending
    rw [← run] at exchange fromCache
    have other : route ≠ .cached := by
      -- An answer from the cache would be one that is kept.
      intro cached
      have kept := exchange.keeps_of_cached cached
      rw [(kind_of_assemble ok backend.style).1, kind] at kept
      -- The settings keep results of selections only, and this is none.
      have never : session.cacheConfig.keeps (decide (StatementKind.mutating = .mutating)) =
          false := by
        simp [CacheConfig.keeps, off]
      exact absurd (never.symm.trans kept) (by simp)
    refine ⟨by simpa [other] using fromCache, route, other, ?_⟩
    exact exchange.of_same rfl rfl rfl fun cached => absurd cached other

/-- The cache keeps selections, and a row is inserted. -/
theorem writes_are_not_cached_insert :
    let backend := Script.backend "scripted" .sqlite doubleQuotes
    let session : Session (Recorded Script) := {
      backend := backend.recording
      link := ⟨Script.start [] [] [], []⟩
      connection := ⟨"", none, none, .empty, true⟩
      compiler := .fresh true
      cacheConfig := ⟨true, "/c", .ofSeconds 60, true, false⟩
      cache := some ⟨"/c", .ofSeconds 60⟩
      trace := .default
      record := .fresh
      traceLog := []
      disk := .empty
      now := 0 }
    let statement : Statement := .insert "t" [("a", .int 1)]
    StatementKind.of "INSERT INTO t (a) VALUES (?1)" = .mutating ∧
      givesId "INSERT INTO t (a) VALUES (?1)" = true ∧
      (session.carryOut statement).2.record.given.fromCache = false := by
  intro backend session statement
  have style : backend.style.normalize "INSERT INTO t (a) VALUES (?1)" =
      "INSERT INTO t (a) VALUES (?1)" := by decide +kernel
  -- The column is numbered from one, as nothing is pending.
  have assembled : statement.assemble session.escape session.compiler =
      (.ok "INSERT INTO t (a) VALUES (?1)", ⟨true, [.int 1], false⟩) := by
    change statement.assemble doubleQuotes (.fresh true) = _
    simp only [statement]
    rfl
  obtain ⟨told, uncached⟩ := writes_are_not_cached (σ := Script)
  obtain ⟨kind, newId⟩ := told _ _ _ _ _ assembled backend.style
  rw [style] at kind newId
  exact ⟨kind, newId, (uncached _ _ _ _ _ rfl rfl rfl assembled).1⟩

/-- A selection into a new table is told to give rows, and while the cache keeps selections, the
second one is answered from the cache and never reaches the backend. -/
theorem selectInto_answered_from_cache :
    let backend := Script.backend "scripted" .sqlite doubleQuotes
    let session : Session (Recorded Script) := {
      backend := backend.recording
      link := ⟨Script.start [] [] [], []⟩
      connection := ⟨"", none, none, .empty, true⟩
      compiler := .fresh true
      cacheConfig := ⟨true, "/c", .ofSeconds 60, true, false⟩
      cache := some ⟨"/c", .ofSeconds 60⟩
      trace := .default
      record := .fresh
      traceLog := []
      disk := .empty
      now := 0 }
    let statement : Statement := .selectInto "n" [] "o" []
    let first := session.carryOut statement
    let second := first.2.carryOut statement
    StatementKind.of (backend.style.normalize "SELECT * INTO n FROM o") = .rows ∧
      first.2.record.lastQuery = some "SELECT * INTO n FROM o" ∧
      first.2.record.given.fromCache = false ∧ first.2.link.calls.length = 2 ∧
      second.2.record.given.fromCache = true ∧ second.2.link.calls.length = 2 := by
  decide +kernel

end Session

end Querent
