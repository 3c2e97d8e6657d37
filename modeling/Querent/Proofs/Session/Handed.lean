import Querent.Backend.Scripted
import Querent.Proofs.Session.Calls
import Querent.Proofs.Statement.Quiet
import Querent.Session.Statement

/-! What a database is handed when a session builds a statement and runs it. -/

namespace Querent

namespace Session

variable {σ : Type}

/-- The session after a statement is built and run; a selection is run for its rows. -/
def afterBuilding (session : Session σ) : Statement → Session σ
  | .select table columns modifiers => (session.selecting table columns modifiers).2
  | statement => (session.carryOut statement).2

/-- Every statement is built and run in the same way. -/
theorem link_afterBuilding (session : Session σ) (statement : Statement) :
    (session.afterBuilding statement).link = (session.carryOut statement).2.link := by
  -- To take the rows out of a result makes no call.
  unfold afterBuilding
  split
  · unfold selecting
    rw [link_andThen fun _ _ => rfl]
  · rfl

/-- In the style of SQLite no mark is changed. -/
theorem mark_sqlite (c : Char) : PlaceholderStyle.sqlite.mark c = c := by
  unfold PlaceholderStyle.mark
  split
  · next marked => exact marked.symm
  · rfl

variable {backend : Backend σ} {session : Session (Recorded σ)} {statement : Statement}

/-- A statement that cannot be assembled is not handed over. A statement of quiet texts that is
assembled reaches the database at most once, as it was assembled but for the blanks around it and
the marks of the style, and together with what was pending and what it binds, so that its
placeholders are the places of the values that it binds. -/
theorem handsOver_afterBuilding (recording : session.backend = backend.recording)
    (prepared : session.compiler.prepared = true)
    (quiet : ∀ text ∈ statement.givenTexts, Quiet text) :
    (∀ fault after, statement.assemble session.escape session.compiler = (.error fault, after) →
      (session.afterBuilding statement).link.calls = session.link.calls) ∧
    ∀ sql after, statement.assemble session.escape session.compiler = (.ok sql, after) →
      ∃ text : String,
        (backend.style = .sqlite → text = trim sql) ∧
        (backend.style = .postgres →
          text.toList = (trim sql).toList.map fun c => if c = '?' then '$' else c) ∧
        markers (trim sql).toList = (List.range' (session.compiler.pending.length + 1)
          statement.bound.length).map (Nat.toDigits 10) ∧
        session.HandsOver (session.afterBuilding statement)
          (.handing text (session.compiler.pending ++ statement.bound))
          (session.isConnected = true ∧ session.cache = none) := by
  unfold HandsOver
  rw [link_afterBuilding, carryOut, assemble]
  constructor
  · intro fault after failed
    rw [failed]
    rfl
  · intro sql after assembled
    rw [assembled]
    -- Texts that hold no mark leave the marks to the values that are bound.
    obtain ⟨shown, marked, kept⟩ := normalize_of_assemble quiet prepared assembled backend.style
    refine ⟨backend.style.normalize sql, ?_, ?_, marked, ?_⟩
    · -- The style of the placeholders is kept.
      intro style
      rw [style] at shown ⊢
      rw [funext mark_sqlite, List.map_id'] at shown
      exact String.toList_inj.mp shown
    · intro style
      rw [style] at shown ⊢
      exact shown
    · -- What is pending behind the assembly is drained into the call.
      let called := ({ session with compiler := after } : Session (Recorded σ)).logCall
        ("query(\"" ++ sql ++ "\")")
      have run := called.clearPending.handsOver_run recording sql after.pending
      rw [← kept]
      exact run

/-- A value is pending when an update is built, and a database in the style of PostgreSQL is handed
it in front of the values of the update. -/
theorem handsOver_update :
    let backend := Script.backend "scripted" .postgres doubleQuotes
    let range : Comparison := ⟨"d", some "between", .single (.int 1), some (.int 2), none⟩
    let statement : Statement := .update "t" [("a", .text "it's ?1")] [.comparison range]
    let session : Session (Recorded Script) := {
      backend := backend.recording
      link := ⟨{ Script.start [] [] [] with connected := true }, []⟩
      connection := ⟨"", none, none, .empty, true⟩
      compiler := ⟨true, [.int 7], false⟩
      cacheConfig := .default
      cache := none
      trace := .default
      record := .fresh
      traceLog := []
      disk := .empty
      now := 0 }
    session.backend = backend.recording ∧ session.compiler.prepared = true ∧
      (∀ text ∈ statement.givenTexts, Quiet text) ∧
      (session.afterBuilding statement).link.calls =
        [.executePrepared "UPDATE t SET a = $2 WHERE d BETWEEN $3 AND $4"
          [.int 7, .text "it's ?1", .int 1, .int 2] .mutating] := by
  intro backend range statement session
  have quiet : ∀ text ∈ statement.givenTexts, Quiet text := by decide
  refine ⟨rfl, rfl, quiet, ?_⟩
  have assembled : statement.assemble session.escape session.compiler =
      (.ok "UPDATE t SET a = ?2 WHERE d BETWEEN ?3 AND ?4",
        ⟨true, [.int 7, .text "it's ?1", .int 1, .int 2], false⟩) := by
    change statement.assemble doubleQuotes ⟨true, [.int 7], false⟩ = _
    simp only [statement, range]
    rfl
  have kind : StatementKind.of "UPDATE t SET a = $2 WHERE d BETWEEN $3 AND $4" = .mutating := by
    decide
  have recording : session.backend = backend.recording := rfl
  have handed := handsOver_afterBuilding recording rfl quiet
  -- The law says which text arrives, and what is handed over with it.
  obtain ⟨text, -, marked, -, calls, made, -, direct⟩ := handed.2 _ _ assembled
  obtain rfl : text = "UPDATE t SET a = $2 WHERE d BETWEEN $3 AND $4" :=
    String.toList_inj.mp ((marked rfl).trans (by decide))
  rw [direct ⟨rfl, rfl⟩, Call.handing, kind] at made
  exact made

end Session

end Querent
