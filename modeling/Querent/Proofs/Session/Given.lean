import Querent.Backend.Scripted
import Querent.Proofs.Session.Operation

/-! What a session shows of its last statement: no result, an effect, or rows, and never a mixture.
-/

namespace Querent

/-- The forms of what the last statement gave. -/
inductive YieldForm
  | nothing
  | affected
  | rows
deriving DecidableEq, Repr

namespace Yield

/-- Whether everything that is shown of the last statement fits a form. -/
def HasForm (given : Yield) : YieldForm → Prop
  | .nothing =>
    given.outcome = .none ∧ given.rows = .none ∧ given.columns = [] ∧ given.rowCount = 0 ∧
      given.affected = 0 ∧ given.insertId = .none ∧ given.fromCache = false
  | .affected =>
    given.outcome = some (.affected given.affected given.insertId) ∧ given.rows = .none ∧
      given.columns = [] ∧ given.rowCount = 0
  | .rows =>
    ∃ set, given.outcome = some (.rows set) ∧ given.rows = some set ∧
      given.columns = set.columns ∧ given.rowCount = set.size ∧ given.affected = 0 ∧
        given.insertId = .none

/-- What is shown has one form at most, which the outcome tells. -/
theorem HasForm.unique {given : Yield} {form other : YieldForm} (has : given.HasForm form)
    (too : given.HasForm other) : form = other := by
  -- The outcome is none, an effect or rows, and never two of these.
  cases form <;> cases other <;> simp_all [HasForm]

/-- Nothing is shown where no statement gave anything. -/
theorem hasForm_none : Yield.none.HasForm .nothing :=
  ⟨rfl, rfl, rfl, rfl, rfl, rfl, rfl⟩

/-- What a result is shown as has the form of the result, whatever is noticed beside it. -/
theorem hasForm_absorb (result : QueryResult) (fromCache : Bool) (notices : List Notice) :
    ∃ form, { Yield.none.absorb result with
      fromCache := fromCache, notices := notices }.HasForm form := by
  -- What is absorbed fills in the fields of its own form alone.
  cases result with
  | affected count insertId => exact ⟨.affected, rfl, rfl, rfl, rfl⟩
  | rows set => exact ⟨.rows, set, rfl, rfl, rfl, rfl, rfl, rfl⟩

end Yield

namespace Session

variable {σ α : Type}

/-- Behind a run, the last statement is the one that was run, and what is shown has a form. If the
run fails, nothing is shown. -/
theorem form_of_run (session : Session σ) (sql : String) (values : List Value) :
    let after := (session.run sql values).2
    (∃ form, after.record.given.HasForm form) ∧
      after.record.lastQuery = some (session.backend.style.normalize sql) ∧
      ∀ failure, (session.run sql values).1 = .error failure → after.record.given = .none := by
  obtain ⟨link, disk, before, behind, fromCache, notices, left, -, -, spoilt, -⟩ :=
    session.run_left sql values
  intro after
  have now : after = _ := left.trans (finish_eq _ _)
  -- Of all that a run leaves, its outcome alone decides what is shown.
  rw [now, Record.failed_eq]
  refine ⟨?_, rfl, ?_⟩
  · cases outcome : (session.run sql values).1 with
    -- A failure leaves nothing of what was given, not even that it came from the cache.
    | error failure =>
      obtain ⟨rfl, rfl, -⟩ := spoilt failure outcome
      exact ⟨.nothing, Yield.hasForm_none⟩
    | ok result => exact Yield.hasForm_absorb result fromCache notices
  · intro failure outcome
    obtain ⟨rfl, rfl, -⟩ := spoilt failure outcome
    rw [outcome]
    rfl

/-- An operation keeps what is shown in a form. -/
theorem form_of_serve {session : Session σ} (formed : ∃ form, session.record.given.HasForm form)
    (operation : Operation) :
    ∃ form, (session.serve operation).2.record.given.HasForm form := by
  -- Either a statement is run, or what is shown stays as it is or is forgotten.
  cases given : session.statement? operation with
  | some sql =>
    obtain ⟨compiler, lastCall, calls, answer, ran⟩ := runs_serve given
    rw [ran, Step.map_snd]
    exact (form_of_run _ sql _).1
  | none =>
    rcases (serve_idle given).given with same | forgotten
    · rwa [same]
    · exact ⟨.nothing, forgotten ▸ Yield.hasForm_none⟩

/-- Whatever a session meets keeps what is shown in a form. -/
theorem form_of_after {session : Session σ} (formed : ∃ form, session.record.given.HasForm form)
    (events : List Event) : ∃ form, (session.after events).record.given.HasForm form := by
  -- Time and files that change show nothing new.
  induction events with
  | nil => exact formed
  | cons event earlier ih =>
    cases event with
    | ask operation => exact form_of_serve ih operation
    | pass now disk => exact ih

/-- After whatever a new session meets, what is shown has one of the forms and no other. An
operation that fails to run its statement leaves this as the last one, and nothing else of it or of
any before it. -/
theorem one_form {backend : Backend σ} {link : σ} {config : SessionConfig} {disk : Disk} {now : Int}
    {session : Session σ} (started : start backend link config disk now = .ok session)
    (events : List Event) :
    let current := session.after events
    (∃! form, current.record.given.HasForm form) ∧
      ∀ operation sql failure, current.statement? operation = some sql →
        (current.serve operation).1 = .error failure →
          (current.serve operation).2.record.given = .none ∧
            (current.serve operation).2.record.lastQuery = some (backend.style.normalize sql) := by
  intro current
  obtain ⟨rfl, -, fresh, -⟩ := new_of_start started
  constructor
  · -- A new session shows nothing, and every event keeps what is shown in a form.
    have formed : session.record.given.HasForm .nothing := by
      rw [fresh]
      exact Yield.hasForm_none
    obtain ⟨form, has⟩ := form_of_after ⟨.nothing, formed⟩ events
    exact ⟨form, has, fun other too => too.unique has⟩
  · intro operation sql failure given failed
    -- The operation runs its statement, and all it does besides is to change the answer.
    obtain ⟨compiler, lastCall, calls, answer, ran⟩ := runs_serve given
    rw [ran] at failed ⊢
    obtain ⟨-, last, nothing⟩ := form_of_run _ sql _
    refine ⟨nothing failure (Step.error_of_map failed), ?_⟩
    rw [Step.map_snd, last, ← backend_after session events]

/-- Rows are shown of a selection, and nothing is shown any more once the next one is refused. -/
theorem one_form_rows_then_refused :
    let backend := Script.backend "scripted" .sqlite doubleQuotes
    let set : List (List Value) := [[.int 1], [.null]]
    let script := Script.start [] [] [
      { Reply.plain with columns := some [some ⟨"a", "INTEGER", none⟩], rows := set },
      { Reply.plain with failure := some (.execution "no such table: u") }]
    ∃ session, start backend script (.sqlite "a.db") .empty 0 = .ok session ∧
      let current := session.after [.ask (.query "SELECT a FROM t")]
      let refused := current.serve (.query " SELECT a FROM u ")
      (current.record.given.HasForm .rows ∧ ∃! form, current.record.given.HasForm form) ∧
        refused.1 = .error (.execution "no such table: u") ∧
        refused.2.record.given = .none ∧
        refused.2.record.lastQuery = some "SELECT a FROM u" := by
  intro backend set script
  have started : start backend script (.sqlite "a.db") .empty 0 = .ok _ := rfl
  refine ⟨_, started, ?_⟩
  intro current refused
  -- The script gives rows for the first statement and refuses the second one.
  have rows : current.record.given.HasForm .rows := ⟨_, rfl, rfl, rfl, rfl, rfl, rfl⟩
  have failed : refused.1 = .error (.execution "no such table: u") := rfl
  obtain ⟨single, behind⟩ := one_form started [.ask (.query "SELECT a FROM t")]
  obtain ⟨nothing, last⟩ := behind (.query " SELECT a FROM u ") _ _ rfl failed
  exact ⟨⟨rows, single⟩, failed, nothing, last⟩

end Session

end Querent
