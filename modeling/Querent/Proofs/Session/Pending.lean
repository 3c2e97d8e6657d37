import Querent.Backend.Scripted
import Querent.Proofs.Session.Calls
import Querent.Proofs.Session.Operation

/-! Values that wait in a session for the statement that binds them, by the history of operations.
-/

namespace Querent

/-- An operation of the past: whether values were then handed over beside statements, and whether it
failed. -/
structure Turn where
  operation : Operation
  prepared : Bool
  failed : Bool

namespace Turn

/-- Whether nothing was left waiting behind an operation. -/
def empties (turn : Turn) : Bool :=
  turn.operation.empties turn.failed

/-- The values that wait behind operations of the past, of which the latest is the first: those that
they brought along since nothing was left waiting, in the order of the operations. -/
def waiting (past : List Turn) : List Value :=
  (past.takeWhile fun turn => !turn.empties).reverse.flatMap fun turn =>
    turn.operation.offers turn.prepared

/-- One more operation leaves the values of those before it, and its own behind them, or nothing. -/
theorem waiting_cons (turn : Turn) (past : List Turn) :
    waiting (turn :: past) = turn.operation.leaves turn.prepared turn.failed (waiting past) := by
  -- The latest operation ends the run that is looked at, or adds its values to it at the end.
  unfold waiting Operation.leaves
  rw [List.takeWhile_cons]
  change (if !turn.empties then _ else _ : List Turn).reverse.flatMap _ =
    if turn.empties then _ else _
  cases turn.empties with
  | true => rfl
  | false => simp

end Turn

/-- An operation that runs a statement leaves nothing waiting. -/
theorem Operation.leaves_of_statement? {σ : Type} {session : Session σ} {operation : Operation}
    {sql : String} (given : session.statement? operation = some sql) (prepared failed : Bool)
    (waiting : List Value) : operation.leaves prepared failed waiting = [] := by
  have empties : operation.empties failed = true := by
    -- Only a statement that could not be built would have left something, and that is not run.
    cases operation <;> simp_all [Session.statement?, Operation.empties]
  rw [leaves, if_pos empties]

namespace Session

section

variable {σ : Type} (session : Session σ)

/-- The operations that a session was asked for; the latest is the first. -/
def turns : List Event → List Turn
  | [] => []
  | .ask operation :: earlier =>
    let before := session.after earlier
    ⟨operation, before.compiler.prepared, (before.serve operation).failed⟩ :: turns earlier
  | .pass _ _ :: earlier => turns earlier

/-- Later events are met behind the earlier ones. -/
theorem after_append (later earlier : List Event) :
    session.after (later ++ earlier) = (session.after earlier).after later := by
  induction later with
  | nil => rfl
  | cons event later ih => rw [List.cons_append, after, ih, after]

/-- Behind an operation, the values wait that it leaves. -/
theorem pending_serve (operation : Operation) :
    (session.serve operation).2.compiler.pending = operation.leaves session.compiler.prepared
      (session.serve operation).failed session.compiler.pending := by
  -- A run leaves a compiler that is cleared.
  cases given : session.statement? operation with
  | none => exact (serve_idle given).pending
  | some sql =>
    obtain ⟨compiler, lastCall, calls, answer, ran⟩ := runs_serve given
    obtain ⟨link, disk, before, behind, fromCache, notices, left, -⟩ := run_left _ sql _
    rw [Operation.leaves_of_statement? given, ran, Step.map_snd, left, finish_eq]
    rfl

/-- Where nothing is pending at first, what is pending is what waits by the history. -/
theorem pending_after (bare : session.compiler.pending = []) (events : List Event) :
    (session.after events).compiler.pending = Turn.waiting (session.turns events) := by
  -- Time and files that change leave the compiler alone.
  induction events with
  | nil => exact bare
  | cons event earlier ih =>
    cases event with
    | ask operation => rw [turns, Turn.waiting_cons, ← ih, after, meet, pending_serve]
    | pass now disk => exact ih

end

variable {σ : Type} {backend : Backend σ} {session : Session (Recorded σ)}

/-- A statement that an operation runs is handed over with the values of the operation. -/
theorem handsOver_serve (recording : session.backend = backend.recording) {operation : Operation}
    {sql : String} (given : session.statement? operation = some sql) :
    session.HandsOver (session.serve operation).2 (.handing (backend.style.normalize sql)
        (operation.hands session.compiler.prepared session.compiler.pending))
      (session.isConnected = true ∧ session.cache = none) := by
  obtain ⟨compiler, lastCall, calls, answer, ran⟩ := runs_serve given
  rw [ran, Step.map_snd]
  -- What was done before the run leaves the link alone.
  let called : Session (Recorded σ) :=
    { session with compiler := compiler.clear, record.lastCall := lastCall, record.calls := calls }
  exact called.handsOver_run recording sql _

/-- An idle session hands no statement over. -/
theorem calls_idle (recording : session.backend = backend.recording) {after : Session (Recorded σ)}
    {pending : List Value} (idle : session.Idle after pending) :
    ∃ calls, after.link.calls = session.link.calls ++ calls ∧
      ∀ call ∈ calls, call = .connect session.connection ∨ call = .disconnect := by
  have link := idle.link
  -- The link is left, opened or closed, and each of these is one call at most.
  rw [recording] at link
  rcases link with still | connected | disconnected
  · exact ⟨[], by rw [still, List.append_nil], by simp⟩
  · exact ⟨[.connect session.connection], congrArg Recorded.calls connected, by simp⟩
  · exact ⟨[.disconnect], congrArg Recorded.calls disconnected, by simp⟩

/-- After whatever a new session meets, the values wait that operations brought along since nothing
was left waiting. A statement is handed over with those, or with the list that it is given, and no
other operation hands a statement over. Behind a statement, only values wait that were brought along
later, so that no value is handed over twice. -/
theorem handsOver_by_history {link : Recorded σ} {config : SessionConfig} {disk : Disk} {now : Int}
    (started : start backend.recording link config disk now = .ok session) (events : List Event) :
    let current := session.after events
    let waiting := Turn.waiting (session.turns events)
    current.compiler.pending = waiting ∧
    (∀ operation sql, current.statement? operation = some sql →
      current.HandsOver (current.serve operation).2 (.handing (backend.style.normalize sql)
          (operation.hands current.compiler.prepared waiting))
        (current.isConnected = true ∧ current.cache = none)) ∧
    (∀ operation, current.statement? operation = none →
      ∃ calls, (current.serve operation).2.link.calls = current.link.calls ++ calls ∧
        ∀ call ∈ calls, call = .connect current.connection ∨ call = .disconnect) ∧
    ∀ later operation earlier sql, events = later ++ .ask operation :: earlier →
      (session.after earlier).statement? operation = some sql →
        waiting = Turn.waiting ((session.after (.ask operation :: earlier)).turns later) := by
  intro current waiting
  obtain ⟨recording, -, -, fresh⟩ := new_of_start started
  -- A new session has nothing pending, which is where the history begins.
  have bare : session.compiler.pending = [] := by
    rw [fresh]
    rfl
  have recording' : current.backend = backend.recording :=
    (backend_after session events).trans recording
  have pending : current.compiler.pending = waiting := session.pending_after bare events
  refine ⟨pending, ?_, ?_, ?_⟩
  · -- An operation with a statement hands over what is pending, or its own list.
    intro operation sql given
    rw [← pending]
    exact handsOver_serve recording' given
  · intro operation given
    exact calls_idle recording' (serve_idle given)
  · rintro later operation earlier sql rfl given
    -- The later operations begin with nothing pending.
    have emptied : (session.after (.ask operation :: earlier)).compiler.pending = [] := by
      rw [after, meet, pending_serve, Operation.leaves_of_statement? given]
    rw [← pending, ← pending_after _ emptied later, ← after_append]

/-- The value of a clause is used up by a deletion that fails, so that the next deletion is handed
the value of the clause behind that alone. -/
theorem handsOver_behind_failure :
    let backend := Script.backend "scripted" .postgres doubleQuotes
    let script := Script.start [] []
      [{ Reply.plain with failure := some (.execution "no such table: t") }]
    let id (number : Int64) : Condition :=
      .comparison ⟨"id", some "=", .single (.int number), none, none⟩
    let events : List Event := [.ask (.clause false [id 2]),
      .ask (.query "DELETE FROM t WHERE id = ?1"), .ask (.clause false [id 1])]
    let deletion := Operation.query "DELETE FROM u WHERE id = ?1"
    ∃ session, start backend.recording ⟨script, []⟩ (.sqlite "a.db") .empty 0 = .ok session ∧
      let current := session.after events
      current.statement? deletion = some "DELETE FROM u WHERE id = ?1" ∧
        (current.serve deletion).2.link.calls = current.link.calls ++
          [.executePrepared "DELETE FROM u WHERE id = $1" [.int 2] .mutating] := by
  intro backend script id events deletion
  have started : start backend.recording ⟨script, []⟩ (.sqlite "a.db") .empty 0 = .ok _ := rfl
  refine ⟨_, started, ?_⟩
  intro current
  -- The value 1 is gone with the failure, and only the clause behind it counts.
  have given : current.statement? deletion = some "DELETE FROM u WHERE id = ?1" := rfl
  have certain : current.isConnected = true ∧ current.cache = none := ⟨rfl, rfl⟩
  have handing : Call.handing (PlaceholderStyle.postgres.normalize "DELETE FROM u WHERE id = ?1")
      [.int 2] = .executePrepared "DELETE FROM u WHERE id = $1" [.int 2] .mutating := rfl
  obtain ⟨-, handed, -⟩ := handsOver_by_history started events
  have dispatched := handed deletion _ given
  unfold HandsOver at dispatched
  obtain ⟨calls, made, -, direct⟩ := dispatched
  refine ⟨given, ?_⟩
  rw [made, direct certain, ← handing]
  rfl

end Session

end Querent
