import Querent.Proofs.Session.Outcome

/-! What goes over the link of a session when it runs a statement. -/

namespace Querent

/-- The call that hands a statement over, with its values if it binds any. -/
def Call.handing (sql : String) (values : List Value) : Call :=
  if values.isEmpty then .execute sql (.of sql) else .executePrepared sql values (.of sql)

namespace Session

section

variable {σ α β : Type}

/-- Steps that leave the link alone are no part of what went over it. -/
theorem link_andThen {step : Step σ α} {next : α → Session σ → Step σ β}
    (still : ∀ answer session, (next answer session).2.link = session.link) :
    (step.andThen next).2.link = step.2.link := by
  obtain ⟨outcome, session⟩ := step
  cases outcome with
  | error failure => rfl
  | ok answer => exact still answer session

variable (session : Session σ)

/-- Asking for a report makes no call. -/
theorem link_heed : session.heed.2.link = session.link := by
  obtain ⟨notices, left, -⟩ := session.heed_left
  rw [left]

/-- Making records of a statement makes no call. -/
theorem link_finish (timer : Nat) : (session.finish timer).link = session.link := by
  rw [finish_eq]

/-- Keeping a result makes no call. -/
theorem link_keep (text : String) (result : QueryResult) :
    (session.keep text result).link = session.link := by
  obtain ⟨disk, failures, left, -⟩ := session.keep_left text result
  rw [left]

/-- What is performed goes over the link when it is dispatched. -/
theorem link_perform (timer : Nat) (statement : String) (values : List Value)
    (text : Option String) :
    (session.perform timer statement values text).2.link =
      (session.dispatch statement values).2.link := by
  unfold perform
  split
  · next failure after dispatched =>
    rw [link_finish, dispatched]
    rfl
  · next result after dispatched =>
    -- Keeping the result and ending the statement are no calls.
    rw [link_finish, dispatched]
    split
    · rfl
    · exact link_keep _ _ _

/-- Behind a link that was reached, only the handing over makes a call. -/
theorem link_dispatch (statement : String) (values : List Value) :
    (session.dispatch statement values).2.link =
      (session.reach.andThen fun _ session => session.send statement values).2.link := by
  unfold dispatch
  rcases session.reach with ⟨failure | reached, after⟩
  · rfl
  · -- Neither the report nor the result takes a call of its own.
    have rest : ∀ execution (session : Session σ), (session.heed.andThen fun _ session =>
        (.ok (session.resultOf statement execution), session)).2.link = session.link := by
      intro execution session
      rw [link_andThen fun _ _ => rfl]
      exact session.link_heed
    exact link_andThen rest

end

variable {σ : Type} {backend : Backend σ} (session : Session (Recorded σ))

/-- Handing a statement over is a call. -/
theorem calls_send (recording : session.backend = backend.recording) (statement : String)
    (values : List Value) :
    (session.send statement values).2.link.calls =
      session.link.calls ++ [.handing statement values] := by
  unfold send Call.handing
  rw [recording]
  -- With and without values there is one call.
  cases values.isEmpty <;> rfl

/-- Whether what went over the link between two sessions is a call to connect, at most, and behind
it a given call, at most; and where something is certain, that call alone. -/
def HandsOver (before after : Session (Recorded σ)) (handed : Call) (certain : Prop) : Prop :=
  ∃ calls, after.link.calls = before.link.calls ++ calls ∧
    calls.Sublist [.connect before.connection, handed] ∧ (certain → calls = [handed])

/-- A statement is dispatched by connecting, where the link is not open, and handing it over. -/
theorem handsOver_dispatch (recording : session.backend = backend.recording) (statement : String)
    (values : List Value) :
    session.HandsOver (session.dispatch statement values).2 (.handing statement values)
      (session.isConnected = true) := by
  unfold HandsOver
  rw [link_dispatch]
  unfold reach
  by_cases connected : session.isConnected = true
  · -- Over an open link the statement is handed over at once.
    rw [if_pos connected]
    have handed := session.calls_send recording statement values
    exact ⟨_, handed, List.sublist_cons_self .., fun _ => rfl⟩
  · rw [if_neg connected]
    unfold dial
    split
    · -- Connecting is a call, and what follows depends on how it ends.
      have dialed : (session.backend.connect session.connection session.link).2.calls =
          session.link.calls ++ [.connect session.connection] := by
        rw [recording]
        rfl
      generalize session.backend.connect session.connection session.link = tried at dialed
      obtain ⟨outcome, link⟩ := tried
      cases outcome with
      | error failure => exact ⟨_, dialed, by simp, fun certain => absurd certain connected⟩
      | ok reached =>
        let reached := { session with link := link }
        have handed := reached.calls_send recording statement values
        refine ⟨[.connect session.connection, .handing statement values], ?_, .refl _,
          fun certain => absurd certain connected⟩
        refine handed.trans ?_
        rw [dialed, List.append_assoc]
        rfl
    · -- Without credentials nothing goes over the link.
      exact ⟨[], (List.append_nil _).symm, List.nil_sublist _,
        fun certain => absurd certain connected⟩

/-- A statement is performed by dispatching it. -/
theorem handsOver_perform (recording : session.backend = backend.recording) (timer : Nat)
    (statement : String) (values : List Value) (text : Option String) :
    session.HandsOver (session.perform timer statement values text).2 (.handing statement values)
      (session.isConnected = true) := by
  unfold HandsOver
  rw [link_perform]
  exact session.handsOver_dispatch recording statement values

/-- A statement that is run is handed over in the style of the backend, unless the cache has its
result. -/
theorem handsOver_run (recording : session.backend = backend.recording) (sql : String)
    (values : List Value) :
    session.HandsOver (session.run sql values).2
      (.handing (backend.style.normalize sql) values)
      (session.isConnected = true ∧ session.cache = none) := by
  have style : session.backend.style = backend.style := by rw [recording]; rfl
  unfold run
  simp only [style]
  generalize backend.style.normalize sql = statement
  -- To begin a statement is only to record it.
  generalize (session.begin statement).record.queries = timer
  split
  · obtain ⟨disk, failures, changed, -, without⟩ :=
      (session.begin statement).consult_left (cacheText statement values)
    split
    · next result after consulted =>
      -- An answer of the cache makes no call, and there is none without a cache.
      rw [consulted] at changed without
      obtain rfl : after = _ := changed
      refine ⟨[], ?_, List.nil_sublist _, ?_⟩
      · rw [answer, link_finish, List.append_nil]
        rfl
      · rintro ⟨-, none⟩
        cases (without none).2
    · next after consulted =>
      -- The session that performs the statement differs in its disk and its record.
      rw [consulted] at changed
      obtain rfl : after = _ := changed
      let missed := { session.begin statement with
        disk := disk, record := (session.begin statement).record.failed failures }
      obtain ⟨calls, made, within, direct⟩ := missed.handsOver_perform recording timer statement
        values (some (cacheText statement values))
      exact ⟨calls, made, within, fun certain => direct certain.1⟩
  · obtain ⟨calls, made, within, direct⟩ :=
      (session.begin statement).handsOver_perform recording timer statement values none
    exact ⟨calls, made, within, fun certain => direct certain.1⟩

end Session

end Querent
