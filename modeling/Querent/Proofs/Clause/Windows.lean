import Mathlib.Data.List.DropRight
import Querent.Proofs.Session.Operation

/-! What a clause reads back from the pending values while calls add more of them: its own values,
in a window of its own. -/

namespace Querent

/-- The values that a call brings along. -/
def CompilerCall.offers (prepared : Bool) : CompilerCall → List Value
  | .clause _ _ conditions => if prepared then conditions.flatMap Condition.bound else []
  | .statement _ built => if prepared then built.bound else []
  | _ => []

/-- A call of the past, with the compiler that it was made to. -/
structure Served where
  call : CompilerCall
  before : Compiler

namespace Served

/-- What was given back to a call. -/
def answer (served : Served) : CompilerAnswer :=
  (served.before.serve served.call).1

/-- The compiler behind a call. -/
def after (served : Served) : Compiler :=
  (served.before.serve served.call).2

/-- The values that a call brought along. -/
def offers (served : Served) : List Value :=
  served.call.offers served.before.prepared

/-- The clause that was compiled, if the call was for one. -/
def clause? (served : Served) : Option Clause :=
  match served.answer with
  | .clause made => made.toOption
  | _ => none

/-- Whether a call left nothing pending: it cleared or took what was pending, or failed. -/
def empties (served : Served) : Bool :=
  match served.call with
  | .clear => true
  | .take => true
  | _ => served.answer.failed

/-- The calls since nothing was left pending, in their order. -/
def recent (past : List Served) : List Served :=
  past.rtakeWhile fun served => !served.empties

/-- What a call has among pending values: a clause what it reads back from them, and any other call
what it brought along. -/
def share (pending : List Value) (served : Served) : List Value :=
  match served.clause? with
  | some clause => clause.bound pending
  | none => served.offers

end Served

namespace Compiler

/-- Calls that are made to a compiler, each with the compiler that it is made to. -/
def served (compiler : Compiler) : List CompilerCall → List Served
  | [] => []
  | call :: later => ⟨call, compiler⟩ :: (compiler.serve call).2.served later

/-- A last call is made to the compiler that the calls before it leave. -/
theorem play_concat (compiler : Compiler) (calls : List CompilerCall) (call : CompilerCall) :
    (compiler.play (calls ++ [call])).2 = ((compiler.play calls).2.serve call).2 := by
  -- The compiler that the calls start from changes along the list.
  induction calls generalizing compiler with
  | nil => rfl
  | cons first calls ih => exact ih (compiler.serve first).2

/-- A last call is listed behind the calls before it. -/
theorem served_concat (compiler : Compiler) (calls : List CompilerCall) (call : CompilerCall) :
    compiler.served (calls ++ [call]) =
      compiler.served calls ++ [⟨call, (compiler.play calls).2⟩] := by
  induction calls generalizing compiler with
  | nil => rfl
  | cons first calls ih => exact congrArg (⟨first, compiler⟩ :: ·) (ih (compiler.serve first).2)

end Compiler

namespace Served

/-- Values that a step of a compiler adds, unless it fails. -/
theorem pending_of_adds {α : Type} {compiler : Compiler} {step : Except ClauseFault α × Compiler}
    {values : List Value} (adds : Session.Adds compiler step values) {failed : Bool}
    (told : failed = !step.1.isOk) :
    step.2.pending = if failed then [] else compiler.pending ++ values := by
  subst told
  -- A failure empties what is pending, and an answer comes with the values added.
  cases outcome : step.1 with
  | error fault => exact adds.failed fault outcome
  | ok answer => exact adds.made answer outcome

/-- Behind a call, nothing is pending, or what it brought along is pending behind what was. -/
theorem pending_after (served : Served) :
    served.after.pending =
      if served.empties then [] else served.before.pending ++ served.offers := by
  obtain ⟨call, before⟩ := served
  -- The calls that can fail add what they bring along; the others are read off.
  cases call with
  | clause announced escape conditions =>
    cases announced with
    | true =>
      refine pending_of_adds (Session.adds_compileHaving before escape conditions) ?_
      show (CompilerAnswer.clause (before.compileHaving escape conditions).1).failed = _
      cases (before.compileHaving escape conditions).1 <;> rfl
    | false =>
      refine pending_of_adds (Session.adds_compile before escape conditions) ?_
      show (CompilerAnswer.clause (before.compile escape conditions).1).failed = _
      cases (before.compile escape conditions).1 <;> rfl
  | statement escape statement =>
    refine pending_of_adds (Session.adds_assemble before escape statement) ?_
    show (CompilerAnswer.statement (statement.assemble escape before).1).failed = _
    cases (statement.assemble escape before).1 <;> rfl
  | clear => rfl
  | take => rfl
  | setPrepared on => exact (List.append_nil _).symm

/-- A clause that compiles has its window behind what was pending, as long as what it binds. -/
theorem window_of_compile {before after : Compiler} {escape : Escape} {conditions : List Condition}
    {clause : Clause} (made : before.compile escape conditions = (.ok clause, after)) :
    clause.first = before.pending.length ∧ clause.count =
      (if before.prepared then conditions.flatMap Condition.bound else []).length := by
  -- The compiled clause is its template, written behind what is pending.
  obtain ⟨bound, compiled, rfl, -⟩ := Assembly.eq_of_compile made
  obtain ⟨rfl, values⟩ := Assembly.compileClause_eq_write compiled
  refine ⟨rfl, ?_⟩
  rw [← values, Template.write, Compiler.binding]
  split <;> rfl

/-- The window of a clause is behind what was pending before the call, and has room for what the
call brought along. -/
theorem window_eq {served : Served} {clause : Clause} (made : served.clause? = some clause) :
    clause.first = served.before.pending.length ∧ clause.count = served.offers.length := by
  obtain ⟨call, before⟩ := served
  cases call with
  | clause announced escape conditions =>
    -- An announced clause is compiled by a compiler that differs in the announcement.
    have told : ∀ announcing : Compiler,
        (announcing.compile escape conditions).1.toOption = some clause →
          announcing.compile escape conditions =
            (.ok clause, (announcing.compile escape conditions).2) := by
      intro announcing made
      generalize announcing.compile escape conditions = step at made ⊢
      obtain ⟨outcome, after⟩ := step
      cases outcome with
      | error fault => cases made
      | ok _ => rw [Option.some.inj made]
    cases announced with
    | true =>
      have window := window_of_compile (told { before with havingNext := true } made)
      exact window
    | false => exact window_of_compile (told before made)
  | _ => cases made

/-- Whether calls stand one behind another among pending values: each was made when what the calls
before it brought along was pending, behind a number of other values. -/
inductive Tiled : Nat → List Served → Prop
  | nil (start : Nat) : Tiled start []
  | cons {start : Nat} {served : Served} {later : List Served}
      (placed : served.before.pending.length = start)
      (others : Tiled (start + served.offers.length) later) : Tiled start (served :: later)

variable {start : Nat} {past : List Served}

/-- A last call stands behind all others. -/
theorem Tiled.concat {served : Served} (tiled : Tiled start past)
    (placed : served.before.pending.length = start + (past.flatMap offers).length) :
    Tiled start (past ++ [served]) := by
  -- What stands behind the first call starts where that call ends.
  induction tiled with
  | nil start => exact .cons placed (.nil _)
  | cons first others ih =>
    rw [List.flatMap_cons, List.length_append] at placed
    exact .cons first (ih (placed.trans (Nat.add_assoc ..).symm))

/-- A clause reads back what its call brought along, whatever stands before and behind it. -/
theorem Tiled.share_eq {front : List Value} (tiled : Tiled front.length past) (back : List Value) :
    ∀ served ∈ past, served.share (front ++ past.flatMap offers ++ back) = served.offers := by
  -- The induction is on the calls, while the front grows by what each brought along.
  generalize at_ : front.length = start at tiled
  induction tiled generalizing front with
  | nil => exact fun _ mem => absurd mem List.not_mem_nil
  | @cons start first later placed others ih =>
    intro served mem
    rw [List.flatMap_cons]
    rcases List.mem_cons.mp mem with rfl | behind
    · unfold share
      split
      · next clause made =>
        obtain ⟨begins, long⟩ := window_eq made
        rw [placed, ← at_] at begins
        -- The window begins behind the front, and ends before what comes later.
        have fits : clause.first + clause.count ≤
            (front ++ (served.offers ++ later.flatMap offers) ++ back).length := by
          simp only [List.length_append]
          omega
        rw [Clause.bound, if_pos fits, begins, long, List.append_assoc, List.drop_left,
          List.append_assoc, List.take_left]
      · rfl
    · -- For the calls behind it, the first one is part of the front.
      have longer : (front ++ first.offers).length = start + first.offers.length := by
        rw [List.length_append, at_]
      have rest := ih longer served behind
      rwa [List.append_assoc front] at rest

/-- The windows of clauses begin where the calls begin, at the earliest. -/
theorem Tiled.le_first (tiled : Tiled start past) :
    ∀ clause ∈ past.filterMap clause?, start ≤ clause.first := by
  induction tiled with
  | nil => exact fun _ mem => absurd mem List.not_mem_nil
  | @cons start served later placed others ih =>
    intro clause mem
    rw [List.filterMap_cons] at mem
    -- A call that gave no clause has no window, and one that did begins at the start.
    split at mem
    · exact Nat.le_trans (Nat.le_add_right ..) (ih clause mem)
    · next own made =>
      rcases List.mem_cons.mp mem with rfl | behind
      · exact Nat.le_of_eq ((window_eq made).1.trans placed).symm
      · exact Nat.le_trans (Nat.le_add_right ..) (ih clause behind)

/-- The windows of clauses follow one another in the order of the calls. -/
theorem Tiled.pairwise (tiled : Tiled start past) :
    (past.filterMap clause?).Pairwise fun clause next =>
      clause.first + clause.count ≤ next.first := by
  induction tiled with
  | nil => exact .nil
  | @cons start served later placed others ih =>
    rw [List.filterMap_cons]
    split
    · exact ih
    · next clause made =>
      -- What comes later begins behind what this call brought along.
      refine .cons (fun next mem => ?_) ih
      obtain ⟨begins, long⟩ := window_eq made
      rw [begins, long, placed]
      exact others.le_first next mem

/-- One more call leaves those before it, and stands behind them, unless it left nothing pending. -/
theorem recent_concat (past : List Served) (served : Served) :
    recent (past ++ [served]) = if served.empties then [] else recent past ++ [served] := by
  -- Reading from the end, the last call decides whether any before it count.
  unfold recent
  rw [List.rtakeWhile_concat]
  cases served.empties <;> rfl

/-- A call since nothing was left pending did not leave nothing pending. -/
theorem empties_of_mem_recent {served : Served} (mem : served ∈ recent past) :
    served.empties = false := by
  simpa using List.mem_rtakeWhile_imp mem

end Served

namespace Compiler

open Served in
/-- What is pending in a compiler that was new is what the calls since nothing was left pending
brought along, each behind those before it. -/
theorem tiled_of_play (prepared : Bool) (calls : List CompilerCall) :
    let past := recent ((fresh prepared).served calls)
    ((fresh prepared).play calls).2.pending = past.flatMap offers ∧ Tiled 0 past := by
  -- The calls are taken from the end: a call that leaves nothing pending starts over.
  induction calls using List.reverseRecOn with
  | nil => exact ⟨rfl, .nil 0⟩
  | append_singleton calls call ih =>
    obtain ⟨whole, tiled⟩ := ih
    have last := pending_after ⟨call, ((fresh prepared).play calls).2⟩
    rw [play_concat, served_concat, recent_concat]
    rw [after] at last
    rw [last]
    cases emptied : Served.empties ⟨call, ((fresh prepared).play calls).2⟩ with
    | true => exact ⟨rfl, .nil 0⟩
    | false =>
      refine ⟨?_, tiled.concat ?_⟩
      · simp [whole]
      · rw [whole, Nat.zero_add]

/-- After any calls to a new compiler, those since nothing was left pending share what is pending,
in their order and without a rest: a clause reads back the values that it added, which are those
that its conditions bind, and each other call has what it added. The windows of the clauses follow
one another in the order in which they were compiled, so that no two of them overlap. -/
theorem shares_of_play (prepared : Bool) (calls : List CompilerCall) :
    let pending := ((fresh prepared).play calls).2.pending
    let past := Served.recent ((fresh prepared).served calls)
    pending = past.flatMap (Served.share pending) ∧
      (∀ served ∈ past, served.share pending = served.offers ∧
        served.after.pending = served.before.pending ++ served.share pending) ∧
      (past.filterMap Served.clause?).Pairwise fun clause next =>
        clause.first + clause.count ≤ next.first := by
  intro pending past
  obtain ⟨whole, tiled⟩ := tiled_of_play prepared calls
  have shares : ∀ served ∈ past, served.share pending = served.offers := by
    -- Nothing stands in front of them.
    have front : Served.Tiled ([] : List Value).length past := tiled
    have placed := front.share_eq []
    rwa [List.nil_append, List.append_nil, ← whole] at placed
  -- Without a rest, the shares are what the calls brought along.
  refine ⟨?_, fun served mem => ⟨shares served mem, ?_⟩, tiled.pairwise⟩
  · calc
      pending = past.flatMap Served.offers := whole
      _ = past.flatMap (Served.share pending) := (List.flatMap_congr shares).symm
  · rw [shares served mem, served.pending_after, Served.empties_of_mem_recent mem]
    rfl

/-- Behind a failure, a range is compiled, a clause with a literal, an insertion and a HAVING
clause. Of the five values that are pending then, the range still reads back the first two. -/
theorem shares_of_play_range :
    let age : Comparison := ⟨"age", some "between", .single (.int 18), some (.int 65), none⟩
    let name : Comparison := ⟨"name", some "=", .single (.text "O'Brien"), none, none⟩
    let pattern : Comparison := ⟨"name", some "like", .single (.text "bob"), none, none⟩
    let total : Comparison := ⟨"total", some "in", .list [.int 3, .int 4], none, none⟩
    let clause (announced : Bool) (terms : Comparison) : CompilerCall :=
      .clause announced doubleQuotes [.comparison terms]
    let calls : List CompilerCall := [clause false age, clause false pattern, clause false age,
      .setPrepared false, clause false name, .setPrepared true,
      .statement doubleQuotes (.insert "t" [("a", .int 1), ("b", .null)]), clause true total]
    let pending := ((fresh true).play calls).2.pending
    let past := Served.recent ((fresh true).served calls)
    let ranged : Served := ⟨clause false age, fresh true⟩
    let range : Clause := ⟨.filter, "WHERE age BETWEEN ?1 AND ?2", 0, 2⟩
    let literal : Clause := ⟨.filter, "WHERE name = 'O''Brien'", 2, 0⟩
    let having : Clause := ⟨.having, "HAVING total IN (?4, ?5)", 3, 2⟩
    pending = [.int 18, .int 65, .int 1, .int 3, .int 4] ∧ ranged ∈ past ∧
      ranged.clause? = some range ∧ range.bound pending = [.int 18, .int 65] ∧
      past.filterMap Served.clause? = [range, literal, having] ∧
      [range, literal, having].Pairwise fun clause next =>
        clause.first + clause.count ≤ next.first := by
  intro age name pattern total clause calls pending past ranged range literal having
  have values : pending = [.int 18, .int 65, .int 1, .int 3, .int 4] := by
    simp only [pending, calls, clause, age, name, pattern, total]
    rfl
  -- The range is the first of the calls behind the failure.
  have first : past = ranged :: past.tail := by
    simp only [past, ranged, calls, clause, age, name, pattern, total]
    rfl
  have there : ranged ∈ past := first ▸ List.mem_cons_self
  have made : ranged.clause? = some range := by decide +kernel
  have clauses : past.filterMap Served.clause? = [range, literal, having] := by decide +kernel
  obtain ⟨-, shares, windows⟩ := shares_of_play true calls
  -- Its share is what its clause reads back, and what it brought along.
  have read : ranged.share pending = ranged.offers := (shares ranged there).1
  rw [Served.share, made] at read
  rw [clauses] at windows
  exact ⟨values, there, made, read, clauses, windows⟩

end Compiler

end Querent
