import Querent.Backend.Scripted
import Querent.Proofs.Session.CacheText
import Querent.Proofs.Session.Operation

/-! Rows, columns and values of the last result, which are all read from the same rows. -/

namespace Querent

/-- Whether a view of rows is put together from a view of each, in their order: it is the list of
what these show, or for JSON an array of their texts. -/
inductive RowsView.PutTogether : Shape → List RowView → RowsView → Prop
  | object (rows : List Row) : PutTogether .object (rows.map .object) (.object rows)
  | associative (rows : List (List (String × Value))) :
      PutTogether .associative (rows.map .associative) (.associative rows)
  | positional (rows : List (List Value)) :
      PutTogether .positional (rows.map .positional) (.positional rows)
  | json (texts : List String) :
      PutTogether .json (texts.map .json) (.json ("[" ++ joinWith "," texts ++ "]"))

/-- An array is written as its items, with commas between them. -/
theorem Json.render_array (items : List Json) :
    (array items).render = "[" ++ joinWith "," (items.map render) ++ "]" := by
  rw [← String.toList_inj]
  simp [render, print, joinWith_render]

/-- The view of some rows is put together from those of each. -/
theorem RowsView.putTogether_ofRows (shape : Shape) (rows : List Row) :
    PutTogether shape (rows.map (Row.view shape)) (ofRows shape rows) := by
  -- In each shape, what the rows show is mapped twice, where the constructor asks for one list.
  cases shape with
  | object => exact .object rows
  | associative =>
    have each := PutTogether.associative (rows.map Row.pairs)
    rwa [List.map_map] at each
  | positional =>
    have each := PutTogether.positional (rows.map Row.values)
    rwa [List.map_map] at each
  | json =>
    have each := PutTogether.json ((rows.map Row.toJson).map Json.render)
    rw [← Json.render_array, List.map_map, List.map_map] at each
    exact each

/-- The value of a row in a column, unless it is null. -/
def Row.cell (column : Nat) (row : Row) : Option Value :=
  row.values[column]?.filter fun value => !value.isNull

/-- What is read of a result. -/
inductive Reading
  | value (column row : Nat)
  | row (shape : Shape) (row : Nat)
  | column (column : Nat)
  | allRows (shape : Shape)

/-- The operation that reads something of the result of a statement, or of the last one. -/
def Operation.reading (sql : Option String) : Reading → Operation
  | .value column row => getValue sql column row
  | .row shape row => getRow sql shape row
  | .column column => getColumn sql column
  | .allRows shape => getResults sql shape

namespace Session

variable {σ : Type}

/-- Reads something of the result of a statement, or of the last one. -/
def read (session : Session σ) (sql : Option String) (reading : Reading) : Step σ Answer :=
  session.serve (.reading sql reading)

/-- A value of the last result stands in one of its rows, if there is such a row. -/
theorem valueAt?_eq (session : Session σ) (column row : Nat) :
    session.valueAt? column row = (session.heldRows.map (Row.cell column))[row]?.join := by
  unfold valueAt? heldRows
  -- Without rows, there is no value on either side.
  cases session.record.given.rows with
  | none => rfl
  | some set =>
    show (set.values[row]?.bind fun values => values[column]?).filter (!·.isNull) =
      (set.rows.map (Row.cell column))[row]?.join
    rw [ResultSet.rows, List.map_map, List.getElem?_map]
    cases set.values[row]? <;> rfl

/-- A column of the last result has a value for each row. -/
theorem valuesAt_eq (session : Session σ) (column : Nat) :
    (List.range session.heldRows.length).map (session.valueAt? column) =
      session.heldRows.map (Row.cell column) := by
  refine List.ext_getElem? fun row => ?_
  rw [List.getElem?_map]
  -- Beyond the last row, neither list has anything.
  by_cases within : row < session.heldRows.length
  · rw [List.getElem?_range within, Option.map_some, valueAt?_eq]
    simp [within]
  · simp [within]

/-- What is read without a statement is told by the rows of the last result. -/
def shown (session : Session σ) : Reading → Answer
  | .value column row => .value (session.heldRows.map (Row.cell column))[row]?.join
  | .row shape row => .row (session.heldRows.map (Row.view shape))[row]?
  | .column column => .column (session.heldRows.map (Row.cell column))
  | .allRows shape => .allRows (.ofRows shape session.heldRows)

/-- A reading remembers the call, runs the statement if there is one, and answers what is shown
then. -/
theorem read_eq (session : Session σ) (sql : Option String) (reading : Reading) :
    ∃ name others, session.read sql reading =
      let ran := (session.logReading name sql others).queryIfGiven sql
      Step.map (fun _ => ran.2.shown reading) ran := by
  -- The answer in its own form is the one that is given back.
  have formed : ∀ {α : Type} (ran : Step σ Unit) (own : α) (give : α → Answer) {answer : Answer},
      give own = answer →
        Step.map give (Step.map (fun _ => own) ran) = Step.map (fun _ => answer) ran := by
    rintro α ⟨outcome, after⟩ own give _ rfl
    cases outcome <;> rfl
  -- The four readings differ by the words of the call and by what they read behind it.
  cases reading with
  | value column row =>
    refine ⟨"get_var", [toString column, toString row], ?_⟩
    rw [read, Operation.reading, serve, getValue, andThen_answer]
    exact formed _ _ _ (congrArg Answer.value (valueAt?_eq _ column row))
  | row shape row =>
    refine ⟨"get_row", [shape.word, toString row], ?_⟩
    rw [read, Operation.reading, serve, getRow, andThen_answer]
    exact formed _ _ _ (congrArg Answer.row List.getElem?_map.symm)
  | column column =>
    refine ⟨"get_col", [toString column], ?_⟩
    rw [read, Operation.reading, serve, getColumn, andThen_answer]
    exact formed _ _ _ (congrArg Answer.column (valuesAt_eq _ column))
  | allRows shape =>
    refine ⟨"get_results", [shape.word], ?_⟩
    rw [read, Operation.reading, serve, getResults, andThen_answer]
    exact formed _ _ _ rfl

/-- Without a statement, what is shown is read, and is shown as before. -/
theorem read_none (session : Session σ) (reading : Reading) :
    (session.read none reading).1 = .ok (session.shown reading) ∧
      (session.read none reading).2.record.given = session.record.given := by
  -- Without a statement, only the call is remembered.
  obtain ⟨name, others, answered⟩ := session.read_eq none reading
  rw [answered]
  cases reading <;> exact ⟨rfl, rfl⟩

/-- Behind a statement that does not fail, what is shown then is read. -/
theorem read_some {session : Session σ} {sql : String} {reading : Reading} {answer : Answer}
    (made : (session.read (some sql) reading).1 = .ok answer) :
    answer = (session.read (some sql) reading).2.shown reading := by
  obtain ⟨name, others, answered⟩ := session.read_eq (some sql) reading
  rw [answered] at made ⊢
  generalize queryIfGiven _ (some sql) = ran at made ⊢
  obtain ⟨outcome, after⟩ := ran
  -- The answer is taken from the session that the statement left.
  cases outcome with
  | error failure => cases made
  | ok _ => exact (Except.ok.inj made).symm

/-- Whether a reading without a statement answers something. -/
def Reads (session : Session σ) (reading : Reading) (answer : Answer) : Prop :=
  (session.read none reading).1 = .ok answer

/-- The view of some rows is put together from the views of each, in every shape. Of the last
result, all rows are read as such a view, and each row as its part of it; and a column is read as a
list in which each row has a value unless it is null, and each value as its part of that. A reading
without a statement leaves the last result as it is, and one with a statement answers what is then
read of the result of it. -/
theorem readings_agree (session : Session σ) :
    (∀ (shape : Shape) (rows : List Row),
      RowsView.PutTogether shape (rows.map (Row.view shape)) (.ofRows shape rows)) ∧
    (∀ shape, ∃ whole, session.Reads (.allRows shape) (.allRows whole) ∧
      let parts := session.heldRows.map (Row.view shape)
      RowsView.PutTogether shape parts whole ∧
        ∀ row, session.Reads (.row shape row) (.row parts[row]?)) ∧
    (∀ column,
      let values := session.heldRows.map (Row.cell column)
      session.Reads (.column column) (.column values) ∧
        ∀ row, session.Reads (.value column row) (.value values[row]?.join)) ∧
    (∀ reading, (session.read none reading).2.record.given = session.record.given) ∧
    ∀ sql reading answer, (session.read (some sql) reading).1 = .ok answer →
      (session.read (some sql) reading).2.Reads reading answer := by
  -- All that is read without a statement is what the session shows.
  have reads : ∀ reading, session.Reads reading (session.shown reading) :=
    fun reading => (session.read_none reading).1
  refine ⟨RowsView.putTogether_ofRows, fun shape => ?_, fun column => ?_,
    fun reading => (session.read_none reading).2, fun sql reading answer made => ?_⟩
  · exact ⟨_, reads (.allRows shape), RowsView.putTogether_ofRows shape session.heldRows,
      fun row => reads (.row shape row)⟩
  · exact ⟨reads (.column column), fun row => reads (.value column row)⟩
  · rw [read_some made]
    exact (read_none _ reading).1

/-- Two columns have one name, and a row is shorter than the others. -/
theorem readings_agree_ragged :
    let backend := Script.backend "scripted" .sqlite doubleQuotes
    let column (name : String) : Option Column := some ⟨name, "INTEGER", none⟩
    let script := Script.start [] [] [{ Reply.plain with
      columns := some [column "a", column "a", column "b"]
      rows := [[.int 1, .null, .int 3], [.int 2]] }]
    ∃ session, start backend script (.sqlite "a.db") .empty 0 = .ok session ∧
      let first := session.read (some "SELECT * FROM t") (.allRows .json)
      let parts : List RowView :=
        [.json "\x7b\"a\":null,\"b\":3\x7d", .json "\x7b\"a\":2\x7d"]
      let whole : RowsView := .json "[\x7b\"a\":null,\"b\":3\x7d,\x7b\"a\":2\x7d]"
      first.1 = .ok (.allRows whole) ∧ first.2.Reads (.allRows .json) (.allRows whole) ∧
        RowsView.PutTogether .json parts whole ∧
        first.2.Reads (.row .json 1) (.row parts[1]?) ∧
        first.2.Reads (.column 1) (.column [none, none]) ∧
        first.2.Reads (.value 0 1) (.value (some (.int 2))) := by
  intro backend column script
  have started : start backend script (.sqlite "a.db") .empty 0 = .ok _ := rfl
  refine ⟨_, started, ?_⟩
  intro first parts whole
  have made : first.1 = .ok (.allRows whole) := by
    simp only [first, whole, column, script, backend]
    rfl
  have again := (readings_agree _).2.2.2.2 _ _ _ made
  obtain ⟨-, rows, columns, -, -⟩ := readings_agree first.2
  -- The second of the columns with one name counts in JSON, and the short row ends early.
  have held : first.2.heldRows.map (Row.view .json) = parts := by
    simp only [first, parts, column, script, backend]
    rfl
  -- A row without a value in the column has none to be read.
  have cells : ∀ place own, own = first.2.heldRows.map (Row.cell place) →
      first.2.Reads (.column place) (.column own) ∧
        ∀ row, first.2.Reads (.value place row) (.value own[row]?.join) := by
    rintro place _ rfl
    exact columns place
  obtain ⟨view, read, together, row⟩ := rows .json
  -- All rows are read as one view.
  obtain rfl : view = whole := Answer.allRows.inj (Except.ok.inj (read.symm.trans again))
  rw [held] at together row
  exact ⟨made, again, together, row 1, (cells 1 [none, none] rfl).1,
    (cells 0 [some (.int 1), some (.int 2)] rfl).2 1⟩

end Session

end Querent
