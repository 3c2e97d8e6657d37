import Mathlib.Data.List.Induction
import Mathlib.Data.List.Nodup
import Mathlib.Data.List.Perm.Subperm
import Querent.Proofs.Json.Decoder
import Querent.Result.Set

/-! The shapes of rows beside one another: what the JSON shape shows of the columns that the other
shapes show. -/

namespace Querent

/-- The first of some pairs decides where it has the name. -/
theorem lookup_cons_eq {α β : Type} [BEq α] [LawfulBEq α] [DecidableEq α] (pair : α × β)
    (rest : List (α × β)) (name : α) :
    (pair :: rest).lookup name = if name = pair.1 then some pair.2 else rest.lookup name := by
  rw [List.lookup_cons]
  split
  · next same => rw [if_pos (eq_of_beq same)]
  · next differs => rw [if_neg (ne_of_beq_false differs)]

/-- Values that are put in other words are found under the same names. -/
theorem lookup_map {α β : Type} (reword : α → β) (pairs : List (String × α)) (name : String) :
    (pairs.map fun pair => (pair.1, reword pair.2)).lookup name =
      (pairs.lookup name).map reword := by
  induction pairs with
  | nil => rfl
  | cons pair pairs ih =>
    rw [List.map_cons, lookup_cons_eq, lookup_cons_eq, ih]
    split <;> rfl

namespace Json

variable {name : String} {value : Json} {members : List (String × Json)}

/-- Setting a member adds its name, unless it is there. -/
theorem names_setMember :
    (setMember name value members).map Prod.fst =
      if name ∈ members.map Prod.fst then members.map Prod.fst
      else members.map Prod.fst ++ [name] := by
  -- A name that is there keeps its place.
  by_cases new : name ∈ members.map Prod.fst
  · rw [if_pos new]
    induction members with
    | nil => simp at new
    | cons member members ih =>
      obtain ⟨other, old⟩ := member
      rw [setMember]
      split
      · next same => simp [same]
      · -- The name is that of a later member, whose place it keeps.
        next differs =>
        have later : name ∈ members.map Prod.fst := by
          simpa [Ne.symm differs] using new
        rw [List.map_cons, ih later, List.map_cons]
  · rw [if_neg new, setMember_of_notMem value new, List.map_append, List.map_singleton]

/-- What is set is found, and all other members are as they were. -/
theorem lookup_setMember (other : String) :
    (setMember name value members).lookup other =
      if other = name then some value else members.lookup other := by
  -- A member of the same name is replaced where it stands, and else the search goes on.
  induction members with
  | nil => rw [setMember, lookup_cons_eq]
  | cons member members ih =>
    obtain ⟨first, old⟩ := member
    rw [setMember, lookup_cons_eq]
    split
    · next here =>
      subst here
      rw [lookup_cons_eq]
      split <;> rfl
    · next differs =>
      rw [lookup_cons_eq, ih]
      by_cases same : other = first
      · rw [if_pos same, if_pos same, if_neg (same ▸ differs)]
      · rw [if_neg same, if_neg same]

/-- An object from pairs has one member for each name among them, with the last value that the name
is paired with. -/
theorem exists_members_of_ofPairs (pairs : List (String × Json)) :
    ∃ members, ofPairs pairs = object members ∧ (members.map Prod.fst).Nodup ∧
      (∀ name, name ∈ members.map Prod.fst ↔ name ∈ pairs.map Prod.fst) ∧
        ∀ name, members.lookup name = pairs.reverse.lookup name := by
  -- The last pair is set when all others are.
  induction pairs using List.reverseRecOn with
  | nil => exact ⟨[], rfl, List.nodup_nil, fun _ => Iff.rfl, fun _ => rfl⟩
  | append_singleton pairs pair ih =>
    obtain ⟨members, shape, distinct, names, values⟩ := ih
    have before := Json.object.inj shape
    refine ⟨setMember pair.1 pair.2 members, ?_, ?_, ?_, ?_⟩
    · rw [ofPairs, List.foldl_append, before]
      rfl
    · rw [names_setMember]
      split
      · exact distinct
      · next new =>
        rw [← List.concat_eq_append]
        exact distinct.concat new
    · intro name
      rw [names_setMember, List.map_append, List.mem_append, ← names, List.map_singleton,
        List.mem_singleton]
      split
      · -- The name is one of those that were there before.
        next there => exact (or_iff_left_of_imp fun same => same ▸ there).symm
      · rw [List.mem_append, List.mem_singleton]
    · intro name
      rw [lookup_setMember, List.reverse_append, values, List.reverse_singleton,
        List.singleton_append, lookup_cons_eq]

end Json

namespace Row

/-- A row is searched by names as its pairs are. -/
theorem get?_eq_lookup (row : Row) (name : String) : row.get? name = row.pairs.lookup name := by
  obtain ⟨names, values⟩ := row
  -- The first name decides, and where it is another one the rest of the row is searched.
  induction names generalizing values with
  | nil => rfl
  | cons first names ih =>
    -- Names without a value have no pair.
    cases values with
    | nil => simp [get?, indexOf?, pairs]
    | cons value values =>
      have rest := ih values
      unfold get? indexOf? pairs at rest ⊢
      rw [List.zip_cons_cons, lookup_cons_eq, ← rest, List.findIdx?_cons]
      by_cases same : name = first
      · simp [same]
      · have differs : (first == name) = false := beq_eq_false_iff_ne.mpr (Ne.symm same)
        rw [differs, if_neg same]
        cases found : names.findIdx? (· == name) with
        | none => simp
        | some place => simp

/-- A row that is full has a pair for each name. -/
theorem map_fst_pairs {row : Row} (full : row.values.length = row.names.length) :
    row.pairs.map Prod.fst = row.names :=
  List.map_fst_zip full.ge

/-- Whether a document shows a row: it is an object with as many members as the row has values, and
under the name of each column it holds the value that is got by the name. -/
def ShownBy (row : Row) (document : Document) : Prop :=
  ∃ members, document = .object members ∧ members.length = row.values.length ∧
    ∀ name ∈ row.names, ∃ value, row.get? name = some value ∧
      members.lookup (some name) = some value.toJson.document

end Row

namespace Json

/-- The members of an object are found among their documents. -/
theorem lookup_memberDocuments (members : List (String × Json)) (name : String) :
    (memberDocuments members).lookup (some name) = (members.lookup name).map document := by
  induction members with
  | nil => rfl
  | cons member members ih =>
    rw [memberDocuments, lookup_cons_eq, lookup_cons_eq, ih]
    by_cases same : name = member.1
    · rw [if_pos same, if_pos (congrArg some same), Option.map_some]
    · rw [if_neg same, if_neg fun same' => same (Option.some.inj same')]

/-- The members of an object are written in turn, each under its name. -/
theorem memberDocuments_eq_map (members : List (String × Json)) :
    memberDocuments members = members.map fun member => (some member.1, member.2.document) := by
  induction members with
  | nil => rfl
  | cons member members ih => rw [memberDocuments, ih, List.map_cons]

/-- Every member of an object has its document. -/
theorem length_memberDocuments (members : List (String × Json)) :
    (memberDocuments members).length = members.length := by
  rw [memberDocuments_eq_map, List.length_map]

end Json

namespace Row

/-- The object of a row has one member for each name of a pair, with the value of the last one. -/
theorem exists_members (row : Row) : ∃ members, row.toJson = .object members ∧
    (members.map Prod.fst).Nodup ∧
      (∀ name, name ∈ members.map Prod.fst ↔ name ∈ row.pairs.map Prod.fst) ∧
        ∀ name, members.lookup name = (row.pairs.reverse.lookup name).map Value.toJson := by
  -- The pairs are set from left to right, with their values put in the words of JSON.
  obtain ⟨members, shape, distinct, names, values⟩ :=
    Json.exists_members_of_ofPairs (row.pairs.map fun pair => (pair.1, pair.2.toJson))
  refine ⟨members, shape, distinct, fun name => ?_, fun name => ?_⟩
  · rw [names, List.map_map]
    rfl
  · rw [values, ← List.map_reverse, lookup_map]

/-- The document of a full row shows the row exactly if no two names are the same. -/
theorem shownBy_iff_nodup {row : Row} (full : row.values.length = row.names.length) :
    row.ShownBy row.toJson.document ↔ row.names.Nodup := by
  have names := map_fst_pairs full
  constructor
  · -- As many members as values have as many names, which are all different.
    rintro ⟨documents, shape, count, -⟩
    obtain ⟨members, shape', distinct, same, -⟩ := row.exists_members
    rw [shape', Json.document] at shape
    obtain rfl := Document.object.inj shape
    rw [names] at same
    have within : (members.map Prod.fst).Subperm row.names :=
      distinct.subperm fun name mem => (same name).mp mem
    have long : row.names.length ≤ (members.map Prod.fst).length := by
      rw [List.length_map, ← Json.length_memberDocuments, count, full]
    exact (within.perm_of_length_le long).nodup_iff.mp distinct
  · -- Different names are members in the order of the row.
    intro distinct
    have fresh : ((row.pairs.map fun pair => (pair.1, pair.2.toJson)).map Prod.fst).Nodup := by
      rw [List.map_map]
      exact names.symm ▸ distinct
    have shape : row.toJson.document = .object (Json.memberDocuments
        (row.pairs.map fun pair => (pair.1, pair.2.toJson))) := by
      rw [toJson, Json.ofPairs_of_nodup fresh, Json.document]
    refine ⟨_, shape, ?_, ?_⟩
    · rw [Json.length_memberDocuments, List.length_map, pairs, List.length_zip, full, Nat.min_self]
    · intro name mem
      rw [Json.lookup_memberDocuments, lookup_map, get?_eq_lookup]
      rw [← names] at mem
      have found : row.pairs.lookup name ≠ none := fun missing => by
        obtain ⟨pair, there, rfl⟩ := List.mem_map.mp mem
        exact absurd rfl (bne_iff_ne.mp (List.lookup_eq_none_iff.mp missing pair there))
      obtain ⟨value, got⟩ := Option.ne_none_iff_exists'.mp found
      exact ⟨value, got, by rw [got]; rfl⟩

end Row

/-- The document that a row in the JSON shape spells. -/
def RowView.document? : RowView → Option Document
  | json text => Document.parse text
  | _ => none

/-- The document that rows in the JSON shape spell. -/
def RowsView.document? : RowsView → Option Document
  | json text => Document.parse text
  | _ => none

/-- A row in the JSON shape spells its own object. -/
theorem Row.document?_view (row : Row) :
    (row.view .json).document? = some row.toJson.document :=
  Json.parse_render row.toJson

/-- Rows in the JSON shape spell their own objects, in turn. -/
theorem RowsView.document?_ofRows (rows : List Row) :
    (RowsView.ofRows .json rows).document? =
      some (.array (rows.map fun row => row.toJson.document)) := by
  have documents : (Json.array (rows.map Row.toJson)).document =
      .array (rows.map fun row => row.toJson.document) := by
    rw [Json.document, Json.documents_eq_map, List.map_map]
    rfl
  rw [← documents]
  exact Json.parse_render _

/-- Where each row has one value for each column, the JSON shape shows each row, alone and among all
rows, exactly if no two columns share a name, or there are no rows. Whatever the names are, the
object of a row has one member for each name, with the value in the last column of this name. -/
theorem ResultSet.shown_iff_nodup {set : ResultSet}
    (full : ∀ values ∈ set.values, values.length = set.columns.length) :
    (((∀ row ∈ set.rows, ∃ document, (row.view .json).document? = some document ∧
          row.ShownBy document) ∧
        ∃ documents, (RowsView.ofRows .json set.rows).document? = some (.array documents) ∧
          List.Forall₂ Row.ShownBy set.rows documents) ↔
      set.rows = [] ∨ set.names.Nodup) ∧
    ∀ row ∈ set.rows, ∃ members, (row.view .json).document? = some (.object members) ∧
      (∀ name, some name ∈ members.map Prod.fst ↔ name ∈ set.names) ∧
        (members.map Prod.fst).Nodup ∧
          ∀ name, members.lookup (some name) =
            (row.pairs.reverse.lookup name).map fun value => value.toJson.document := by
  -- The rows have the names of the columns, and a value for each.
  have each : ∀ row ∈ set.rows, row.names = set.names ∧ row.values.length = row.names.length := by
    intro row mem
    obtain ⟨values, there, rfl⟩ := List.mem_map.mp mem
    exact ⟨rfl, (full values there).trans (List.length_map ..).symm⟩
  refine ⟨⟨?_, ?_⟩, ?_⟩
  · -- A row that is shown has a member for each of its names.
    rintro ⟨alone, -⟩
    rcases List.eq_nil_or_concat' set.rows with none | ⟨front, row, shape⟩
    · exact .inl none
    · have mem : row ∈ set.rows := by simp [shape]
      obtain ⟨document, read, shown⟩ := alone row mem
      rw [row.document?_view] at read
      obtain rfl := Option.some.inj read
      obtain ⟨names, full⟩ := each row mem
      exact .inr (names ▸ (Row.shownBy_iff_nodup full).mp shown)
  · intro holds
    have shown : ∀ row ∈ set.rows, row.ShownBy row.toJson.document := by
      intro row mem
      obtain ⟨names, full⟩ := each row mem
      rcases holds with none | distinct
      · simp [none] at mem
      · exact (Row.shownBy_iff_nodup full).mpr (names ▸ distinct)
    refine ⟨fun row mem => ⟨_, row.document?_view, shown row mem⟩, _,
      RowsView.document?_ofRows set.rows, ?_⟩
    exact List.forall₂_map_right_iff.mpr (List.forall₂_same.mpr shown)
  · -- Names that repeat are set again and again, so the last value is left.
    intro row mem
    obtain ⟨names, full⟩ := each row mem
    obtain ⟨members, shape, distinct, same, values⟩ := row.exists_members
    rw [Row.map_fst_pairs full, names] at same
    have firsts : (Json.memberDocuments members).map Prod.fst =
        (members.map Prod.fst).map some := by
      rw [Json.memberDocuments_eq_map, List.map_map, List.map_map]
      rfl
    refine ⟨Json.memberDocuments members, ?_, ?_, ?_, ?_⟩
    · rw [row.document?_view, shape, Json.document]
    · intro name
      rw [firsts, ← same]
      simp
    · rw [firsts]
      exact distinct.map (Option.some_injective _)
    · intro name
      rw [Json.lookup_memberDocuments, values, Option.map_map]
      rfl

/-- Two columns with names of their own, one of them holding null. -/
theorem ResultSet.shown_id_and_name :
    let set : ResultSet := ⟨[⟨"id", "INTEGER", none⟩, ⟨"name", "TEXT", none⟩],
      [[.int 1, .text "a"], [.int 2, .null]]⟩
    (∀ values ∈ set.values, values.length = set.columns.length) ∧
      (∀ row ∈ set.rows, ∃ document, (row.view .json).document? = some document ∧
        row.ShownBy document) ∧
      ∃ documents, (RowsView.ofRows .json set.rows).document? = some (.array documents) ∧
        List.Forall₂ Row.ShownBy set.rows documents := by
  intro set
  have full : ∀ values ∈ set.values, values.length = set.columns.length := by decide
  exact ⟨full, (shown_iff_nodup full).1.mpr (.inr (by decide))⟩

/-- A join gives two columns of one name. The row has two values, and the first one is got by the
name, while the JSON shape has one member, with the second value. -/
theorem ResultSet.not_shown_of_join :
    let set : ResultSet := ⟨[⟨"a", "INTEGER", none⟩, ⟨"a", "INTEGER", none⟩], [[.int 1, .int 2]]⟩
    let row : Row := ⟨["a", "a"], [.int 1, .int 2]⟩
    (∀ values ∈ set.values, values.length = set.columns.length) ∧ set.rows = [row] ∧
      row.get? "a" = some (.int 1) ∧ row.view .json = .json "\x7b\"a\":2\x7d" ∧
      RowsView.ofRows .json set.rows = .json "[\x7b\"a\":2\x7d]" ∧
      ¬∃ document, (row.view .json).document? = some document ∧ row.ShownBy document := by
  intro set row
  refine ⟨by decide, rfl, rfl, ?_, ?_, ?_⟩
  · exact congrArg RowView.json (by decide)
  · exact congrArg RowsView.json (by decide)
  · -- One member cannot show two values.
    rintro ⟨document, read, shown⟩
    rw [row.document?_view] at read
    obtain rfl := Option.some.inj read
    exact absurd ((Row.shownBy_iff_nodup rfl).mp shown) (by decide)

end Querent
