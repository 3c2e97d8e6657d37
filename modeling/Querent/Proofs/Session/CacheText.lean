import Querent.Backend.Sqlite
import Querent.Proofs.Json.Visible
import Querent.Proofs.Text.Search
import Querent.Session.Run

/-! Which statements and values have a text in common that a result is kept under. -/

namespace Querent

open Sqlite (Datum)

namespace Json

/-- Quotes make a text longer. -/
theorem length_quote (text : String) : text.toList.length + 2 ≤ (quote text).length := by
  -- No escape is shorter than the character that it stands for.
  have escaped : ∀ content : List Char, content.length ≤ (content.flatMap escape).length := by
    intro content
    induction content with
    | nil => simp
    | cons c content ih =>
      -- Every character has an escape, which is not empty.
      have some : 0 < (escape c).length := by
        unfold escape
        repeat' split
        all_goals simp
      simp only [List.length_cons, List.flatMap_cons, List.length_append]
      omega
  have inside := escaped text.toList
  simp only [quote, List.length_cons, List.length_append, List.cons_append, List.length_nil]
  omega

/-- Texts of values with commas between them are the items of an array. -/
theorem joinWith_render (items : List Json) :
    (joinWith "," (items.map render)).toList = printItems items := by
  -- Both put a comma behind every item but the last.
  induction items with
  | nil => rfl
  | cons item items ih =>
    cases items with
    | nil => simp [joinWith, printItems, render]
    | cons next items =>
      rw [List.map_cons] at ih
      simp [joinWith, printItems, render, ← ih]

/-- Behind an item its array is closed, or else the other items follow a comma. -/
theorem printItems_cons (item : Json) (items : List Json) (rest : List Char) :
    ∃ tail, printItems (item :: items) ++ ']' :: rest = item.print ++ tail ∧
      (items = [] ∧ tail = ']' :: rest ∨
        items ≠ [] ∧ tail = ',' :: (printItems items ++ ']' :: rest)) := by
  cases items with
  -- The last item is closed right behind itself.
  | nil => exact ⟨_, rfl, .inl ⟨rfl, rfl⟩⟩
  | cons next items =>
    refine ⟨_, ?_, .inr ⟨by simp, rfl⟩⟩
    simp only [printItems, List.append_assoc, List.cons_append]

/-- Items that are printed alike up to the end of their array are printed alike one by one. -/
theorem printItems_inj {items others : List Json} {rest rest' : List Char}
    (same : printItems items ++ ']' :: rest = printItems others ++ ']' :: rest') :
    List.Forall₂ (fun item other => item.print = other.print) items others := by
  induction items generalizing others with
  | nil =>
    cases others with
    | nil => exact .nil
    | cons other others =>
      -- An array that is closed at once has no item to begin with.
      obtain ⟨c, tail, shown, opens⟩ := printItems_head other others
      rw [shown] at same
      exact absurd (List.cons.inj same).1.symm opens.ne.2
  | cons item items ih =>
    cases others with
    | nil =>
      -- Neither is the item of one array the end of another.
      obtain ⟨c, tail, shown, opens⟩ := printItems_head item items
      rw [shown] at same
      exact absurd (List.cons.inj same).1 opens.ne.2
    | cons other others =>
      -- The first items end in the same place, with the bracket or with a comma behind both.
      obtain ⟨tail, shown, behind⟩ := printItems_cons item items rest
      obtain ⟨tail', shown', behind'⟩ := printItems_cons other others rest'
      rw [shown, shown'] at same
      -- What stands behind an item is no part of a number.
      have stop : Numeral.Stops tail := by
        rcases behind with ⟨-, rfl⟩ | ⟨-, rfl⟩ <;> exact Numeral.stops_cons (by simp) _
      have stop' : Numeral.Stops tail' := by
        rcases behind' with ⟨-, rfl⟩ | ⟨-, rfl⟩ <;> exact Numeral.stops_cons (by simp) _
      obtain ⟨first, tails⟩ := print_append_inj stop stop' same
      refine .cons first ?_
      -- The bracket behind one item is no comma, so the arrays end together.
      rcases behind with ⟨rfl, rfl⟩ | ⟨-, rfl⟩ <;> rcases behind' with ⟨rfl, rfl⟩ | ⟨-, rfl⟩
      · exact .nil
      · exact absurd (List.cons.inj tails).1 (by decide)
      · exact absurd (List.cons.inj tails).1 (by decide)
      · exact ih (List.cons.inj tails).2

end Json

/-- The text that a result is kept under, where a statement binds values. -/
theorem cacheText_toList {values : List Value} (some : values ≠ []) (statement : String) :
    (cacheText statement values).toList =
      statement.toList ++ '\n' :: '[' :: (Json.printItems (values.map Value.toJson) ++ [']']) := by
  -- The items are joined as the printer joins them, and stand between brackets.
  have bound : values.isEmpty = false := by simpa using some
  have joined := Json.joinWith_render (values.map Value.toJson)
  rw [List.map_map] at joined
  simp only [cacheText, bound, Bool.false_eq_true, if_false, String.toList_append]
  change _ ++ (joinWith "," (values.map (Json.render ∘ Value.toJson))).toList ++ _ = _
  rw [joined]
  simp

/-- Two statements that bind values are kept under one text only if they are the same. -/
theorem cacheText_bound_inj {s t : String} {v w : List Value} (some : v ≠ []) (some' : w ≠ [])
    (same : cacheText s v = cacheText t w) :
    s = t ∧ List.Forall₂ (fun a b => a.toJson.print = b.toJson.print) v w := by
  have texts := congrArg String.toList same
  rw [cacheText_toList some, cacheText_toList some'] at texts
  -- Values are printed without a line break, so the last one is where they begin.
  have plain : ∀ values : List Value,
      '\n' ∉ '[' :: (Json.printItems (values.map Value.toJson) ++ [']']) := by
    intro values mem
    simp only [List.mem_cons, List.mem_append, List.not_mem_nil, or_false] at mem
    rcases mem with bracket | inside | bracket
    · exact absurd bracket (by decide)
    · exact absurd (Json.printItems_visible _ _ inside) (by decide)
    · exact absurd bracket (by decide)
  obtain ⟨statements, values⟩ := last_split_unique (plain v) (plain w) texts
  refine ⟨String.toList_inj.mp statements, ?_⟩
  -- Equal lists are equal item by item.
  have items := Json.printItems_inj (List.cons.inj values).2
  rwa [List.forall₂_map_left_iff, List.forall₂_map_right_iff] at items

namespace Value

/-- Whether a value is a JSON document. -/
def isJson : Value → Bool
  | json _ => true
  | _ => false

/-- Whether the JSON that shows two values tells them apart wherever they are bound differently. -/
structure Told (a b : Value) : Prop where
  /-- Both are documents, which are bound as their text, or none is. -/
  kind : a.isJson = b.isJson
  /-- A float that JSON has no number for is beside no other value. -/
  finite : ∀ x : Binary64, x.isFinite = false → (a = .float x ↔ b = .float x)

/-- A document that is shown as another value is, is bound as another text. -/
theorem ofValue_json_ne {document : Json} {b : Value} (other : b.isJson = false)
    (same : document.print = b.toJson.print) :
    Datum.ofValue (.json document) ≠ Datum.ofValue b := by
  intro bound
  -- The text of the value would have to be the same with quotes around it.
  have quoted : ∀ content : String, document.render = content →
      document.print ≠ Json.quote content := by
    rintro _ rfl quotes
    have longer := Json.length_quote document.render
    rw [← quotes] at longer
    simp [Json.render] at longer
  cases b with
  | json => simp [isJson] at other
  | text content => exact quoted content (by simpa [Datum.ofValue] using bound) same
  | timestamp time => exact quoted time.sqlText (by simpa [Datum.ofValue] using bound) same
  | _ => simp [Datum.ofValue] at bound

/-- Bytes are told by the documents of their numbers. -/
theorem documents_ofByte_inj {bytes others : List UInt8}
    (same : Json.documents (bytes.map .ofByte) = Json.documents (others.map .ofByte)) :
    bytes = others := by
  -- A list of numbers is written number by number.
  have each : ∀ bytes : List UInt8, Json.documents (bytes.map .ofByte) =
      bytes.map fun byte => (Json.ofByte byte).document := by
    intro bytes
    induction bytes with
    | nil => rfl
    | cons byte bytes ih => rw [List.map_cons, Json.documents, ih, List.map_cons]
  rw [each, each] at same
  refine List.map_injective_iff.mpr ?_ same
  intro byte other same
  -- A byte is an integer, which its numeral tells.
  simp only [Json.ofByte, Json.document, Document.number.injEq] at same
  have number := Numeral.ofInt_injective same
  exact UInt8.toNat_inj.mp (by omega)

/-- Values that are no documents and are shown alike are bound alike, if they are told apart. -/
theorem ofValue_eq_of_document {a b : Value} (plain : a.isJson = false) (plain' : b.isJson = false)
    (told : Told a b) (same : a.toJson.document = b.toJson.document) :
    Datum.ofValue a = Datum.ofValue b := by
  -- A float without a number is beside itself, so every other float is shown as its numeral.
  have float : ∀ x : Binary64, a = .float x ∨ b = .float x → x.isFinite = true ∨ a = b := by
    intro x either
    cases finite : x.isFinite with
    | true => exact .inl rfl
    | false =>
      right
      have both := told.finite x finite
      rcases either with left | right
      · rw [left, both.mp left]
      · rw [right, both.mpr right]
  -- Of the pairs of kinds, these are shown as documents of one form.
  cases a <;> cases b <;>
    simp_all [toJson, Json.document, isJson, Json.ofInt64, Json.ofFloat, Datum.ofValue]
  -- Integers are told by their numerals.
  case int.int m n => exact Int64.toInt_inj.mp (Numeral.ofInt_injective same)
  -- A float always has a point or an exponent, and an integer has none.
  case int.float n x => exact Numeral.ofFloat_ne_ofInt x _ same.symm
  case float.int x n => exact Numeral.ofFloat_ne_ofInt x _ same
  -- Two finite floats are told by their numerals.
  case float.float x y =>
    rcases float x (.inl rfl) with finite | same
    · rcases float y (.inr rfl) with finite' | same
      · simp only [finite, finite', if_true, Json.document, Document.number.injEq] at same
        exact Numeral.ofFloat_injective finite finite' same
      · exact same
    · exact same
  -- Bytes are told by their numbers.
  case blob.blob => exact documents_ofByte_inj same

/-- Values that are shown alike are bound alike exactly where they are told apart. -/
theorem ofValue_eq_iff {a b : Value} (same : a.toJson.print = b.toJson.print) :
    Datum.ofValue a = Datum.ofValue b ↔ Told a b := by
  constructor
  · intro bound
    refine ⟨?_, ?_⟩
    · -- A document beside a value of another kind would be bound differently.
      cases kind : a.isJson <;> cases kind' : b.isJson
      · rfl
      · cases b <;> simp [isJson] at kind'
        exact absurd bound.symm (ofValue_json_ne kind same.symm)
      · cases a <;> simp [isJson] at kind
        exact absurd bound (ofValue_json_ne kind' same)
      · rfl
    · -- Only a float is bound as a float.
      intro x _
      constructor
      · rintro rfl
        cases b <;> simp_all [Datum.ofValue]
      · rintro rfl
        cases a <;> simp_all [Datum.ofValue]
  · intro told
    cases kind : a.isJson with
    | false =>
      exact ofValue_eq_of_document kind (by rw [← told.kind, kind]) told
        (Json.document_eq_of_print same)
    | true =>
      -- Two documents are bound as their texts, and those are the same.
      have kind' : b.isJson = true := by rw [← told.kind, kind]
      cases a <;> simp [isJson] at kind
      cases b <;> simp [isJson] at kind'
      simp only [toJson] at same
      simp only [Datum.ofValue, Json.render, same]

end Value

/-- Where two runs have one text that results are kept under, they run one statement with values
that are bound alike exactly if both of them or none binds values, and the values are told apart. -/
theorem cacheText_inj_iff {s t : String} {v w : List Value} (same : cacheText s v = cacheText t w) :
    (s = t ∧ List.Forall₂ (fun a b => Datum.ofValue a = Datum.ofValue b) v w) ↔
      (v = [] ↔ w = []) ∧ ∀ pair ∈ v.zip w, Value.Told pair.1 pair.2 := by
  cases v with
  -- Without values the statement is all the text there is.
  | nil =>
    cases w with
    | nil => simpa [cacheText] using same
    | cons b w => simp
  | cons a v =>
    cases w with
    | nil => simp
    | cons b w =>
      obtain ⟨statements, shown⟩ := cacheText_bound_inj (by simp) (by simp) same
      simp only [statements, reduceCtorEq, true_and]
      -- The values are shown alike one by one, and each pair is judged by itself.
      clear same statements
      generalize a :: v = v, b :: w = w at shown ⊢
      induction shown with
      | nil => simp
      | cons alike _ ih =>
        rw [List.forall₂_cons, Value.ofValue_eq_iff alike, ih]
        simp

/-- A timestamp and the text that shows it are kept under one text, and they are bound alike. -/
theorem cacheText_inj_timestamp_and_text :
    let noon : Timestamp := ⟨⟨2024, 5, 1, 12, 0, 0, 0⟩, by decide⟩
    let timestamps : List Value := [.int 1, .timestamp noon]
    let texts : List Value := [.int 1, .text "2024-05-01 12:00:00"]
    timestamps ≠ texts ∧
      cacheText "SELECT ?1, ?2" timestamps = cacheText "SELECT ?1, ?2" texts ∧
      ("SELECT ?1, ?2" = "SELECT ?1, ?2" ∧
        List.Forall₂ (fun a b => Datum.ofValue a = Datum.ofValue b) timestamps texts) := by
  intro noon timestamps texts
  have same : cacheText "SELECT ?1, ?2" timestamps = cacheText "SELECT ?1, ?2" texts := by
    decide +kernel
  refine ⟨by simp [timestamps, texts], same, (cacheText_inj_iff same).mpr ⟨by simp, ?_⟩⟩
  -- None of the values is a document or a float.
  intro pair mem
  simp only [timestamps, texts, List.zip_cons_cons, List.zip_nil_right, List.mem_cons,
    List.not_mem_nil, or_false] at mem
  rcases mem with rfl | rfl <;> exact ⟨rfl, fun _ _ => by simp⟩

/-- An integer and the document of its numeral are kept under one text; so are null and a float that
JSON has no number for; and so are a value and a statement that goes on with what shows it. -/
theorem cacheText_not_inj :
    (PlaceholderStyle.sqlite.normalize "SELECT ?1" = "SELECT ?1" ∧
      cacheText "SELECT ?1" [.int 1] = cacheText "SELECT ?1" [.json (.ofInt 1)] ∧
      Datum.ofValue (.int 1) ≠ Datum.ofValue (.json (.ofInt 1))) ∧
    (cacheText "SELECT ?1" [.null] = cacheText "SELECT ?1" [.float (.infinity false)] ∧
      Datum.ofValue .null ≠ Datum.ofValue (.float (.infinity false))) ∧
    (PlaceholderStyle.sqlite.normalize "SELECT 7" = "SELECT 7" ∧
      PlaceholderStyle.sqlite.normalize "SELECT 7\n[1]" = "SELECT 7\n[1]" ∧
      cacheText "SELECT 7" [.int 1] = cacheText "SELECT 7\n[1]" [] ∧
      "SELECT 7" ≠ "SELECT 7\n[1]") := by
  decide +kernel

end Querent
