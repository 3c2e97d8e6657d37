import Querent.Proofs.Json.Decoder
import Querent.Proofs.Json.Gathering

/-! A value that is written in JSON is read as some value if it does not nest too deeply. -/

namespace Querent

namespace Json

mutual

/-- How many levels of arrays and objects a value nests. -/
def depth : Json → Nat
  | array items => depthOfItems items + 1
  | object members => depthOfMembers members + 1
  | _ => 0

/-- How many levels the deepest of some values nests. -/
def depthOfItems : List Json → Nat
  | [] => 0
  | item :: rest => max item.depth (depthOfItems rest)

/-- How many levels the deepest of some members nests. -/
def depthOfMembers : List (String × Json) → Nat
  | [] => 0
  | (_, value) :: rest => max value.depth (depthOfMembers rest)

end

mutual

/-- A value is read from the document that it is written as exactly if it nests no deeper than the
reader allows: a float without a numeral is written as null, and every numeral is a number. -/
theorem isSome_toJson?_document (levels : Nat) (value : Json) :
    (Document.toJson? levels value.document).isSome = true ↔ value.depth ≤ levels := by
  match value with
  | null => simp [document, Document.toJson?, depth]
  | bool flag => simp [document, Document.toJson?, depth]
  | whole number => simp [document, Document.toJson?, depth, Numeral.quantity?_ofInt]
  | float number =>
    -- A float is written as its numeral, or as null.
    rw [document]
    split
    · next finite => simp [Document.toJson?, depth, Numeral.isSome_quantity?_ofFloat finite]
    · simp [Document.toJson?, depth]
  | text content => simp [document, Document.toJson?, depth]
  | array items =>
    cases levels with
    | zero => simp [document, Document.toJson?, depth]
    | succ levels =>
      -- The array takes one level, and its items have the rest.
      have inner := isSome_toJsonItems?_documents levels items
      rw [document, Document.toJson?, Option.isSome_map, depth, inner]
      omega
  | object members =>
    cases levels with
    | zero => simp [document, Document.toJson?, depth]
    | succ levels =>
      -- The object takes one level, and the values of its members have the rest.
      have inner := isSome_toJsonMembers?_memberDocuments levels members
      rw [document, Document.toJson?, Option.isSome_map, depth, inner]
      omega

/-- Items are read exactly if none of them nests too deeply. -/
theorem isSome_toJsonItems?_documents (levels : Nat) (items : List Json) :
    (Document.toJsonItems? levels (documents items)).isSome = true ↔
      depthOfItems items ≤ levels := by
  match items with
  | [] => simp [documents, Document.toJsonItems?, depthOfItems]
  | item :: rest =>
    have first := isSome_toJson?_document levels item
    have others := isSome_toJsonItems?_documents levels rest
    rw [documents, Document.toJsonItems?, depthOfItems, Nat.max_le, ← first, ← others]
    cases Document.toJson? levels item.document <;>
      cases Document.toJsonItems? levels (documents rest) <;> simp

/-- Members are read exactly if the value of none of them nests too deeply. -/
theorem isSome_toJsonMembers?_memberDocuments (levels : Nat) (members : List (String × Json)) :
    (Document.toJsonMembers? levels (memberDocuments members)).isSome = true ↔
      depthOfMembers members ≤ levels := by
  match members with
  | [] => simp [memberDocuments, Document.toJsonMembers?, depthOfMembers]
  | (name, value) :: rest =>
    have first := isSome_toJson?_document levels value
    have others := isSome_toJsonMembers?_memberDocuments levels rest
    rw [memberDocuments, Document.toJsonMembers?, depthOfMembers, Nat.max_le, ← first, ← others]
    cases Document.toJson? levels value.document <;>
      cases Document.toJsonMembers? levels (memberDocuments rest) <;> simp

end

end Json

/-- A list is read exactly if each of its items is. -/
theorem Document.isSome_list?_document {α β : Type} {encode : β → Json}
    {decode : Document → Option α} (items : List β) :
    (list? decode (Json.array (items.map encode)).document).isSome = true ↔
      ∀ item ∈ items, (decode (encode item).document).isSome = true := by
  rw [Json.document, Json.documents_eq_map, list?, List.map_map]
  induction items with
  | nil => simp
  | cons item items ih =>
    rw [List.forall_mem_cons, ← ih, List.map_cons, List.mapM_cons, Function.comp_apply]
    cases decode (encode item).document <;>
      cases (items.map (Json.document ∘ encode)).mapM decode <;> simp

end Querent
