import Querent.Json.Decoder
import Querent.Proofs.Json.Quantity
import Querent.Proofs.Json.Reading

/-! Typed data that is written as a document is read from it. -/

namespace Querent

namespace Json

/-- Whether a value holds no float, names no member of an object twice, and nests at most some
levels. -/
inductive Storable : Nat → Json → Prop
  | null {levels : Nat} : Storable levels null
  | bool {levels : Nat} (flag : Bool) : Storable levels (bool flag)
  | whole {levels : Nat} (number : Whole) : Storable levels (whole number)
  | text {levels : Nat} (content : String) : Storable levels (text content)
  | array {levels : Nat} {items : List Json} :
      (∀ item ∈ items, Storable levels item) → Storable (levels + 1) (array items)
  | object {levels : Nat} {members : List (String × Json)} :
      (members.map Prod.fst).Nodup → (∀ member ∈ members, Storable levels member.2) →
        Storable (levels + 1) (object members)

/-- More levels allow for the same values. -/
theorem Storable.mono {levels more : Nat} {value : Json} (storable : Storable levels value)
    (enough : levels ≤ more) : Storable more value := by
  induction storable generalizing more with
  | null => exact .null
  | bool flag => exact .bool flag
  | whole number => exact .whole number
  | text content => exact .text content
  | array _ ih =>
    -- A list uses up one level, and its items have the rest.
    obtain ⟨less, rfl⟩ : ∃ less, more = less + 1 := ⟨more - 1, by omega⟩
    exact .array fun item mem => ih item mem (by omega)
  | object distinct _ ih =>
    obtain ⟨less, rfl⟩ : ∃ less, more = less + 1 := ⟨more - 1, by omega⟩
    exact .object distinct fun member mem => ih member mem (by omega)

/-- A list of values is written value by value. -/
theorem documents_eq_map (items : List Json) : documents items = items.map document := by
  induction items with
  | nil => rfl
  | cons item items ih => rw [documents, ih, List.map_cons]

/-- A member whose name is new is put at the end. -/
theorem setMember_of_notMem {name : String} (value : Json) {members : List (String × Json)}
    (new : name ∉ members.map Prod.fst) :
    setMember name value members = members ++ [(name, value)] := by
  induction members with
  | nil => rfl
  | cons member members ih =>
    obtain ⟨other, old⟩ := member
    -- The first member has another name, and so have all that come later.
    have differs : other ≠ name := by
      intro same
      simp [same] at new
    have later : name ∉ members.map Prod.fst := by
      intro mem
      simp [mem] at new
    rw [setMember, if_neg differs, ih later, List.cons_append]

/-- Pairs with distinct names make the object of these members. -/
theorem ofPairs_of_nodup {members : List (String × Json)}
    (distinct : (members.map Prod.fst).Nodup) : ofPairs members = object members := by
  -- Each pair is new to the members that are there before it.
  have general : ∀ (front back : List (String × Json)), ((front ++ back).map Prod.fst).Nodup →
      back.foldl (fun members pair => setMember pair.1 pair.2 members) front = front ++ back := by
    intro front back
    induction back generalizing front with
    | nil => simp
    | cons member back ih =>
      intro distinct
      have new : member.1 ∉ front.map Prod.fst := by
        rw [List.map_append, List.map_cons, List.nodup_append] at distinct
        intro mem
        exact distinct.2.2 _ mem _ (List.mem_cons_self ..) rfl
      have split : front ++ member :: back = front ++ [member] ++ back := by simp
      rw [List.foldl_cons, setMember_of_notMem _ new, split]
      rw [split] at distinct
      exact ih _ distinct
  rw [ofPairs, general [] members distinct, List.nil_append]

end Json

namespace Document

variable {α : Type}

/-- The values of a list are read if each of them is. -/
theorem toJsonItems?_documents {levels : Nat} {items : List Json}
    (each : ∀ item ∈ items, toJson? levels item.document = some item) :
    toJsonItems? levels (Json.documents items) = some items := by
  induction items with
  | nil => rfl
  | cons item items ih =>
    obtain ⟨first, others⟩ := List.forall_mem_cons.mp each
    rw [Json.documents, toJsonItems?, first, ih others]
    rfl

/-- The members of an object are read if the value of each of them is. -/
theorem toJsonMembers?_memberDocuments {levels : Nat} {members : List (String × Json)}
    (each : ∀ member ∈ members, toJson? levels member.2.document = some member.2) :
    toJsonMembers? levels (Json.memberDocuments members) = some members := by
  induction members with
  | nil => rfl
  | cons member members ih =>
    obtain ⟨first, others⟩ := List.forall_mem_cons.mp each
    rw [Json.memberDocuments, toJsonMembers?, first, ih others]
    rfl

/-- A JSON value that can be stored is read from the document that it is written as. -/
theorem toJson?_document {levels : Nat} {value : Json} (storable : value.Storable levels) :
    toJson? levels value.document = some value := by
  -- Level by level, with the items and members read before what holds them.
  induction storable with
  | null => simp [Json.document, toJson?]
  | bool flag => simp [Json.document, toJson?]
  | whole number => simp [Json.document, toJson?, Numeral.quantity?_ofInt]
  | text content => simp [Json.document, toJson?]
  | array _ ih => rw [Json.document, toJson?, toJsonItems?_documents ih, Option.map_some]
  | object distinct _ ih =>
    -- Members with distinct names keep their places.
    rw [Json.document, toJson?, toJsonMembers?_memberDocuments ih, Option.map_some,
      Json.ofPairs_of_nodup distinct]

/-- A flag is read from its word. -/
theorem bool?_document (flag : Bool) : (Json.bool flag).document.bool? = some flag := by
  rw [Json.document, bool?]

/-- A text is read from its quoted form. -/
theorem text?_document (content : String) :
    (Json.text content).document.text? = some content := by
  rw [Json.document, text?]

/-- An integer within bounds is read from its numeral. -/
theorem between?_document {low high : Int} (number : Whole)
    (within : low ≤ number.value ∧ number.value < high) :
    (Json.whole number).document.between? low high = some number.value := by
  simp [Json.document, between?, whole?, Numeral.quantity?_ofInt, within]

/-- A signed word is read from its numeral. -/
theorem int64?_document (n : Int64) : (Json.ofInt64 n).document.int64? = some n := by
  have low := n.le_toInt
  have high := n.toInt_lt
  rw [int64?, Json.ofInt64, between?_document _ (by constructor <;> dsimp only <;> omega),
    Option.map_some, Int64.ofInt_toInt]

/-- An unsigned word is read from its numeral. -/
theorem uint64?_document (n : UInt64) : (Json.ofUInt64 n).document.uint64? = some n := by
  have high := n.toNat_lt
  have size : UInt64.size = 18446744073709551616 := rfl
  rw [uint64?, Json.ofUInt64, between?_document _ (by constructor <;> dsimp only <;> omega),
    Option.map_some]
  simp

/-- A byte is read from its numeral. -/
theorem byte?_document (n : UInt8) : (Json.ofByte n).document.byte? = some n := by
  have high := n.toNat_lt
  have size : UInt8.size = 256 := rfl
  rw [byte?, Json.ofByte, between?_document _ (by constructor <;> dsimp only <;> omega),
    Option.map_some]
  simp

/-- A list is read item by item. -/
theorem list?_document_eq_map {β : Type} {encode : α → Json} {decode : Document → Option β}
    {read : α → β} {items : List α}
    (each : ∀ item ∈ items, decode (encode item).document = some (read item)) :
    list? decode (Json.array (items.map encode)).document = some (items.map read) := by
  rw [Json.document, Json.documents_eq_map, list?, List.map_map]
  induction items with
  | nil => rfl
  | cons item items ih =>
    obtain ⟨first, others⟩ := List.forall_mem_cons.mp each
    rw [List.map_cons, List.mapM_cons, ih others, Function.comp_apply, first]
    rfl

/-- A list is read if each of its items is. -/
theorem list?_document {encode : α → Json} {decode : Document → Option α} {items : List α}
    (each : ∀ item ∈ items, decode (encode item).document = some item) :
    list? decode (Json.array (items.map encode)).document = some items :=
  (list?_document_eq_map each).trans (congrArg some (List.map_id' items))

/-- The values of an object are read with their names if each of them is read. -/
theorem pairs?_document {β : Type} {encode : α → Json} {decode : Document → Option β} {read : α → β}
    {pairs : List (String × α)}
    (each : ∀ pair ∈ pairs, decode (encode pair.2).document = some (read pair.2)) :
    pairs? decode (Json.object (pairs.map fun pair => (pair.1, encode pair.2))).document =
      some (pairs.map fun pair => (pair.1, read pair.2)) := by
  rw [Json.document, pairs?]
  induction pairs with
  | nil => rfl
  | cons pair pairs ih =>
    obtain ⟨first, others⟩ := List.forall_mem_cons.mp each
    rw [List.map_cons, Json.memberDocuments, List.mapM_cons, ih others]
    dsimp only
    rw [first]
    rfl

/-- A record gives all members that it is written with if these are the declared ones. -/
theorem members?_document (undeclared : Undeclared) {members : List (String × Json)}
    {names : List String} (declared : members.map Prod.fst = names) (distinct : names.Nodup) :
    (Json.object members).document.members? undeclared names =
      some ⟨members.map fun member => (member.1, member.2.document), true⟩ := by
  have given : pairs? some (Json.object members).document =
      some (members.map fun member => (member.1, member.2.document)) := by
    simpa using @pairs?_document Json Document id some Json.document members fun _ _ => rfl
  -- No member is left out, and no name stands twice.
  subst declared
  have kept : (members.map fun member => (member.1, member.2.document)).filter
      (fun pair => (members.map Prod.fst).contains pair.1) =
        members.map fun member => (member.1, member.2.document) := by
    refine List.filter_eq_self.mpr fun pair mem => ?_
    obtain ⟨member, inside, rfl⟩ := List.mem_map.mp mem
    simpa using ⟨member.2, inside⟩
  have names : (members.map fun member => (member.1, member.2.document)).map Prod.fst =
      members.map Prod.fst := by
    simp
  rw [members?, given, Option.bind_eq_bind, Option.bind_some]
  · dsimp only
    rw [kept, names, if_neg (by simp), if_pos distinct]
  · simp [Json.document]

/-- A value that may be missing is read from its own form, which is not null, or from null. -/
theorem nullable?_document {encode : α → Json} {decode : Document → Option α} {value : Option α}
    (each : ∀ content, decode (encode content).document = some content)
    (proper : ∀ content, (encode content).document ≠ .null) :
    (Json.ofOption encode value).document.nullable? decode = some value := by
  cases value with
  | none => simp [Json.ofOption, Json.document, nullable?]
  | some content =>
    rw [Json.ofOption, nullable?, each, Option.map_some]
    exact proper content

/-- A signed word that may be missing is read from its numeral, or from null. -/
theorem nullable?_int64?_document (n : Option Int64) :
    (Json.ofOption Json.ofInt64 n).document.nullable? int64? = some n :=
  -- A numeral is no null.
  nullable?_document int64?_document (by simp [Json.ofInt64, Json.document])

/-- A text that may be missing is read from its quoted form, or from null. -/
theorem nullable?_text?_document (content : Option String) :
    (Json.ofOption Json.text content).document.nullable? text? = some content :=
  nullable?_document text?_document (by simp [Json.document])

end Document

end Querent
