import Querent.Json.Numeral

/-! Reading typed data from a document; every reader gives none for a document of another form. -/

namespace Querent

namespace Document

/-- Levels of nesting that a reader accepts in one text. -/
def maxDepth : Nat := 127

mutual

/-- The JSON value of a document that nests at most a given number of levels. -/
def toJson? : Nat → Document → Option Json
  | _, null => some .null
  | _, bool flag => some (.bool flag)
  | _, number numeral => numeral.quantity?.map fun
    | .whole value => .whole value
    | .float value => .float value
  | _, text content => content.map .text
  | 0, array _ => none
  | 0, object _ => none
  | levels + 1, array items => (toJsonItems? levels items).map .array
  | levels + 1, object members => (toJsonMembers? levels members).map .ofPairs

/-- The JSON values of a list of documents. -/
def toJsonItems? : Nat → List Document → Option (List Json)
  | _, [] => some []
  | levels, item :: rest => do
    let item ← toJson? levels item
    let rest ← toJsonItems? levels rest
    return item :: rest

/-- The names and JSON values of a list of members. -/
def toJsonMembers? : Nat → List (Option String × Document) → Option (List (String × Json))
  | _, [] => some []
  | levels, (name, value) :: rest => do
    let name ← name
    let value ← toJson? levels value
    let rest ← toJsonMembers? levels rest
    return (name, value) :: rest

end

/-- A flag. -/
def bool? : Document → Option Bool
  | bool flag => some flag
  | _ => none

/-- A text. -/
def text? : Document → Option String
  | text content => content
  | _ => none

/-- An integer of 64 bits, with or without a sign. -/
def whole? : Document → Option Int
  | number numeral => match numeral.quantity? with
    | some (.whole value) => some value.value
    | _ => none
  | _ => none

/-- An integer within bounds, the upper one excluded. -/
def between? (low high : Int) (document : Document) : Option Int := do
  let value ← document.whole?
  if low ≤ value ∧ value < high then some value else none

/-- A signed word. -/
def int64? (document : Document) : Option Int64 :=
  (document.between? (-9223372036854775808) 9223372036854775808).map Int64.ofInt

/-- An unsigned word. -/
def uint64? (document : Document) : Option UInt64 :=
  (document.between? 0 UInt64.size).map fun value => UInt64.ofNat value.toNat

/-- A byte. -/
def byte? (document : Document) : Option UInt8 :=
  (document.between? 0 UInt8.size).map fun value => UInt8.ofNat value.toNat

/-- A binary64 number, which an integer is rounded to. -/
def float? : Document → Option Binary64
  | number numeral => numeral.quantity?.map fun
    | .whole value => .ofRatio (value.value < 0) value.value.natAbs 1
    | .float value => value
  | _ => none

/-- A value that null stands in for when it is missing. -/
def nullable? {α : Type} (decode : Document → Option α) : Document → Option (Option α)
  | null => some none
  | document => (decode document).map some

/-- A list whose items are all of one form. -/
def list? {α : Type} (decode : Document → Option α) : Document → Option (List α)
  | array items => items.mapM decode
  | _ => none

/-- An object whose member values are all of one form. -/
def pairs? {α : Type} (decode : Document → Option α) : Document → Option (List (String × α))
  | object members => members.mapM fun (name, value) => do
    let name ← name
    let value ← decode value
    return (name, value)
  | _ => none

/-- A variant by its name, alone or with its content as the only member of an object. -/
def variant? : Document → Option (String × Option Document)
  | text (some name) => some (name, none)
  | object [(some name, content)] => some (name, some content)
  | _ => none

end Document

/-- The declared members that a record gives, each once at most. -/
structure Members where
  given : List (String × Document)
  /-- Whether they are named, as in an object, or stand in their declared order, as in an array. -/
  named : Bool

/-- What a record does with members that it does not declare. -/
inductive Undeclared
  | ignored
  | refused
deriving DecidableEq, Repr

/-- The members of a record that declares some names. -/
def Document.members? (undeclared : Undeclared) (names : List String) : Document → Option Members
  | .array items => if items.length ≤ names.length then some ⟨names.zip items, false⟩ else none
  | document => do
    let given ← document.pairs? some
    let declared := given.filter fun pair => names.contains pair.1
    if declared.length != given.length && undeclared = .refused then none
    else if (declared.map Prod.fst).Nodup then some ⟨declared, true⟩
    else none

namespace Members

/-- The document of a member. -/
def find? (members : Members) (name : String) : Option Document :=
  (members.given.find? fun pair => pair.1 = name).map Prod.snd

/-- A member that has to be there. -/
def required? {α : Type} (members : Members) (name : String) (decode : Document → Option α) :
    Option α :=
  (members.find? name).bind decode

/-- A member that a default replaces when it is missing. -/
def withDefault? {α : Type} (members : Members) (name : String) (default : α)
    (decode : Document → Option α) : Option α :=
  match members.find? name with
  | none => some default
  | some document => decode document

/-- A member that may be null, or missing among named ones. -/
def optional? {α : Type} (members : Members) (name : String) (decode : Document → Option α) :
    Option (Option α) :=
  match members.find? name with
  | none => if members.named then some none else none
  | some document => document.nullable? decode

end Members

end Querent
