import Querent.Number.Binary64

/-! JSON values, whose objects keep their members in the order of insertion. -/

namespace Querent

/-- Integers that a JSON number holds exactly: those of 64 bits, with or without a sign. -/
structure Whole where
  value : Int
  inRange : -9223372036854775808 ≤ value ∧ value < 18446744073709551616
deriving DecidableEq, Repr

/-- A JSON value. -/
inductive Json where
  | null
  | bool (flag : Bool)
  | whole (number : Whole)
  | float (number : Binary64)
  | text (content : String)
  | array (items : List Json)
  | object (members : List (String × Json))
deriving Repr

namespace Json

/-- Members with one set: in its place if the name is there, else at the end. -/
def setMember (name : String) (value : Json) : List (String × Json) → List (String × Json)
  | [] => [(name, value)]
  | (other, old) :: rest =>
    if other = name then (name, value) :: rest else (other, old) :: setMember name value rest

/-- An object from pairs, in which a repeated name keeps its first place and its last value. -/
def ofPairs (pairs : List (String × Json)) : Json :=
  object (pairs.foldl (fun members pair => setMember pair.1 pair.2 members) [])

/-- A floating-point number, or null where JSON has none. -/
def ofFloat (x : Binary64) : Json :=
  if x.isFinite then float x else null

/-- An integer of the range of JSON numbers, or null outside of it. -/
def ofInt (n : Int) : Json :=
  if range : -9223372036854775808 ≤ n ∧ n < 18446744073709551616 then whole ⟨n, range⟩ else null

/-- A signed word. -/
def ofInt64 (n : Int64) : Json :=
  whole ⟨n.toInt, by have := n.le_toInt; have := n.toInt_lt; omega⟩

/-- An unsigned word. -/
def ofUInt64 (n : UInt64) : Json :=
  whole ⟨n.toNat, by have := n.toNat_lt; omega⟩

/-- A byte. -/
def ofByte (n : UInt8) : Json :=
  whole ⟨n.toNat, by have := n.toNat_lt; omega⟩

/-- A value that may be missing, as null when it is. -/
def ofOption {α : Type} (encode : α → Json) : Option α → Json
  | none => null
  | some value => encode value

end Json

end Querent
