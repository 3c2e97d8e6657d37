import Querent.NameMap

/-! Trees of directories and files, each with the time when it was made or last written. -/

namespace Querent

/-- A directory with what stands in it under names, or a file with its bytes. -/
inductive Node
  | directory (made : Int) (entries : NameMap Node)
  | file (content : List UInt8) (written : Int)

namespace Node

/-- How long ago a node was made or written; a time to come counts as now. -/
def age (now : Int) : Node → Nat
  | directory made _ => (now - made).toNat
  | file _ written => (now - written).toNat

/-- What stands in a directory under a name; there is nothing in a file. -/
def child? (name : String) : Node → Option Node
  | directory _ entries => entries.find? name
  | file _ _ => none

/-- A directory with one node under a name, or none; a file has no place for it. -/
def setChild (name : String) (node : Option Node) : Node → Node
  | directory made entries =>
    match node with
    | some node => directory made (entries.insert name node)
    | none => directory made (entries.erase name)
  | file content written => file content written

/-- What is found on the way down along names. -/
def below? : List String → Node → Option Node
  | [], top => some top
  | name :: rest, top =>
    match top.child? name with
    | none => none
    | some inner => inner.below? rest

/-- A tree with one node at the end of the way down along names, or none; the way must be there. -/
def setBelow (node : Option Node) : List String → Node → Node
  | [], top => top
  | [name], top => top.setChild name node
  | name :: rest, top =>
    match top.child? name with
    | none => top
    | some inner => top.setChild name (some (inner.setBelow node rest))

/-- The way down along names and one more leads to what the last directory has under it. -/
theorem below?_append (names : List String) (name : String) (top : Node) :
    top.below? (names ++ [name]) = (top.below? names).bind (child? name) := by
  induction names generalizing top with
  | nil => cases found : top.child? name <;> simp [below?, found]
  | cons first rest ih => cases found : top.child? first <;> simp [below?, found, ih]

end Node

end Querent
