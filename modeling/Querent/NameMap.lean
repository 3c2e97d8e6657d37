/-! Maps from names, kept in the order of the names' code points. -/

namespace Querent

/-- Names with one value each, in order. -/
structure NameMap (α : Type) where
  entries : List (String × α)
deriving Repr, DecidableEq

namespace NameMap

variable {α : Type}

/-- The map without names. -/
def empty : NameMap α := ⟨[]⟩

/-- Entries with one more in its place. -/
def place (name : String) (value : α) : List (String × α) → List (String × α)
  | [] => [(name, value)]
  | (other, old) :: rest =>
    if name < other then (name, value) :: (other, old) :: rest
    else if name = other then (name, value) :: rest
    else (other, old) :: place name value rest

/-- The map with a name's value set. -/
def insert (map : NameMap α) (name : String) (value : α) : NameMap α :=
  ⟨place name value map.entries⟩

/-- The value of a name. -/
def find? (map : NameMap α) (name : String) : Option α :=
  (map.entries.find? fun entry => entry.1 = name).map Prod.snd

/-- The map without a name. -/
def erase (map : NameMap α) (name : String) : NameMap α :=
  ⟨map.entries.filter fun entry => entry.1 ≠ name⟩

/-- The names in order. -/
def names (map : NameMap α) : List String :=
  map.entries.map Prod.fst

/-- How many names there are. -/
def size (map : NameMap α) : Nat :=
  map.entries.length

/-- The map of some pairs, a later value of a name replacing an earlier one. -/
def ofPairs (pairs : List (String × α)) : NameMap α :=
  pairs.foldl (fun map pair => map.insert pair.1 pair.2) empty

end NameMap

end Querent
