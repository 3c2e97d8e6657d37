import Querent.Disk.Node

/-! What a change at one place of a tree of directories leaves elsewhere. -/

namespace Querent

namespace NameMap

variable {α : Type}

/-- The map with the value of a name set, or without the name. -/
def change (map : NameMap α) (name : String) : Option α → NameMap α
  | some value => map.insert name value
  | none => map.erase name

/-- A name that is set has its value, and the others keep theirs. -/
theorem find?_insert (map : NameMap α) (name : String) (value : α) (other : String) :
    (map.insert name value).find? other = if name = other then some value else map.find? other := by
  obtain ⟨entries⟩ := map
  unfold insert find?
  -- The name is placed in front of any older entry of it.
  induction entries with
  | nil => by_cases same : name = other <;> simp [place, same]
  | cons entry rest ih =>
    obtain ⟨first, old⟩ := entry
    rw [place]
    split
    · by_cases same : name = other <;> simp [same]
    · split
      · next here =>
        subst here
        by_cases same : name = other <;> simp [same]
      · next differs =>
        by_cases front : first = other
        · -- An entry in front of the name is another one's.
          subst front
          simp [differs]
        · simpa [front] using ih

/-- A name that is erased has no value, and the others keep theirs. -/
theorem find?_erase (map : NameMap α) (name other : String) :
    (map.erase name).find? other = if name = other then none else map.find? other := by
  obtain ⟨entries⟩ := map
  unfold erase find?
  induction entries with
  | nil => simp
  | cons entry rest ih =>
    obtain ⟨first, old⟩ := entry
    dsimp only at ih
    by_cases here : first = name
    · -- The entry of the name is left out.
      subst here
      by_cases same : first = other <;> simp_all
    · by_cases front : first = other
      · subst front
        simp [here, Ne.symm here]
      · simpa [here, front] using ih

/-- A name that is changed has its new value, and the others keep theirs. -/
theorem find?_change (map : NameMap α) (name : String) (value : Option α) (other : String) :
    (map.change name value).find? other = if name = other then value else map.find? other := by
  cases value with
  | none => exact map.find?_erase name other
  | some value => exact map.find?_insert name value other

end NameMap

namespace Node

/-- Whether a node is a directory. -/
def IsDirectory : Node → Prop
  | directory _ _ => True
  | file _ _ => False

/-- A directory with a name changed. -/
theorem setChild_directory (name : String) (node : Option Node) (made : Int)
    (entries : NameMap Node) :
    (directory made entries).setChild name node = directory made (entries.change name node) := by
  cases node <;> rfl

/-- A name of a directory that is not the last one of a way leads on to the rest of the way. -/
theorem setBelow_cons (node : Option Node) (name last : String) (names : List String) (top : Node) :
    top.setBelow node (name :: (names ++ [last])) =
      match top.child? name with
      | none => top
      | some inner => top.setChild name (some (inner.setBelow node (names ++ [last]))) := by
  cases names <;> rfl

/-- The way down goes through what stands under its first name. -/
theorem below?_cons (name : String) (rest : List String) (top : Node) :
    top.below? (name :: rest) = (top.child? name).bind (below? rest) := by
  rw [below?]
  cases top.child? name <;> rfl

/-- The way down through a changed name goes through what is put there, and any other way goes on as
before. -/
theorem below?_directory_change (made : Int) (entries : NameMap Node) (name : String)
    (node : Option Node) (first : String) (rest : List String) :
    (directory made (entries.change name node)).below? (first :: rest) =
      if name = first then node.bind (below? rest)
      else (directory made entries).below? (first :: rest) := by
  rw [below?_cons, below?_cons, child?, child?, NameMap.find?_change]
  split <;> rfl

/-- The directory in which a name is changed has the change. -/
theorem below?_setBelow {names : List String} {top : Node} {made : Int} {entries : NameMap Node}
    (here : top.below? names = some (directory made entries)) (name : String)
    (node : Option Node) :
    (top.setBelow node (names ++ [name])).below? names =
      some (directory made (entries.change name node)) := by
  induction names generalizing top with
  | nil =>
    obtain rfl := Option.some.inj here
    exact congrArg some (setChild_directory name node made entries)
  | cons first rest ih =>
    rw [List.cons_append, setBelow_cons]
    rw [below?_cons] at here
    obtain ⟨inner, found, further⟩ := Option.bind_eq_some_iff.mp here
    cases top with
    | file content written => cases found
    | directory m es =>
      -- The change is further down, in what stands under the first name.
      rw [found]
      dsimp only
      rw [setChild_directory, below?_directory_change, if_pos rfl]
      exact ih further

/-- Where a name that is no directory is changed in a directory, directories below it stay there. -/
theorem isDirectory_change {made : Int} {entries : NameMap Node} {name : String}
    (free : ∀ old ∈ entries.find? name, ¬old.IsDirectory) (node : Option Node)
    {way : List String} {place : Node} (found : (directory made entries).below? way = some place)
    (stands : place.IsDirectory) :
    ∃ after, (directory made (entries.change name node)).below? way = some after ∧
      after.IsDirectory := by
  cases way with
  | nil => exact ⟨_, rfl, trivial⟩
  | cons first rest =>
    rw [below?_directory_change]
    split
    · -- There was no directory under the name, nor below it.
      next same =>
      subst same
      rw [below?_cons] at found
      obtain ⟨old, named, further⟩ := Option.bind_eq_some_iff.mp found
      have gone := free old named
      cases old with
      | directory m es => exact absurd trivial gone
      | file content written =>
        cases rest with
        | nil =>
          obtain rfl := Option.some.inj further
          exact stands.elim
        | cons next rest => cases further
    · exact ⟨place, found, stands⟩

/-- Where no directory is replaced, directories stay directories. -/
theorem isDirectory_setBelow {names : List String} {top : Node} {made : Int}
    {entries : NameMap Node} (here : top.below? names = some (directory made entries))
    {name : String} (free : ∀ old ∈ entries.find? name, ¬old.IsDirectory) (node : Option Node)
    {way : List String} {place : Node} (found : top.below? way = some place)
    (stands : place.IsDirectory) :
    ∃ after, (top.setBelow node (names ++ [name])).below? way = some after ∧ after.IsDirectory := by
  induction names generalizing top way with
  | nil =>
    obtain rfl := Option.some.inj here
    rw [List.nil_append, setBelow, setChild_directory]
    exact isDirectory_change free node found stands
  | cons first names ih =>
    rw [below?_cons] at here
    obtain ⟨inner, named, further⟩ := Option.bind_eq_some_iff.mp here
    cases top with
    | file content written => cases named
    | directory m es =>
      rw [List.cons_append, setBelow_cons, named]
      dsimp only
      rw [setChild_directory]
      cases way with
      | nil => exact ⟨_, rfl, trivial⟩
      | cons step rest =>
        rw [below?_directory_change]
        split
        · -- The way goes down to the change, or past it.
          next same =>
          subst same
          rw [below?_cons, named] at found
          exact ih further found
        · exact ⟨place, found, stands⟩

end Node

end Querent
