import Querent.Proofs.Disk.Calls

/-! All files of a disk by the trails of names that lead to them, and what is done to them. -/

namespace Querent

namespace Node

/-- The bytes of a file and the time when it was written. -/
def file? : Node → Option (List UInt8 × Int)
  | directory _ _ => none
  | file content written => some (content, written)

/-- Whether nothing stands in what is put somewhere. -/
def Bare (node : Option Node) : Prop :=
  ∀ placed ∈ node, ∀ name, placed.child? name = none

/-- Below what is no directory there is nothing. -/
theorem below?_of_bare {node : Option Node} (bare : Bare node) (name : String)
    (rest : List String) : node.bind (below? (name :: rest)) = none := by
  -- Neither nothing nor a bare node has anything under a name.
  cases node with
  | none => rfl
  | some placed => rw [Option.bind_some, below?_cons, bare placed rfl name, Option.bind_none]

/-- What is no directory is bare. -/
theorem bare_of_free {node : Option Node} (free : ∀ old ∈ node, ¬old.IsDirectory) : Bare node := by
  intro placed here name
  cases placed with
  | directory made entries => exact absurd trivial (free _ here)
  | file content written => rfl

/-- Where a name that is no directory is given another bare node, that file alone is changed. -/
theorem file?_setBelow {names : List String} {top : Node} {made : Int} {entries : NameMap Node}
    (here : top.below? names = some (directory made entries)) {name : String}
    (free : ∀ old ∈ entries.find? name, ¬old.IsDirectory) {node : Option Node} (bare : Bare node)
    (way : List String) :
    ((top.setBelow node (names ++ [name])).below? way).bind file? =
      if way = names ++ [name] then node.bind file? else (top.below? way).bind file? := by
  -- The way down to the directory is walked name by name, and the question is whether the other way
  -- is the same.
  induction names generalizing top way with
  | nil =>
    obtain rfl := Option.some.inj here
    rw [List.nil_append, setBelow, setChild_directory]
    cases way with
    | nil => rfl
    | cons first rest =>
      rw [below?_directory_change]
      by_cases same : name = first
      · subst same
        rw [if_pos rfl]
        cases rest with
        | nil =>
          rw [if_pos rfl]
          cases node <;> rfl
        | cons next rest =>
          -- There is nothing further down, neither before nor after.
          rw [below?_of_bare bare, if_neg (by simp), below?_cons, child?,
            below?_of_bare (bare_of_free free)]
      · rw [if_neg same, if_neg (by simp [Ne.symm same])]
  | cons first names ih =>
    rw [below?_cons] at here
    obtain ⟨inner, named, further⟩ := Option.bind_eq_some_iff.mp here
    cases top with
    | file content written => cases named
    | directory m es =>
      rw [List.cons_append, setBelow_cons, named]
      dsimp only
      rw [setChild_directory]
      cases way with
      | nil => rfl
      | cons step rest =>
        rw [below?_directory_change]
        by_cases same : first = step
        · subst same
          have down : (directory m es).below? (first :: rest) = inner.below? rest := by
            rw [below?_cons, named, Option.bind_some]
          rw [if_pos rfl, Option.bind_some, ih further, down]
          exact if_congr (by simp) rfl rfl
        · rw [if_neg same, if_neg (by simp [Ne.symm same])]

end Node

namespace Disk

variable {disk after : Disk} {path : Path} {trail : List String} {nodes : String → Option Node}
  {name : String}

/-- The file at the end of a trail. -/
def file? (disk : Disk) (trail : List String) : Option (List UInt8 × Int) :=
  (disk.spot trail).node?.bind Node.file?

/-- What is in the way of calls makes no difference to the files. -/
theorem file?_congr {other : Disk} (same : disk.root = other.root) : disk.file? = other.file? := by
  funext trail
  simp only [file?, spot, same]

/-- Where a name in a directory is given another bare node, that file alone is changed. -/
theorem file?_set {made : Int} {entries : NameMap Node}
    (here : disk.root.below? trail.reverse = some (.directory made entries))
    (free : ∀ old ∈ entries.find? name, ¬old.IsDirectory) {node : Option Node}
    (bare : Node.Bare node) :
    (disk.set (name :: trail) node).file? =
      Function.update disk.file? (name :: trail) (node.bind Node.file?) := by
  funext place
  have changed := Node.file?_setBelow here free bare place.reverse
  -- The trail is read from its end, so that the name comes last on the way down.
  rw [← List.reverse_cons] at changed
  simp only [List.reverse_inj] at changed
  rw [Function.update_apply]
  exact changed

/-- A name in a directory that has no directory under it may be given a bare node. -/
theorem Holds.file?_set (holds : disk.Holds path trail nodes)
    (free : ∀ old ∈ nodes name, ¬old.IsDirectory) {node : Option Node} (bare : Node.Bare node) :
    (disk.set (name :: trail) node).file? =
      Function.update disk.file? (name :: trail) (node.bind Node.file?) := by
  obtain ⟨made, entries, located, rfl⟩ := holds
  exact Disk.file?_set (below?_of_locate located) free bare

/-- The file of a name in a directory. -/
theorem Holds.file? (holds : disk.Holds path trail nodes) (name : String) :
    disk.file? (name :: trail) = (nodes name).bind Node.file? := by
  obtain ⟨made, entries, located, rfl⟩ := holds
  rw [Disk.file?, spot_cons (below?_of_locate located)]

/-- The file at the end of a trail, where it was located. -/
theorem file?_of_locate {spot : Spot} (located : disk.locate path = .ok spot) :
    disk.file? spot.trail = spot.node?.bind Node.file? := by
  have reached := disk.walk_spot (walk_of_locate located).2
  rw [file?, ← reached]

/-- What is written in full is the one file that changes. -/
theorem file?_of_write (isName : IsName name) {content : List UInt8} {now : Int}
    (wrote : disk.writeBytes (path ++ [name]) content now = (.ok (), after)) :
    ∃ trail nodes, disk.Holds path trail nodes ∧
      after.file? = Function.update disk.file? (name :: trail) (some (content, now)) := by
  -- What was there before was no directory, and neither is what is there now.
  obtain ⟨trail, nodes, holds, free, rfl⟩ := set_of_write isName wrote
  exact ⟨trail, nodes, holds,
    holds.file?_set free (Node.bare_of_free (by simp [Node.IsDirectory]))⟩

/-- What cannot be written in full is the one file that changes, if any does. -/
theorem file?_writeBytes (isName : IsName name) (disk : Disk) (path : Path) (content : List UInt8)
    (now : Int) :
    let after := (disk.writeBytes (path ++ [name]) content now).2
    after.file? = disk.file? ∨ ∃ trail left,
      after.file? = Function.update disk.file? (name :: trail) left := by
  -- A file that could not be opened is as it was; one that was opened has lost its content at
  -- least.
  rcases writeBytes_cases isName disk path content now
    with ⟨fault, refused⟩ | ⟨trail, nodes, holds, free, written⟩
  · rw [refused]
    exact .inl rfl
  · rw [written]
    exact .inr ⟨trail, _, holds.file?_set free (Node.bare_of_free (by simp [Node.IsDirectory]))⟩

/-- What is removed is the one file that changes. -/
theorem file?_of_remove (isName : IsName name)
    (removed : disk.remove (path ++ [name]) = .ok after) :
    ∃ trail nodes, disk.Holds path trail nodes ∧
      after.file? = Function.update disk.file? (name :: trail) none := by
  obtain ⟨trail, nodes, holds, free, rfl⟩ := set_of_remove isName removed
  exact ⟨trail, nodes, holds, holds.file?_set free (Node.bare_of_free (by simp))⟩

/-- A file that is renamed is moved, and no other file changes. -/
theorem Holds.file?_of_rename {target : String} (holds : disk.Holds path trail nodes)
    (isName : IsName name) (targetIsName : IsName target) (moved : target ≠ name)
    {content : List UInt8} {written : Int} (file : nodes name = some (.file content written))
    (renamed : disk.rename (path ++ [name]) (path ++ [target]) = .ok after) :
    after.file? = Function.update (Function.update disk.file? (name :: trail) none)
      (target :: trail) (some (content, written)) := by
  obtain ⟨free, rfl⟩ := holds.set_of_rename isName targetIsName file renamed
  -- The file is taken away first, and is then put under a name where no directory is.
  have own : ∀ old ∈ nodes name, ¬old.IsDirectory := by simp [file, Node.IsDirectory]
  have taken := holds.set own none
  have still : ∀ old ∈ Function.update nodes name none target, ¬old.IsDirectory := by
    rwa [Function.update_of_ne moved]
  rw [taken.file?_set still (Node.bare_of_free (by simp [Node.IsDirectory])),
    holds.file?_set own (Node.bare_of_free (by simp))]
  rfl

/-- What is on the way to something is there. -/
theorem isSome_of_cons {first : String} {rest : List String}
    (here : (disk.spot (first :: rest)).node? ≠ none) : (disk.spot rest).node? ≠ none := by
  -- If the directory were not there, nothing would be under a name in it.
  intro gone
  refine here ?_
  change disk.root.below? rest.reverse = none at gone
  rw [spot, List.reverse_cons, Node.below?_append, gone]
  rfl

/-- Where a walk from something that is there leads to nothing, that is under a name in a directory.
-/
theorem free_of_walk (here : (disk.spot trail).node? ≠ none) {goal : Spot}
    (walked : disk.walk (disk.spot trail) path = .ok goal) (free : goal.node? = none) :
    ∃ name rest made entries, goal.trail = name :: rest ∧
      disk.root.below? rest.reverse = some (.directory made entries) ∧
      entries.find? name = none := by
  -- Only the last step can lead to nothing, as no step is taken from there.
  induction path generalizing trail with
  | nil =>
    cases walked
    exact absurd free here
  | cons step rest ih =>
    rw [walk_cons] at walked
    cases stepped : disk.stride (disk.spot trail) step with
    | error fault =>
      rw [stepped] at walked
      cases walked
    | ok between =>
      rw [stepped] at walked
      -- The step is taken from a directory: it stays there, leads up, or leads down to a name.
      obtain ⟨place, found, stands⟩ := isDirectory_of_stride stepped
      cases place with
      | file content written => exact stands.elim
      | directory made entries =>
        rw [stride_of_directory found stands, turn] at stepped
        split at stepped
        · cases stepped
          exact ih here walked
        · split at stepped
          · cases stepped
            refine ih ?_ walked
            cases trail with
            | nil => exact here
            | cons first trail => exact isSome_of_cons here
          · split at stepped
            · cases stepped
            · cases stepped
              -- One name further down, the walk goes on only if something is there.
              cases below : entries.find? step with
              | some node =>
                refine ih ?_ walked
                rw [spot_cons found, below]
                simp
              | none =>
                have onward : disk.spot (step :: trail) = ⟨step :: trail, none⟩ := by
                  rw [spot_cons found, below]
                change disk.walk (disk.spot (step :: trail)) rest = .ok goal at walked
                rw [onward] at walked
                cases rest with
                | nil =>
                  cases walked
                  exact ⟨step, trail, made, entries, rfl, found, below⟩
                | cons next rest => cases walked

/-- A directory that is made where there is nothing changes no file. -/
theorem file?_mkdir (here : (disk.spot trail).node? ≠ none) {goal : List String}
    (walked : disk.walk (disk.spot trail) path = .ok ⟨goal, none⟩) (now : Int) :
    (disk.set goal (some (.directory now .empty))).file? = disk.file? := by
  -- The place is a free name in a directory, where no file was and none comes.
  obtain ⟨name, rest, since, entries, rfl, parent, free⟩ := free_of_walk here walked rfl
  have bare : Node.Bare (some (.directory now .empty)) := by
    rintro _ ⟨⟩ name
    rfl
  have nothing : disk.file? (name :: rest) = none := by
    rw [file?, spot_cons parent, free]
    rfl
  rw [file?_set parent (by simp [free]) bare]
  exact (Function.update_eq_self_iff ..).mpr nothing.symm

/-- To make a directory changes no file. -/
theorem file?_of_createDirectory {now : Int}
    (made : disk.createDirectory path now = .ok after) : after.file? = disk.file? := by
  -- The walk starts from the root, which is there.
  have top : (disk.spot []).node? ≠ none := by simp [spot, Node.below?]
  obtain ⟨_, -, made⟩ := exists_of_bind made
  obtain ⟨⟨way, node?⟩, located, made⟩ := exists_of_bind made
  cases node? with
  | some node => cases made
  | none =>
    cases made
    exact file?_mkdir top (walk_of_locate located).2 now

/-- To make a directory where there is none changes no file. -/
theorem file?_ensureDirectory (disk : Disk) (path : Path) (now : Int) :
    (disk.ensureDirectory path now).2.file? = disk.file? := by
  -- It is made or not, and to ask whether one is there changes nothing.
  unfold ensureDirectory
  split
  · next made => exact file?_of_createDirectory made
  · split <;> rfl

/-- To make directories from the lowest one up changes no file. -/
theorem file?_createUpward (now : Int) (disk : Disk) (path : Path) (above : List String) :
    (createUpward now disk path above).2.file? = disk.file? := by
  -- Each call is for one directory higher, until one is not missing.
  induction above generalizing path with
  | nil => exact disk.file?_ensureDirectory path now
  | cons name above ih =>
    have upper := ih (name :: above).reverse
    rw [createUpward]
    split
    · -- Those above are made first, as far as they can be.
      generalize createUpward now disk (name :: above).reverse above = step at upper ⊢
      obtain ⟨outcome, between⟩ := step
      cases outcome with
      | error fault => exact upper
      | ok _ => exact (between.file?_ensureDirectory path now).trans upper
    · exact disk.file?_ensureDirectory path now

/-- To make a directory and those above it changes no file. -/
theorem file?_createDirectories (disk : Disk) (path : Path) (now : Int) :
    (disk.createDirectories path now).2.file? = disk.file? :=
  file?_createUpward now disk path _

end Disk

end Querent
