import Mathlib.Logic.Function.Basic
import Querent.Disk
import Querent.Proofs.Disk.Node

/-! The directory that a path leads to, by what it has under each name before and after a change. -/

namespace Querent

/-- Whether a step of a path is a name, which leads down. -/
structure IsName (step : String) : Prop where
  moves : staysPut step = false
  down : step ≠ ".."

/-- A path has the bytes of its two parts. -/
theorem Path.size_append (path back : Path) :
    Path.size (path ++ back) = path.size + back.size := by
  -- Each step counts the byte behind it, so that the two parts add up.
  induction path with
  | nil => simp [Path.size]
  | cons step rest ih =>
    rw [List.cons_append, Path.size, Path.size, ih]
    omega

/-- A name has one more byte than it is spelled with. -/
theorem Path.size_name (name : String) : Path.size [name] = name.utf8ByteSize + 1 :=
  rfl

/-- A path that is not refused is not too long. -/
theorem Path.size_le_of_accepted {path : Path} (accepted : path.fault? = none) :
    path.size ≤ sizeLimit := by
  unfold fault? at accepted
  split at accepted
  · cases accepted
  · split at accepted
    · cases accepted
    · next fits => exact Nat.not_lt.mp fits

/-- The front of a path is refused for no reason of its own. -/
theorem Path.fault?_of_append {path back : Path} (accepted : Path.fault? (path ++ back) = none) :
    path.fault? = none := by
  -- A part of a path is no longer than the whole of it, and has no character that this has not.
  have fits := size_le_of_accepted accepted
  rw [size_append] at fits
  unfold fault? at accepted ⊢
  split at accepted
  · cases accepted
  · next clear =>
    rw [List.any_append, Bool.or_eq_true, not_or] at clear
    rw [if_neg clear.1, if_neg (by omega)]

/-- Whether a path may be followed by a name, and this name by no others. -/
structure Path.Takes (path : Path) (name : String) : Prop where
  moves : staysPut name = false
  down : name ≠ ".."
  short : name.utf8ByteSize ≤ nameLimit
  fits : Path.fault? (path ++ [name]) = none

namespace Disk

/-- Whether a path leads to a directory, at the end of a trail, that has these nodes under its names
and no others. -/
def Holds (disk : Disk) (path : Path) (trail : List String) (nodes : String → Option Node) : Prop :=
  ∃ made entries, disk.locate path = .ok ⟨trail, some (.directory made entries)⟩ ∧
    entries.find? = nodes

variable {disk : Disk} {path : Path} {trail : List String} {made : Int} {entries : NameMap Node}
  {nodes : String → Option Node} {name : String}

/-- A path that is followed to its end has no fault. -/
theorem walk_of_locate {spot : Spot} (located : disk.locate path = .ok spot) :
    path.fault? = none ∧ disk.walk (disk.spot []) path = .ok spot := by
  unfold locate at located
  split at located
  · cases located
  · next accepted => exact ⟨accepted, located⟩

/-- Where one step of a path leads from a spot. -/
def stride (disk : Disk) (spot : Spot) (step : String) : Except DiskFault Spot :=
  match spot.node? with
  | none => .error .missing
  | some (.file _ _) => .error .notDirectory
  | some (.directory _ entries) =>
    if staysPut step then .ok spot
    else if step = ".." then .ok (disk.spot spot.trail.tail)
    else if Path.nameLimit < step.utf8ByteSize then .error .tooLong
    else .ok ⟨step :: spot.trail, entries.find? step⟩

/-- A walk takes one step after another. -/
theorem walk_cons (spot : Spot) (step : String) (rest : Path) :
    disk.walk spot (step :: rest) = (disk.stride spot step).bind (disk.walk · rest) := by
  rw [walk, stride]
  -- A step fails at a file or where nothing is, and a walk fails there, too.
  cases spot.node? with
  | none => rfl
  | some node =>
    cases node with
    | file content written => rfl
    | directory made entries =>
      dsimp only
      split
      · rfl
      · split
        · rfl
        · split <;> rfl

/-- A path is followed through its front and then through its back. -/
theorem walk_append (spot : Spot) (front back : Path) :
    disk.walk spot (front ++ back) = (disk.walk spot front).bind (disk.walk · back) := by
  -- Where the walk stands is what the rest of it starts from.
  induction front generalizing spot with
  | nil => rfl
  | cons step rest ih =>
    rw [List.cons_append, walk_cons, walk_cons]
    cases disk.stride spot step with
    | error fault => rfl
    | ok between => exact ih between

/-- What is at the end of a trail is found on the way down. -/
theorem spot_cons
    (here : disk.root.below? trail.reverse = some (.directory made entries)) (name : String) :
    disk.spot (name :: trail) = ⟨name :: trail, entries.find? name⟩ := by
  rw [spot, List.reverse_cons, Node.below?_append, here]
  rfl

/-- The trail to which a step leads from a directory. -/
def turn (trail : List String) (step : String) : Except DiskFault (List String) :=
  if staysPut step then .ok trail
  else if step = ".." then .ok trail.tail
  else if Path.nameLimit < step.utf8ByteSize then .error .tooLong
  else .ok (step :: trail)

/-- From a directory, a step leads on by its name alone. -/
theorem stride_of_directory {place : Node}
    (here : disk.root.below? trail.reverse = some place) (stands : place.IsDirectory)
    (step : String) :
    disk.stride (disk.spot trail) step = (turn trail step).map disk.spot := by
  cases place with
  | file content written => exact stands.elim
  | directory made entries =>
    have node : (disk.spot trail).node? = some (.directory made entries) := here
    rw [stride, node, turn]
    -- By its name alone: what is under the name is what the disk has at the longer trail.
    have name : (⟨step :: (disk.spot trail).trail, entries.find? step⟩ : Spot) =
        disk.spot (step :: trail) := (spot_cons here step).symm
    dsimp only
    rw [name]
    split
    · rfl
    · split
      · rfl
      · split <;> rfl

/-- A step is only taken from a directory. -/
theorem isDirectory_of_stride {step : String} {goal : Spot}
    (stepped : disk.stride (disk.spot trail) step = .ok goal) :
    ∃ place, disk.root.below? trail.reverse = some place ∧ place.IsDirectory := by
  have node : (disk.spot trail).node? = disk.root.below? trail.reverse := rfl
  -- Of the three things that may be at a spot, only one has steps.
  unfold stride at stepped
  split at stepped
  · cases stepped
  · cases stepped
  · next made entries here => exact ⟨_, node.symm.trans here, trivial⟩

/-- Where directories stay directories, a walk leads to the same place. -/
theorem walk_of_directories {after : Disk} {goal : Spot}
    (stay : ∀ way place, disk.root.below? way = some place → place.IsDirectory →
      ∃ place', after.root.below? way = some place' ∧ place'.IsDirectory)
    (walked : disk.walk (disk.spot trail) path = .ok goal) :
    after.walk (after.spot trail) path = .ok (after.spot goal.trail) := by
  -- The trails of the two walks stay the same, while what is at their spots may differ.
  induction path generalizing trail with
  | nil =>
    obtain rfl := Except.ok.inj walked
    rfl
  | cons step rest ih =>
    rw [walk_cons] at walked ⊢
    cases stepped : disk.stride (disk.spot trail) step with
    | error fault =>
      rw [stepped] at walked
      cases walked
    | ok between =>
      -- The step is taken from a directory, which is one on both disks.
      obtain ⟨place, here, stands⟩ := isDirectory_of_stride stepped
      obtain ⟨place', here', stands'⟩ := stay _ place here stands
      rw [stepped] at walked
      rw [stride_of_directory here stands] at stepped
      rw [stride_of_directory here' stands']
      cases onward : turn trail step with
      | error fault =>
        rw [onward] at stepped
        cases stepped
      | ok next =>
        rw [onward] at stepped
        obtain rfl := Except.ok.inj stepped
        exact ih walked

/-- A file name behind a path leads to the entry of that name. -/
theorem locate_append
    (located : disk.locate path = .ok ⟨trail, some (.directory made entries)⟩)
    (takes : path.Takes name) :
    disk.locate (path ++ [name]) = .ok ⟨name :: trail, entries.find? name⟩ := by
  -- The path is followed to the directory first.
  obtain ⟨-, walked⟩ := walk_of_locate located
  rw [locate, takes.fits]
  dsimp only
  rw [walk_append, walked]
  -- The last step is a name that is not too long.
  have step : disk.stride ⟨trail, some (.directory made entries)⟩ name =
      .ok ⟨name :: trail, entries.find? name⟩ := by
    rw [stride]
    dsimp only
    rw [takes.moves, if_neg Bool.false_ne_true, if_neg takes.down,
      if_neg (Nat.not_lt.mpr takes.short)]
  change disk.walk ⟨trail, some (.directory made entries)⟩ [name] = _
  rw [walk_cons, step]
  rfl

/-- The directory at the end of a path is the one on the way down along its trail. -/
theorem below?_of_locate
    (located : disk.locate path = .ok ⟨trail, some (.directory made entries)⟩) :
    disk.root.below? trail.reverse = some (.directory made entries) := by
  have reached := disk.walk_spot (walk_of_locate located).2
  exact (congrArg Spot.node? reached).symm

/-- When a name that is no directory is changed, its directory has the change. -/
theorem locate_set
    (located : disk.locate path = .ok ⟨trail, some (.directory made entries)⟩)
    (free : ∀ old ∈ entries.find? name, ¬old.IsDirectory) (node : Option Node) :
    (disk.set (name :: trail) node).locate path =
      .ok ⟨trail, some (.directory made (entries.change name node))⟩ := by
  have here := below?_of_locate located
  obtain ⟨accepted, walked⟩ := walk_of_locate located
  have root : (disk.set (name :: trail) node).root =
      disk.root.setBelow node (trail.reverse ++ [name]) := by
    rw [set, List.reverse_cons]
  -- No directory on the way is lost, as none is at the place that changes.
  have stay : ∀ way place, disk.root.below? way = some place → place.IsDirectory →
      ∃ place', (disk.set (name :: trail) node).root.below? way = some place' ∧
        place'.IsDirectory := by
    intro way place found stands
    rw [root]
    exact Node.isDirectory_setBelow here free node found stands
  -- So the path is walked as before, and what it leads to is read off the new tree.
  have again := walk_of_directories stay walked
  rw [locate, accepted]
  refine again.trans ?_
  rw [spot, root, Node.below?_setBelow here]

/-- What a name in a directory leads to. -/
theorem Holds.find (holds : disk.Holds path trail nodes) (takes : path.Takes name) :
    disk.find (path ++ [name]) = (nodes name).elim (.error .missing) .ok := by
  obtain ⟨made, entries, located, rfl⟩ := holds
  rw [Disk.find, locate_append located takes]
  cases entries.find? name <;> rfl

/-- Where a name in a directory is. -/
theorem Holds.locate (holds : disk.Holds path trail nodes) (takes : path.Takes name) :
    disk.locate (path ++ [name]) = .ok ⟨name :: trail, nodes name⟩ := by
  obtain ⟨made, entries, located, rfl⟩ := holds
  exact locate_append located takes

/-- A name in a directory has a new node once it is given one, if there was no directory under it.
-/
theorem Holds.set (holds : disk.Holds path trail nodes)
    (free : ∀ old ∈ nodes name, ¬old.IsDirectory) (node : Option Node) :
    (disk.set (name :: trail) node).Holds path trail (Function.update nodes name node) := by
  obtain ⟨made, entries, located, rfl⟩ := holds
  refine ⟨made, entries.change name node, locate_set located free node, ?_⟩
  funext other
  rw [NameMap.find?_change, Function.update_apply]
  simp only [eq_comm]

/-- There is one directory at the end of a path. -/
theorem Holds.unique {trail' : List String} {nodes' : String → Option Node}
    (holds : disk.Holds path trail nodes) (too : disk.Holds path trail' nodes') :
    trail = trail' ∧ nodes = nodes' := by
  obtain ⟨made, entries, located, rfl⟩ := holds
  obtain ⟨made', entries', located', rfl⟩ := too
  -- A path is located in one way, and this tells all that is in the directory.
  rw [located] at located'
  cases located'
  exact ⟨rfl, rfl⟩

/-- What a path leads to is at a spot. -/
theorem locate_of_find {node : Node} (found : disk.find path = .ok node) :
    ∃ trail, disk.locate path = .ok ⟨trail, some node⟩ := by
  unfold Disk.find at found
  cases located : disk.locate path with
  | error fault =>
    rw [located] at found
    cases found
  | ok spot =>
    obtain ⟨trail, node?⟩ := spot
    rw [located] at found
    -- A spot that is free is not found.
    cases node? with
    | none => cases found
    | some other =>
      cases found
      exact ⟨trail, rfl⟩

/-- Where a name behind a path can be located, the path leads to a directory that takes the name. -/
theorem holds_of_locate (isName : IsName name) {spot : Spot}
    (located : disk.locate (path ++ [name]) = .ok spot) :
    ∃ trail nodes, disk.Holds path trail nodes ∧ path.Takes name ∧
      spot = ⟨name :: trail, nodes name⟩ := by
  obtain ⟨accepted, walked⟩ := walk_of_locate located
  -- The walk to the name goes through the directory, and its last step is the name.
  rw [walk_append] at walked
  cases front : disk.walk (disk.spot []) path with
  | error fault =>
    rw [front] at walked
    cases walked
  | ok between =>
    rw [front] at walked
    change disk.walk between [name] = _ at walked
    rw [walk_cons] at walked
    have reached : disk.locate path = .ok between := by
      rw [locate, Path.fault?_of_append accepted]
      exact front
    obtain ⟨trail, node?⟩ := between
    unfold stride at walked
    dsimp only at walked
    -- The name can only be looked for in a directory.
    split at walked
    · cases walked
    · cases walked
    · next made entries =>
      -- A name leads down, unless it is too long.
      rw [isName.moves, if_neg Bool.false_ne_true, if_neg isName.down] at walked
      split at walked
      · cases walked
      · next short =>
        cases walked
        exact ⟨trail, entries.find?, ⟨made, entries, reached, rfl⟩,
          ⟨isName.moves, isName.down, Nat.not_lt.mp short, accepted⟩, rfl⟩

end Disk

end Querent
