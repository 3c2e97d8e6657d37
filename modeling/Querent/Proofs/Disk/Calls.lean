import Mathlib.Data.List.TakeWhile
import Querent.Proofs.Disk.Directory
import Querent.Proofs.Text.Bytes

/-! What calls do to the files of one directory: what a call that was done has done, and which calls
are done where the system is not in the way. -/

namespace Querent

/-- What is bound gives a result if its first part gives one from which the rest does. -/
theorem exists_of_bind {α β : Type} {first : Except DiskFault α} {rest : α → Except DiskFault β}
    {result : β} (bound : first >>= rest = .ok result) :
    ∃ given, first = .ok given ∧ rest given = .ok result := by
  cases first with
  | error fault => cases bound
  | ok given => exact ⟨given, rfl, bound⟩

namespace Hindrances

variable {hindrances : Hindrances} {path : Path} {content : List UInt8}

/-- A file without content is always written. -/
theorem fill_nil (hindrances : Hindrances) (path : Path) :
    hindrances.fill path [] = (.ok (), []) := by
  unfold fill
  split <;> simp

/-- What is written in full is all of the content. -/
theorem fill_of_ok (filled : (hindrances.fill path content).1 = .ok ()) :
    hindrances.fill path content = (.ok (), content) := by
  unfold fill at filled ⊢
  -- Without a limit, or within it, nothing is left out.
  split
  · rfl
  · next limit fault limited =>
    rw [limited] at filled
    dsimp only at filled
    split at filled
    · next fits => exact if_pos fits
    · cases filled

/-- Whether nothing is in the way of calls on a path, or on what is below it. -/
def Spare (hindrances : Hindrances) (path : Path) : Prop :=
  ∀ below, (∀ call, hindrances.refusal? call (path ++ below) = none) ∧
    hindrances.limit? (path ++ below) = none

/-- Where nothing is in the way at all, nothing is on a path. -/
theorem spare_free (path : Path) : free.Spare path :=
  fun _ => ⟨fun _ => rfl, rfl⟩

/-- Where nothing is in the way of a path, nothing is further down. -/
theorem Spare.append (spare : hindrances.Spare path) (back : Path) :
    hindrances.Spare (path ++ back) := by
  intro below
  rw [List.append_assoc]
  exact spare (back ++ below)

/-- Where nothing is in the way, no call on the path itself is refused. -/
theorem Spare.refusal?_eq_none (spare : hindrances.Spare path) (call : DiskCall) :
    hindrances.refusal? call path = none := by
  have clear := (spare []).1 call
  rwa [List.append_nil] at clear

/-- Where nothing is in the way, all of the content is written. -/
theorem Spare.fill (spare : hindrances.Spare path) (below : Path) (content : List UInt8) :
    hindrances.fill (path ++ below) content = (.ok (), content) := by
  rw [Hindrances.fill, (spare below).2]

end Hindrances

namespace Disk

variable {disk after : Disk} {path : Path} {trail : List String} {nodes : String → Option Node}
  {name : String}

/-- A call that is let through is not refused for a reason of the system. -/
theorem allow_eq_ok_iff {call : DiskCall} :
    disk.allow call path = .ok () ↔ disk.hindrances.refusal? call path = none := by
  unfold allow
  cases disk.hindrances.refusal? call path <;> simp

/-- What the system says is at the end of a path, the path leads to. -/
theorem stat_eq_ok_iff {node : Node} : disk.stat path = .ok node ↔
    disk.hindrances.refusal? .stat path = none ∧ disk.find path = .ok node := by
  rw [← allow_eq_ok_iff]
  -- The call is let through first, and then it sees what is there.
  constructor
  · intro said
    obtain ⟨_, allowed, found⟩ := exists_of_bind said
    exact ⟨allowed, found⟩
  · rintro ⟨allowed, found⟩
    rw [stat, allowed]
    exact found

/-- Bytes that are read are those of the file that the path leads to. -/
theorem readBytes_eq_ok_iff {content : List UInt8} : disk.readBytes path = .ok content ↔
    disk.hindrances.refusal? .read path = none ∧
      ∃ written, disk.find path = .ok (.file content written) := by
  rw [← allow_eq_ok_iff]
  constructor
  · -- A directory is refused, so that a file was found.
    intro read
    obtain ⟨_, allowed, read⟩ := exists_of_bind read
    obtain ⟨node, found, read⟩ := exists_of_bind read
    refine ⟨allowed, ?_⟩
    cases node with
    | directory made entries => cases read
    | file bytes written =>
      obtain rfl := Except.ok.inj read
      exact ⟨written, found⟩
  · rintro ⟨allowed, written, found⟩
    rw [readBytes, allowed, found]
    rfl

/-- The text of a file is read from the bytes of that text. -/
theorem read_of_readBytes {text : String} (read : disk.readBytes path = .ok (textBytes text)) :
    disk.read path = .ok text := by
  -- The bytes are those of the characters, which is what makes them valid.
  have whole := fromUTF8?_charBytes text.toList
  rw [← textBytes_eq, String.ofList_toList] at whole
  rw [Disk.read, read]
  dsimp only [bind, Except.bind]
  rw [whole]

/-- A file is opened under a name in a directory, where no other directory is. -/
theorem holds_of_openFile (isName : IsName name) {way : List String}
    (opened : disk.openFile (path ++ [name]) = .ok way) :
    ∃ trail nodes, disk.Holds path trail nodes ∧ (∀ old ∈ nodes name, ¬old.IsDirectory) ∧
      way = name :: trail := by
  -- To open a file, its name is located in a directory; a directory under the name is refused.
  obtain ⟨_, -, opened⟩ := exists_of_bind opened
  obtain ⟨spot, located, opened⟩ := exists_of_bind opened
  obtain ⟨trail, nodes, holds, -, rfl⟩ := holds_of_locate isName located
  dsimp only at opened
  split at opened
  · cases opened
  · next free =>
    obtain rfl := Except.ok.inj opened
    refine ⟨trail, nodes, holds, fun old here => ?_, rfl⟩
    cases old with
    | directory made entries => exact absurd here (free made entries)
    | file content written => exact id

/-- A file that cannot be opened changes nothing. One that is opened is put under its name in a
directory, with as much of the content as can be written. -/
theorem writeBytes_cases (isName : IsName name) (disk : Disk) (path : Path) (content : List UInt8)
    (now : Int) :
    let wrote := disk.writeBytes (path ++ [name]) content now
    let filled := disk.hindrances.fill (path ++ [name]) content
    (∃ fault, wrote = (.error fault, disk)) ∨
      ∃ trail nodes, disk.Holds path trail nodes ∧ (∀ old ∈ nodes name, ¬old.IsDirectory) ∧
        wrote = (filled.1, disk.set (name :: trail) (some (.file filled.2 now))) := by
  intro wrote filled
  -- All that matters is whether the file can be opened: from then on it is changed.
  cases opened : disk.openFile (path ++ [name]) with
  | error fault =>
    refine .inl ⟨fault, ?_⟩
    dsimp only [wrote]
    rw [writeBytes, opened]
  | ok way =>
    obtain ⟨trail, nodes, holds, free, rfl⟩ := holds_of_openFile isName opened
    refine .inr ⟨trail, nodes, holds, free, ?_⟩
    dsimp only [wrote]
    rw [writeBytes, opened]

/-- What is written in full is put under its name in a directory. -/
theorem set_of_write (isName : IsName name) {content : List UInt8} {now : Int}
    (wrote : disk.writeBytes (path ++ [name]) content now = (.ok (), after)) :
    ∃ trail nodes, disk.Holds path trail nodes ∧ (∀ old ∈ nodes name, ¬old.IsDirectory) ∧
      after = disk.set (name :: trail) (some (.file content now)) := by
  -- A write that was done has opened the file, and has filled it with all of the content.
  rcases writeBytes_cases isName disk path content now
    with ⟨fault, refused⟩ | ⟨trail, nodes, holds, free, written⟩
  · rw [wrote] at refused
    cases refused
  · refine ⟨trail, nodes, holds, free, ?_⟩
    rw [wrote] at written
    obtain ⟨filled, rfl⟩ := Prod.mk.inj written
    rw [Hindrances.fill_of_ok filled.symm]

/-- A file without content is written, or nothing changes. -/
theorem eq_of_write_nil_failed {now : Int} {fault : DiskFault}
    (failed : disk.writeBytes path [] now = (.error fault, after)) : after = disk := by
  -- Without content, the only way to fail is that the file is not opened.
  unfold writeBytes at failed
  split at failed
  · exact (Prod.mk.inj failed).2.symm
  · rw [Hindrances.fill_nil] at failed
    cases failed

/-- What is removed is taken from under its name in a directory. -/
theorem set_of_remove (isName : IsName name)
    (removed : disk.remove (path ++ [name]) = .ok after) :
    ∃ trail nodes, disk.Holds path trail nodes ∧ (∀ old ∈ nodes name, ¬old.IsDirectory) ∧
      after = disk.set (name :: trail) none := by
  obtain ⟨_, -, removed⟩ := exists_of_bind removed
  obtain ⟨spot, located, removed⟩ := exists_of_bind removed
  obtain ⟨trail, nodes, holds, -, rfl⟩ := holds_of_locate isName located
  -- Only a file is removed, so that no directory was under the name.
  dsimp only at removed
  split at removed
  · cases removed
  · cases removed
  · next content written file =>
    cases removed
    refine ⟨trail, nodes, holds, fun old here => ?_, rfl⟩
    cases file.symm.trans here
    exact id

/-- Both paths of something that was renamed are located. -/
theorem locate_of_rename {target : Path} (renamed : disk.rename path target = .ok after) :
    ∃ source goal, disk.locate path = .ok source ∧ disk.locate target = .ok goal ∧
      (∀ made entries, goal.node? ≠ some (.directory made entries)) ∧
      ∃ node, source.node? = some node ∧
        after = (disk.set source.trail none).set goal.trail (some node) := by
  obtain ⟨_, -, renamed⟩ := exists_of_bind renamed
  obtain ⟨source, found, renamed⟩ := exists_of_bind renamed
  obtain ⟨goal, found', renamed⟩ := exists_of_bind renamed
  refine ⟨source, goal, found, found', ?_⟩
  -- The system refuses to move what is not there, and to put anything over a directory.
  split at renamed
  · cases renamed
  · cases renamed
  · next node here free =>
    obtain rfl := Except.ok.inj renamed
    exact ⟨fun made entries there => free made entries there, node, here, rfl⟩

/-- A file that is renamed is taken from under its name and put under another one. -/
theorem Holds.set_of_rename {target : String} (holds : disk.Holds path trail nodes)
    (isName : IsName name) (targetIsName : IsName target) {content : List UInt8} {written : Int}
    (file : nodes name = some (.file content written))
    (renamed : disk.rename (path ++ [name]) (path ++ [target]) = .ok after) :
    (∀ old ∈ nodes target, ¬old.IsDirectory) ∧
      after = (disk.set (name :: trail) none).set (target :: trail)
        (some (.file content written)) := by
  obtain ⟨source, goal, found, found', free, node, here, rfl⟩ := locate_of_rename renamed
  -- Both are in the same directory.
  obtain ⟨trail', nodes', holds', -, rfl⟩ := holds_of_locate isName found
  obtain ⟨rfl, rfl⟩ := holds.unique holds'
  obtain ⟨trail', nodes', holds', -, rfl⟩ := holds_of_locate targetIsName found'
  obtain ⟨rfl, rfl⟩ := holds.unique holds'
  obtain rfl := Option.some.inj (file.symm.trans here)
  refine ⟨fun old there => ?_, rfl⟩
  cases old with
  | directory made entries => exact absurd there (free made entries)
  | file content written => exact id

/-- A file that was renamed is under its new name in a directory that is otherwise as it was. -/
theorem Holds.after_rename {target : String} (holds : disk.Holds path trail nodes)
    (isName : IsName name) (targetIsName : IsName target) (moved : target ≠ name)
    {content : List UInt8} {written : Int} (file : nodes name = some (.file content written))
    (renamed : disk.rename (path ++ [name]) (path ++ [target]) = .ok after) :
    after.Holds path trail (Function.update (Function.update nodes name none) target
      (some (.file content written))) := by
  obtain ⟨free, rfl⟩ := holds.set_of_rename isName targetIsName file renamed
  -- Neither name has a directory under it, before the file is taken away and after.
  have own : ∀ old ∈ nodes name, ¬old.IsDirectory := by simp [file, Node.IsDirectory]
  have still : ∀ old ∈ Function.update nodes name none target, ¬old.IsDirectory := by
    rwa [Function.update_of_ne moved]
  exact (holds.set own none).set still _

/-- A directory takes the name that something in it was given. -/
theorem takes_of_rename {source : Path} (isName : IsName name)
    (renamed : disk.rename source (path ++ [name]) = .ok after) : path.Takes name := by
  obtain ⟨spot, goal, -, located, -⟩ := locate_of_rename renamed
  obtain ⟨trail, nodes, -, takes, -⟩ := holds_of_locate isName located
  exact takes

/-- A file that was written is in a directory that is otherwise as it was. -/
theorem holds_of_write (isName : IsName name) {content : List UInt8} {now : Int}
    (wrote : disk.writeBytes (path ++ [name]) content now = (.ok (), after)) :
    ∃ trail nodes, disk.Holds path trail nodes ∧
      after.Holds path trail (Function.update nodes name (some (.file content now))) := by
  obtain ⟨trail, nodes, holds, free, rfl⟩ := set_of_write isName wrote
  exact ⟨trail, nodes, holds, holds.set free _⟩

/-- A file that was removed is gone from a directory that is otherwise as it was. -/
theorem holds_of_remove (isName : IsName name)
    (removed : disk.remove (path ++ [name]) = .ok after) :
    ∃ trail nodes, disk.Holds path trail nodes ∧
      after.Holds path trail (Function.update nodes name none) := by
  obtain ⟨trail, nodes, holds, free, rfl⟩ := set_of_remove isName removed
  exact ⟨trail, nodes, holds, holds.set free _⟩

section

variable {now : Int}

/-- What is written puts nothing new in the way. -/
theorem hindrances_writeBytes (disk : Disk) (path : Path) (content : List UInt8) (now : Int) :
    (disk.writeBytes path content now).2.hindrances = disk.hindrances := by
  -- Only the tree below the root is written to.
  unfold writeBytes
  split <;> rfl

/-- What is removed puts nothing new in the way. -/
theorem hindrances_remove (removed : disk.remove path = .ok after) :
    after.hindrances = disk.hindrances := by
  obtain ⟨_, -, removed⟩ := exists_of_bind removed
  obtain ⟨spot, -, removed⟩ := exists_of_bind removed
  split at removed <;> cases removed
  rfl

/-- What is renamed puts nothing new in the way. -/
theorem hindrances_rename {target : Path} (renamed : disk.rename path target = .ok after) :
    after.hindrances = disk.hindrances := by
  obtain ⟨source, goal, -, -, -, node, -, rfl⟩ := locate_of_rename renamed
  rfl

/-- A directory that is made puts nothing new in the way. -/
theorem hindrances_createDirectory (made : disk.createDirectory path now = .ok after) :
    after.hindrances = disk.hindrances := by
  obtain ⟨_, -, made⟩ := exists_of_bind made
  obtain ⟨spot, -, made⟩ := exists_of_bind made
  split at made <;> cases made
  rfl

/-- A directory that is made where there is none puts nothing new in the way. -/
theorem hindrances_ensureDirectory (disk : Disk) (path : Path) (now : Int) :
    (disk.ensureDirectory path now).2.hindrances = disk.hindrances := by
  unfold ensureDirectory
  split
  · next made => exact hindrances_createDirectory made
  · split <;> rfl

/-- Directories that are made from the lowest one up put nothing new in the way. -/
theorem hindrances_createUpward (now : Int) (disk : Disk) (path : Path) (above : List String) :
    (createUpward now disk path above).2.hindrances = disk.hindrances := by
  -- This holds of each directory that is tried, and of those above it by induction.
  induction above generalizing path with
  | nil => exact disk.hindrances_ensureDirectory path now
  | cons name above ih =>
    have upper := ih (name :: above).reverse
    rw [createUpward]
    split
    · generalize createUpward now disk (name :: above).reverse above = step at upper ⊢
      obtain ⟨outcome, between⟩ := step
      cases outcome with
      | error fault => exact upper
      | ok _ => exact (between.hindrances_ensureDirectory path now).trans upper
    · exact disk.hindrances_ensureDirectory path now

end

/-- Whether a path leads to a directory that has these nodes under its names, and nothing is in the
way of calls on it or on what is in it. -/
structure Grants (disk : Disk) (path : Path) (trail : List String)
    (nodes : String → Option Node) : Prop where
  holds : disk.Holds path trail nodes
  spare : disk.hindrances.Spare path

namespace Grants

variable (grants : disk.Grants path trail nodes)

include grants

/-- Calls on what is in the directory are let through. -/
theorem allow (call : DiskCall) (name : String) : disk.allow call (path ++ [name]) = .ok () :=
  allow_eq_ok_iff.mpr ((grants.spare [name]).1 call)

/-- Calls on the directory are let through. -/
theorem allow_self (call : DiskCall) : disk.allow call path = .ok () :=
  allow_eq_ok_iff.mpr (grants.spare.refusal?_eq_none call)

/-- A name in the directory has a new node once it is given one, if there was no directory under it.
-/
theorem set (free : ∀ old ∈ nodes name, ¬old.IsDirectory) (node : Option Node) :
    (disk.set (name :: trail) node).Grants path trail (Function.update nodes name node) :=
  ⟨grants.holds.set free node, grants.spare⟩

/-- The system says what is under a name in the directory. -/
theorem stat (takes : path.Takes name) :
    disk.stat (path ++ [name]) = (nodes name).elim (.error .missing) .ok := by
  rw [Disk.stat, grants.allow, ← grants.holds.find takes]
  rfl

/-- The bytes of a file in the directory are read. -/
theorem readBytes {content : List UInt8} {written : Int} (takes : path.Takes name)
    (file : nodes name = some (.file content written)) :
    disk.readBytes (path ++ [name]) = .ok content := by
  -- The file is found under its name, and nothing keeps it from being read.
  have found := grants.holds.find takes
  rw [file] at found
  exact readBytes_eq_ok_iff.mpr ⟨(grants.spare [name]).1 .read, written, found⟩

/-- A file is written in the directory, if there is no directory under its name. -/
theorem write (takes : path.Takes name) (free : ∀ old ∈ nodes name, ¬old.IsDirectory)
    (content : List UInt8) (now : Int) :
    ∃ after, disk.writeBytes (path ++ [name]) content now = (.ok (), after) ∧
      after.Grants path trail (Function.update nodes name (some (.file content now))) := by
  -- The name is located, and there is no directory to refuse.
  have opened : disk.openFile (path ++ [name]) = .ok (name :: trail) := by
    rw [openFile, grants.allow, grants.holds.locate takes]
    cases found : nodes name with
    | none => rfl
    | some old =>
      cases old with
      | directory made entries => exact absurd trivial (free _ found)
      | file before written => rfl
  refine ⟨_, ?_, grants.set free _⟩
  rw [writeBytes, opened, grants.spare.fill]

/-- A file is removed from the directory. -/
theorem remove {content : List UInt8} {written : Int} (takes : path.Takes name)
    (file : nodes name = some (.file content written)) :
    ∃ after, disk.remove (path ++ [name]) = .ok after ∧
      after.Grants path trail (Function.update nodes name none) := by
  -- A file is no directory, so that its name can be given nothing.
  have free : ∀ old ∈ nodes name, ¬old.IsDirectory := by
    simp [file, Node.IsDirectory]
  refine ⟨_, ?_, grants.set free none⟩
  rw [Disk.remove, grants.allow, grants.holds.locate takes, file]
  rfl

/-- A file is given another name in the directory, if there is no directory under that name. -/
theorem rename {target : String} {content : List UInt8} {written : Int} (takes : path.Takes name)
    (targetTakes : path.Takes target) (moved : target ≠ name)
    (file : nodes name = some (.file content written))
    (free : ∀ old ∈ nodes target, ¬old.IsDirectory) :
    ∃ after, disk.rename (path ++ [name]) (path ++ [target]) = .ok after ∧
      after.Grants path trail (Function.update (Function.update nodes name none) target
        (some (.file content written))) := by
  -- The directory without the file is the one that the file is then put into.
  have gone : (disk.set (name :: trail) none).Grants path trail (Function.update nodes name none) :=
    grants.set (by simp [file, Node.IsDirectory]) none
  -- What is under the target stays there when the file is taken away.
  have still : Function.update nodes name none target = nodes target :=
    Function.update_of_ne moved none nodes
  refine ⟨_, ?_, gone.set (still ▸ free) _⟩
  rw [Disk.rename, grants.allow, grants.holds.locate takes, grants.holds.locate targetTakes, file]
  cases found : nodes target with
  | none => simp [bind, Except.bind]
  | some old =>
    cases old with
    | directory made entries => exact absurd trivial (free _ found)
    | file before written => simp [bind, Except.bind]

/-- A file that is not there is neither removed nor renamed. -/
theorem missing (takes : path.Takes name) (none : nodes name = none) :
    disk.remove (path ++ [name]) = .error .missing ∧
      ∀ target, path.Takes target →
        disk.rename (path ++ [name]) (path ++ [target]) = .error .missing := by
  -- Either call looks for the file first.
  constructor
  · rw [Disk.remove, grants.allow, grants.holds.locate takes, none]
    rfl
  · intro target targetTakes
    rw [Disk.rename, grants.allow, grants.holds.locate takes, grants.holds.locate targetTakes, none]
    rfl

end Grants

/-- Steps that are empty lead nowhere else. -/
theorem eq_of_walk_empty {back : Path} (empty : ∀ step ∈ back, step = "") {spot goal : Spot}
    (walked : disk.walk spot back = .ok goal) : goal = spot := by
  -- An empty step stays where it is, if it is taken at all.
  induction back with
  | nil => exact (Except.ok.inj walked).symm
  | cons step back ih =>
    obtain ⟨rfl, rest⟩ := List.forall_mem_cons.mp empty
    unfold walk at walked
    split at walked
    · cases walked
    · cases walked
    · exact ih rest walked

/-- A path to something leads there without the slashes that end it, too. -/
theorem locate_withoutEnd {spot : Spot} (located : disk.locate path = .ok spot) :
    disk.locate path.withoutEnd = .ok spot := by
  -- All that is left out are empty steps.
  have split : path = path.withoutEnd ++ (path.reverse.takeWhile (· == "")).reverse := by
    rw [Path.withoutEnd, ← List.reverse_append, List.takeWhile_append_dropWhile,
      List.reverse_reverse]
  have empty : ∀ step ∈ (path.reverse.takeWhile (· == "")).reverse, step = "" := by
    intro step mem
    simpa using List.mem_takeWhile_imp (List.mem_reverse.mp mem)
  obtain ⟨accepted, walked⟩ := walk_of_locate located
  generalize (path.reverse.takeWhile (· == "")).reverse = back at split empty
  rw [split] at accepted walked
  rw [walk_append] at walked
  obtain ⟨between, reached, onward⟩ := exists_of_bind walked
  obtain rfl := eq_of_walk_empty empty onward
  rw [locate, Path.fault?_of_append accepted]
  exact reached

/-- A directory that is there is not made again. -/
theorem Grants.createDirectories (grants : disk.Grants path trail nodes) (now : Int) :
    disk.createDirectories path now = (.ok (), disk) := by
  obtain ⟨made, entries, located, -⟩ := grants.holds
  -- The first attempt is refused because the directory is there, and that is good enough.
  have present : disk.createDirectory path now = .error .present := by
    rw [createDirectory, grants.allow_self, locate_withoutEnd located]
    rfl
  have stands : disk.isDirectory path = true := by
    rw [isDirectory, Disk.stat, grants.allow_self, Disk.find, located]
    rfl
  have ensured : disk.ensureDirectory path now = (.ok (), disk) := by
    rw [ensureDirectory, present]
    exact if_pos stands
  rw [Disk.createDirectories]
  cases path.names.dropLast.reverse with
  | nil => exact ensured
  | cons name above =>
    rw [createUpward, present]
    exact ensured

end Disk

end Querent
