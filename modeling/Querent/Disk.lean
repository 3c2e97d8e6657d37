import Querent.Disk.Node
import Querent.Disk.Path
import Querent.Text.Bytes
import Querent.Text.Utf8

/-! What can be done to the files below a root, by their paths, and what the system refuses. -/

namespace Querent

/-- Where a walk stands: the names from there up to the root, and what is there. -/
structure Spot where
  trail : List String
  node? : Option Node

/-- A call on a path. -/
inductive DiskCall
  /-- The path is asked what is there. -/
  | stat
  | read
  | write
  /-- The file is to have another path. -/
  | rename
  | remove
  | makeDirectory
deriving DecidableEq, Repr

/-- What is in the way of calls besides what is on a disk: rights that are missing, a medium that
fails, or one that is full. -/
structure Hindrances where
  /-- Why a call on a path is refused, if it is. -/
  refusal? : DiskCall → Path → Option DiskFault
  /-- How many bytes can be written to a file, and why no more, if there is a limit. -/
  limit? : Path → Option (Nat × DiskFault)

namespace Hindrances

/-- Nothing is in the way. -/
def free : Hindrances := ⟨fun _ _ => none, fun _ => none⟩

/-- What comes of writing some bytes to a file, and as much of them as is written. -/
def fill (hindrances : Hindrances) (path : Path) (content : List UInt8) :
    Except DiskFault Unit × List UInt8 :=
  match hindrances.limit? path with
  | none => (.ok (), content)
  | some (limit, fault) =>
    if content.length ≤ limit then (.ok (), content) else (.error fault, content.take limit)

end Hindrances

/-- Directories and files below a root, and what is in the way of calls on them. -/
structure Disk where
  root : Node
  hindrances : Hindrances := .free

namespace Disk

/-- The disk with a root alone. -/
def empty : Disk := { root := .directory 0 .empty }

/-- Whether the system lets a call on a path through, whatever is there. -/
def allow (disk : Disk) (call : DiskCall) (path : Path) : Except DiskFault Unit :=
  match disk.hindrances.refusal? call path with
  | some fault => .error fault
  | none => .ok ()

/-- What is at the end of a trail up to the root. -/
def spot (disk : Disk) (trail : List String) : Spot :=
  ⟨trail, disk.root.below? trail.reverse⟩

/-- The disk with one node at the end of a trail, or none. -/
def set (disk : Disk) (trail : List String) (node : Option Node) : Disk :=
  { disk with root := disk.root.setBelow node trail.reverse }

/-- Where steps lead from a spot; each starts in a directory, and above the root is the root. -/
def walk (disk : Disk) (spot : Spot) : Path → Except DiskFault Spot
  | [] => .ok spot
  | step :: rest =>
    match spot.node? with
    | none => .error .missing
    | some (.file _ _) => .error .notDirectory
    | some (.directory _ entries) =>
      if staysPut step then disk.walk spot rest
      else if step = ".." then disk.walk (disk.spot spot.trail.tail) rest
      else if Path.nameLimit < step.utf8ByteSize then .error .tooLong
      else disk.walk ⟨step :: spot.trail, entries.find? step⟩ rest

/-- The spot that a path leads to; all above it is there, but it may be free itself. -/
def locate (disk : Disk) (path : Path) : Except DiskFault Spot :=
  match path.fault? with
  | some fault => .error fault
  | none => disk.walk (disk.spot []) path

/-- What a path leads to. -/
def find (disk : Disk) (path : Path) : Except DiskFault Node := do
  match (← disk.locate path).node? with
  | none => .error .missing
  | some node => .ok node

/-- What the system says is at the end of a path. -/
def stat (disk : Disk) (path : Path) : Except DiskFault Node := do
  disk.allow .stat path
  disk.find path

/-- Whether the system says that a path leads to a directory. -/
def isDirectory (disk : Disk) (path : Path) : Bool :=
  match disk.stat path with
  | .ok (.directory _ _) => true
  | _ => false

/-- The bytes of a file. -/
def readBytes (disk : Disk) (path : Path) : Except DiskFault (List UInt8) := do
  disk.allow .read path
  match ← disk.find path with
  | .directory _ _ => .error .isDirectory
  | .file content _ => .ok content

/-- Makes a directory where nothing is yet. -/
def createDirectory (disk : Disk) (path : Path) (now : Int) : Except DiskFault Disk := do
  disk.allow .makeDirectory path
  let spot ← disk.locate path.withoutEnd
  match spot.node? with
  | some _ => .error .present
  | none => .ok (disk.set spot.trail (some (.directory now .empty)))

/-- Makes a directory, if there is none already. -/
def ensureDirectory (disk : Disk) (path : Path) (now : Int) : Except DiskFault Unit × Disk :=
  match disk.createDirectory path now with
  | .ok disk => (.ok (), disk)
  | .error fault => if disk.isDirectory path then (.ok (), disk) else (.error fault, disk)

/-- Makes a directory, and those above it where the way to it is missing, by their names from the
lowest one up. -/
def createUpward (now : Int) (disk : Disk) (path : Path) :
    List String → Except DiskFault Unit × Disk
  | [] => disk.ensureDirectory path now
  | name :: above =>
    match disk.createDirectory path now with
    | .error .missing =>
      match createUpward now disk (name :: above).reverse above with
      | (.error fault, disk) => (.error fault, disk)
      | (.ok _, disk) => disk.ensureDirectory path now
    | _ => disk.ensureDirectory path now

/-- Makes a directory and all that are missing above it; if it is refused, those above it stay. -/
def createDirectories (disk : Disk) (path : Path) (now : Int) : Except DiskFault Unit × Disk :=
  createUpward now disk path path.names.dropLast.reverse

/-- Where a file is that can be opened for writing, in a directory that is there. -/
def openFile (disk : Disk) (path : Path) : Except DiskFault (List String) := do
  disk.allow .write path
  let spot ← disk.locate path
  match spot.node? with
  | some (.directory _ _) => .error .isDirectory
  | _ => .ok spot.trail

/-- Writes a file at some time; what was in it is lost, even if not all can be written. -/
def writeBytes (disk : Disk) (path : Path) (content : List UInt8) (now : Int) :
    Except DiskFault Unit × Disk :=
  match disk.openFile path with
  | .error fault => (.error fault, disk)
  | .ok trail =>
    let (written, kept) := disk.hindrances.fill path content
    (written, disk.set trail (some (.file kept now)))

/-- Gives a file another path, where it replaces any other file; its time of writing stays. -/
def rename (disk : Disk) (path target : Path) : Except DiskFault Disk := do
  disk.allow .rename path
  let source ← disk.locate path
  let goal ← disk.locate target
  match source.node?, goal.node? with
  | none, _ => .error .missing
  | _, some (.directory _ _) => .error .isDirectory
  | some node, _ => .ok ((disk.set source.trail none).set goal.trail (some node))

/-- Removes a file. -/
def remove (disk : Disk) (path : Path) : Except DiskFault Disk := do
  disk.allow .remove path
  let spot ← disk.locate path
  match spot.node? with
  | none => .error .missing
  | some (.directory _ _) => .error .isDirectory
  | some (.file _ _) => .ok (disk.set spot.trail none)

/-- The text of a file, if its bytes are one. -/
def read (disk : Disk) (path : Path) : Except DiskFault String := do
  let content ← disk.readBytes path
  match String.fromUTF8? content.toByteArray with
  | some text => .ok text
  | none => .error (.other "stream did not contain valid UTF-8")

/-- Writes a text to a file. -/
def write (disk : Disk) (path : Path) (content : String) (now : Int) : Except DiskFault Disk :=
  match disk.writeBytes path (textBytes content) now with
  | (.ok _, disk) => .ok disk
  | (.error fault, _) => .error fault

/-- Changes the time of writing of a file. -/
def touch (disk : Disk) (path : Path) (written : Int) : Except DiskFault Disk := do
  let spot ← disk.locate path
  match spot.node? with
  | none => .error .missing
  | some (.directory _ _) => .error .isDirectory
  | some (.file content _) => .ok (disk.set spot.trail (some (.file content written)))

/-- The names in a directory, in order. -/
def names? (disk : Disk) (path : Path) : Option (List String) :=
  match disk.find path with
  | .ok (.directory _ entries) => some entries.names
  | _ => none

/-- A walk from what is there ends at what is there. -/
theorem walk_spot (disk : Disk) {path : Path} {trail : List String} {goal : Spot}
    (walked : disk.walk (disk.spot trail) path = .ok goal) : goal = disk.spot goal.trail := by
  induction path generalizing trail with
  | nil =>
    cases walked
    rfl
  | cons step rest ih =>
    simp only [walk] at walked
    split at walked
    · contradiction
    · contradiction
    · rename_i made entries here
      split at walked
      · exact ih walked
      · split at walked
        · exact ih walked
        · split at walked
          · contradiction
          · -- One step further down, the spot is again what the disk has there.
            have below : disk.root.below? trail.reverse = some (.directory made entries) := here
            have further : disk.spot (step :: trail) = ⟨step :: trail, entries.find? step⟩ := by
              simp [spot, Node.below?_append, below, Node.child?]
            exact ih (further ▸ walked)

end Disk

end Querent
