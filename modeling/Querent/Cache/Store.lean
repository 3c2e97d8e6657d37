import Querent.Cache.Entry
import Querent.Digest.Sha256
import Querent.Disk
import Querent.Error

/-! Results kept in files, each under the digest of a text, and refreshed once they are stale. -/

namespace Querent

/-- The failure that a disk fault is to a cache. -/
def DiskFault.failure (fault : DiskFault) : Failure :=
  .cache fault.message

/-- A directory of results, and how long they stay fresh. -/
structure ResultCache where
  directory : String
  ttl : Duration
deriving DecidableEq, Repr

/-- What a cache knows of a text. -/
inductive Lookup
  | hit (entry : CacheEntry)
  | miss
  /-- The entry is stale, and the caller has taken it upon itself to renew it. -/
  | refresh
deriving Repr

namespace ResultCache

/-- How long a marker keeps others from renewing the same entry, in nanoseconds. -/
def markerWindow : Nat := 60 * nanosPerSecond

/-- Where a file with a name belongs. -/
def pathTo (cache : ResultCache) (name : String) : Path :=
  pathOf cache.directory ++ [name]

/-- Where the entry of a text is. -/
def entryPath (cache : ResultCache) (text : String) : Path :=
  cache.pathTo (Sha256.hex text)

/-- Where an entry is written before it takes its place. -/
def draftPath (cache : ResultCache) (text : String) : Path :=
  cache.pathTo (Sha256.hex text ++ ".tmp")

/-- Where the marker is that tells that an entry is being renewed. -/
def markerPath (cache : ResultCache) (text : String) : Path :=
  cache.pathTo (Sha256.hex text ++ ".updating")

/-- What a cache says of a directory that cannot be made. -/
def refusal (cache : ResultCache) (fault : DiskFault) : Failure :=
  .cache s!"cannot create cache directory {cache.directory}: {fault.message}"

/-- Makes the directory if it is missing. -/
def ensure (cache : ResultCache) (now : Int) (disk : Disk) : Except Failure Unit × Disk :=
  let (made, disk) := disk.createDirectories (pathOf cache.directory) now
  (made.mapError cache.refusal, disk)

/-- Whether an entry is being renewed. -/
def isRenewed (cache : ResultCache) (now : Int) (text : String) (disk : Disk) : Bool :=
  match disk.stat (cache.markerPath text) with
  | .ok marker => marker.age now < markerWindow
  | .error _ => false

/-- The entry in the file of a text. -/
def load (cache : ResultCache) (text : String) (disk : Disk) : Except Failure CacheEntry :=
  match disk.readBytes (cache.entryPath text) with
  | .error fault => .error fault.failure
  | .ok content =>
    match CacheEntry.ofBytes? content with
    | none => .error .json
    | some entry => .ok entry

/-- Looks for a text; the first to find its entry stale leaves a marker and renews it. -/
def lookup (cache : ResultCache) (now : Int) (text : String) (disk : Disk) :
    Except Failure Lookup × Disk :=
  match disk.stat (cache.entryPath text) with
  | .error .missing => (.ok .miss, disk)
  | .error fault => (.error fault.failure, disk)
  | .ok node =>
    if cache.ttl.toNanos < node.age now ∧ !cache.isRenewed now text disk then
      match disk.writeBytes (cache.markerPath text) [] now with
      | (.ok _, disk) => (.ok .refresh, disk)
      | (.error fault, disk) => (.error fault.failure, disk)
    else ((cache.load text disk).map .hit, disk)

/-- The first step of storing: the entry is written beside its place. -/
def writeDraft (cache : ResultCache) (now : Int) (text : String) (entry : CacheEntry)
    (disk : Disk) : Except DiskFault Unit × Disk :=
  disk.writeBytes (cache.draftPath text) (textBytes entry.render) now

/-- The second step of storing: the entry takes its place at once. -/
def publish (cache : ResultCache) (text : String) (disk : Disk) : Except DiskFault Disk :=
  disk.rename (cache.draftPath text) (cache.entryPath text)

/-- The disk without a file, or as it is if the file cannot be removed. -/
def discard (path : Path) (disk : Disk) : Disk :=
  match disk.remove path with
  | .ok disk => disk
  | .error _ => disk

/-- The last step of storing: the entry counts as renewed. -/
def dropMarker (cache : ResultCache) (text : String) (disk : Disk) : Disk :=
  discard (cache.markerPath text) disk

/-- Stores an entry under a text. -/
def store (cache : ResultCache) (now : Int) (text : String) (entry : CacheEntry) (disk : Disk) :
    Except Failure Unit × Disk :=
  match cache.ensure now disk with
  | (.error failure, disk) => (.error failure, disk)
  | (.ok _, disk) =>
    match cache.writeDraft now text entry disk with
    | (.error fault, disk) => (.error fault.failure, disk)
    | (.ok _, disk) =>
      match cache.publish text disk with
      | .error fault => (.error fault.failure, discard (cache.draftPath text) disk)
      | .ok disk => (.ok (), cache.dropMarker text disk)

end ResultCache

end Querent
