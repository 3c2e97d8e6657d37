import Querent.Json.Decoder

/-! Spans of time to the nanosecond. -/

namespace Querent

/-- Nanoseconds of a second. -/
def nanosPerSecond : Nat := 1000000000

/-- A span of time of less than 2^64 seconds. -/
structure Duration where
  seconds : UInt64
  nanos : Nat
  nanos_lt : nanos < nanosPerSecond
deriving DecidableEq, Repr

namespace Duration

/-- A span of whole seconds. -/
def ofSeconds (seconds : UInt64) : Duration :=
  ⟨seconds, 0, by decide⟩

/-- A span of whole hours, the greatest in whole seconds if there are too many. -/
def ofHours (hours : UInt64) : Duration :=
  ofSeconds (UInt64.ofNat (min (hours.toNat * 3600) (UInt64.size - 1)))

/-- A span of seconds and nanoseconds, the latter carried over, if it is not too long. -/
def ofParts? (seconds : UInt64) (nanos : Nat) : Option Duration :=
  let total := seconds.toNat + nanos / nanosPerSecond
  if total < UInt64.size then
    some ⟨UInt64.ofNat total, nanos % nanosPerSecond, Nat.mod_lt _ (by decide)⟩
  else none

/-- All nanoseconds of a span. -/
def toNanos (duration : Duration) : Nat :=
  duration.seconds.toNat * nanosPerSecond + duration.nanos

/-- A span as stored data. -/
def encode (duration : Duration) : Json :=
  .object [("secs", .ofUInt64 duration.seconds), ("nanos", .ofInt duration.nanos)]

/-- The span that a document stores, with no other members. -/
def decode? (document : Document) : Option Duration := do
  let members ← document.members? .refused ["secs", "nanos"]
  let seconds ← members.required? "secs" Document.uint64?
  let nanos ← members.required? "nanos" (Document.between? 0 UInt32.size)
  ofParts? seconds nanos.toNat

end Duration

end Querent
