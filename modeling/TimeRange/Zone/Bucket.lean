import TimeRange.Calendar.Convention
import TimeRange.Zone.Shift

/-!
# Rounding an instant to calendar buckets

The wall clock of a zone and a convention cut time into buckets of each unit.
`truncate?` gives the instant at which the bucket of an instant starts, and
`ceiling?` the start of the next bucket, or the instant itself where it starts
one. Within an hour the wall-clock time that has passed is taken off the
instant, so that a repeated hour keeps its own start; the start of a day or a
longer bucket is a midnight on the wall, located in the zone.
-/

namespace TimeRange.Zone

open Calendar

def bucketStart? (zone : Zone) (convention : Convention) (unit : TimeUnit) (instant : Instant) :
    Option Instant := do
  let wall ← zone.wallTime? instant
  match unit.measure with
  | .exact length => Instant.ofNanoseconds? (instant.nanoseconds - wall.nanoseconds % length)
  | measure => do
      let midnight ← WallTime.midnight? (convention.bucketStart measure wall.day)
      zone.locate? midnight

/-- The instant itself if it starts a bucket, otherwise the instant one unit after the start of its bucket. -/
def bucketCeiling? (zone : Zone) (convention : Convention) (unit : TimeUnit) (instant : Instant) :
    Option Instant := do
  let start ← zone.bucketStart? convention unit instant
  if start = instant then some instant else zone.shift? unit 1 start

def truncate? (zone : Zone) (convention : Convention) (unit? : Option TimeUnit) (instant : Instant) :
    Option Instant :=
  match unit? with
  | none => some instant
  | some unit => zone.bucketStart? convention unit instant

def ceiling? (zone : Zone) (convention : Convention) (unit? : Option TimeUnit) (instant : Instant) :
    Option Instant :=
  match unit? with
  | none => some instant
  | some unit => zone.bucketCeiling? convention unit instant

theorem bucketCeiling?_of_start {zone : Zone} {convention : Convention} {unit : TimeUnit}
    {instant : Instant} (starts : zone.bucketStart? convention unit instant = some instant) :
    zone.bucketCeiling? convention unit instant = some instant := by
  simp [bucketCeiling?, starts]

end TimeRange.Zone
