/-!
# Instants

An instant is a whole number of nanoseconds since the Unix epoch. Documents are keyed by whole
seconds, rounded down, so that the second of an instant before the epoch is the one it lies in.
-/

namespace Glasshouse.Time

/-- A point in time. -/
structure Instant where
  sinceEpoch : Int
deriving DecidableEq, Repr

namespace Instant

/-- The nanoseconds of a second. -/
def nanosPerSecond : Nat := 1000000000

/-- The instant some nanoseconds after the start of a second. -/
def ofParts (seconds : Int) (nanos : Nat) : Instant :=
  ⟨seconds * nanosPerSecond + nanos⟩

/-- The second that the instant lies in. -/
def seconds (instant : Instant) : Int :=
  instant.sinceEpoch / nanosPerSecond

/-- The nanoseconds since the start of the second. -/
def nanos (instant : Instant) : Nat :=
  (instant.sinceEpoch % nanosPerSecond).toNat

/-- The microseconds since the epoch, with the distance from `origin`, a number of seconds, cut
toward zero. -/
def microsFrom (origin : Int) (instant : Instant) : Int :=
  origin * 1000000 + (instant.sinceEpoch - origin * nanosPerSecond).tdiv 1000

end Instant

end Glasshouse.Time
