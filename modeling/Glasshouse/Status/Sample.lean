import Glasshouse.Status.Measurements
import Glasshouse.Time.Instant

/-!
# Telemetry samples

A sample is a reading in double precision, bound to the device that sent it and to the time at which
the transport took it in. Both stores find it under the device and the second of that time.
-/

namespace Glasshouse.Status

open Number Time

/-- A reading bound to a device and an instant. -/
structure Sample where
  device : String
  time : Instant
  values : Measurements Binary64
deriving DecidableEq, Repr

namespace Sample

/-- The sample of a reading: every value is widened. -/
def ofReading (device : String) (time : Instant) (reading : Reading) : Sample :=
  ⟨device, time, reading.map Binary32.widen⟩

/-- The second under which the sample is kept. -/
def second (sample : Sample) : Int :=
  sample.time.seconds

end Sample

end Glasshouse.Status
