import Glasshouse.Status.Batch
import Glasshouse.Time.Instant

/-!
# Envelopes

An envelope is one delivered message: the device and project it comes from, the time at which the
transport took it in, and its payload. That time is the only one used for what is written on the
envelope's behalf.
-/

namespace Glasshouse.Ingest

open Status Time Wire

/-- One delivered status message. -/
structure Envelope where
  device : String
  project : String
  ingestedAt : Instant
  payload : Bytes
deriving DecidableEq, Repr

namespace Envelope

/-- The device id carries the suffix of devices to be ignored; an empty suffix ignores none. -/
def isIgnored (envelope : Envelope) (suffix : String) : Bool :=
  !suffix.isEmpty && suffix.toList.isSuffixOf envelope.device.toList

/-- An envelope names its device. -/
def validate (envelope : Envelope) : Except Failure Unit :=
  if envelope.device.isEmpty then .error (.invalidEnvelope "device_id: length is lower than 1")
  else .ok ()

/-- The number of entries in the payload; none if it is not a batch. -/
def recordCount (envelope : Envelope) : Nat :=
  match decodeBatch envelope.payload with
  | .error _ => 0
  | .ok entries => entries.length

end Envelope

end Glasshouse.Ingest
