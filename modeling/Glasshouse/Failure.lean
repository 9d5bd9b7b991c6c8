/-!
# Failures of ingestion

The ways in which an envelope can fail to be ingested, their texts, and which of them no later
attempt can mend.
-/

namespace Glasshouse

/-- Why an envelope, or a write on its behalf, failed. -/
inductive Failure where
  /-- The payload holds no bytes. -/
  | emptyPayload
  /-- The payload is not a batch of states with reports. -/
  | malformedBatch (detail : String)
  /-- The envelope lacks what every envelope needs. -/
  | invalidEnvelope (detail : String)
  /-- A document exists where a new one was to be created. -/
  | snapshotConflict (path : String)
  /-- The snapshot store did not take a write. -/
  | snapshotUnavailable (detail : String)
  /-- The analytics store could not be reached. -/
  | analyticsUnavailable (detail : String)
  /-- The analytics store refused rows; each refused row has its own text. -/
  | analyticsRejected (table reason : String) (rowErrors : List String)
deriving DecidableEq, Repr

namespace Failure

/-- The text of a failure. -/
def message : Failure → String
  | emptyPayload => "Status payload is empty"
  | malformedBatch detail => "Malformed status batch: " ++ detail
  | invalidEnvelope detail => "Validation error: " ++ detail
  | snapshotConflict path => "Snapshot document already exists: " ++ path
  | snapshotUnavailable detail => "Snapshot store unavailable: " ++ detail
  | analyticsUnavailable detail => "Analytics store unavailable: " ++ detail
  | analyticsRejected table reason _ =>
      "Analytics store rejected insert into " ++ table ++ ": " ++ reason

/-- No later attempt with the same envelope can succeed. -/
def isPermanent : Failure → Bool
  | emptyPayload | malformedBatch _ | invalidEnvelope _ => true
  | _ => false

end Failure

end Glasshouse
