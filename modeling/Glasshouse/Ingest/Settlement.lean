import Glasshouse.Ingest.Dispatch

/-!
# Settling an envelope

Whoever delivered an envelope has to be told what became of it: it is acknowledged, to be delivered
again, or never to be delivered again. A telemetry document that exists already was committed by an
earlier delivery, so a conflict is passed over and the walk goes on with the next entry. Each
further walk starts past the entry at which the last one stopped, which bounds their number.
-/

namespace Glasshouse.Ingest

/-- What the transport is told about one message. -/
inductive Settlement where
  /-- The message was handled. -/
  | ack
  /-- The message is to be delivered again. -/
  | nak (reason : String)
  /-- The message can never be handled. -/
  | term (reason : String)
deriving DecidableEq, Repr

/-- The settlement of a failure: hopeless ones end the message, others bring it back. -/
def settle (failure : Failure) : Settlement :=
  if failure.isPermanent then .term failure.message else .nak failure.message

/-- One walk over a batch of `total` entries: where it started and how it came out. -/
structure Attempt (total : Nat) where
  start : Nat
  outcome : Outcome start total

/-- The settlement of an envelope of `total` entries and the walks that led to it, in order. -/
structure Ingestion (total : Nat) where
  settlement : Settlement
  attempts : List (Attempt total)

/-- The event about an entry that an earlier delivery committed. -/
def skippedEvent (device path : String) (index remaining : Nat) : LogEvent :=
  .warn "telemetry already ingested, skipping record"
    [("device_id", device), ("path", path), ("record", toString index),
      ("remaining", toString remaining)]

/-- Ingests an envelope from the entry at `start` on. -/
def ingestFrom (settings : Settings) (envelope : Envelope) (start : Nat) :
    Program (Ingestion envelope.recordCount) := do
  let outcome ← dispatchFrom settings envelope start
  let attempt := ⟨start, outcome⟩
  match outcome with
  | .ignored | .processed =>
      Program.log (.debug "status message handled")
      return ⟨.ack, [attempt]⟩
  | .refused failure => return ⟨settle failure, [attempt]⟩
  | .halted halt =>
    match halt.failure with
    | .snapshotConflict path =>
        Program.log (skippedEvent envelope.device path halt.index halt.remaining)
        if halt.remaining = 0 then return ⟨.ack, [attempt]⟩
        else
          let rest ← ingestFrom settings envelope (halt.index + 1)
          return { rest with attempts := attempt :: rest.attempts }
    | failure => return ⟨settle failure, [attempt]⟩
termination_by envelope.recordCount - start
decreasing_by
  have := halt.start_le
  have := halt.index.isLt
  omega

/-- Ingests an envelope and ends with its settlement. -/
def ingest (settings : Settings) (envelope : Envelope) : Program Settlement := do
  return (← ingestFrom settings envelope 0).settlement

end Glasshouse.Ingest
