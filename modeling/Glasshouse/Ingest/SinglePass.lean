import Glasshouse.Ingest.Settlement
import Glasshouse.Store.Memory

/-!
# One pass over an envelope

What ingesting an envelope does to stores in memory, said without programs and without walks that
start anew: the batch is decoded once, every entry is written at most once and in order, and a
conflict is passed over like a success.
-/

namespace Glasshouse.Ingest

open Store Status

/-- The calls that belong to an entry, in order. -/
def entryCalls (target : Target) (envelope : Envelope) (entry : Entry) : List Call :=
  match entry.record with
  | .telemetry reading =>
      let sample := Sample.ofReading envelope.device envelope.ingestedAt reading
      [.create sample, .insert target sample]
  | record => [.merge ⟨envelope.device, record.kind, envelope.ingestedAt, entry.raw⟩]

/-- Performs calls in order whatever their answers: the first failure among these, if any, and the
stores after all of them. -/
def performAll : List Call → Stores → Answer × Stores
  | [], stores => (.ok (), stores)
  | call :: calls, stores =>
      let (answer, stores) := stores.perform call
      let (others, stores) := performAll calls stores
      match answer with
      | .ok () => (others, stores)
      | .error failure => (.error failure, stores)

/-- What one pass over an envelope leaves. -/
structure Pass where
  settlement : Settlement
  stores : Stores
  calls : List Call

/-- Writes entries in order up to the first failure that is not a conflict. -/
def passOver (target : Target) (envelope : Envelope) : List Entry → Stores → Pass
  | [], stores => ⟨.ack, stores, []⟩
  | entry :: entries, stores =>
      let calls := entryCalls target envelope entry
      let (answer, stores) := performAll calls stores
      match answer with
      | .ok () | .error (.snapshotConflict _) =>
          let rest := passOver target envelope entries stores
          { rest with calls := calls ++ rest.calls }
      | .error failure => ⟨settle failure, stores, calls⟩

/-- The single pass over an envelope. -/
def singlePass (settings : Settings) (envelope : Envelope) (stores : Stores) : Pass :=
  if envelope.isIgnored settings.ignoreSuffix then ⟨.ack, stores, []⟩
  else match envelope.validate with
    | .error failure => ⟨settle failure, stores, []⟩
    | .ok () =>
      match decodeBatch envelope.payload with
      | .error fault => ⟨settle fault.toFailure, stores, []⟩
      | .ok entries => passOver settings.target envelope entries stores

end Glasshouse.Ingest
