import Glasshouse.Ingest.Envelope
import Glasshouse.Ingest.Program

/-!
# Dispatching a batch

The entries of an envelope are written in order: telemetry to both stores, every other report to
its state document. The first entry whose write fails stops the walk, and the entries written
before it stay written. A walk can start past entries that an earlier delivery has committed; those
are decoded all the same.
-/

namespace Glasshouse.Ingest

open Store Status

/-- What ingestion has to know besides the envelope. -/
structure Settings where
  /-- Devices whose id ends with this are ignored, unless it is empty. -/
  ignoreSuffix : String
  /-- The table for telemetry rows. -/
  target : Target
deriving DecidableEq, Repr

/-- Merges a report into its state document. -/
def upsert (report : StateReport) : Program Answer := do
  match ← Program.perform (.merge report) with
  | .error failure => return .error failure
  | .ok () =>
      Program.log (.debug "merged state snapshot")
      return .ok ()

/-- The events about rows that the analytics store refused one by one. -/
def rowEvents : Answer → List LogEvent
  | .error (.analyticsRejected table _ rowErrors) =>
      rowErrors.map fun rowError =>
        .warn "analytics store rejected row" [("table", table), ("row_error", rowError)]
  | _ => []

/-- Logs events in order. -/
def logAll : List LogEvent → Program Unit
  | [] => return ()
  | event :: events => do
      Program.log event
      logAll events

/-- Writes a sample to both stores. Both calls are made whatever becomes of the other; if both
fail, the failure of the snapshot store is reported. -/
def fanOut (target : Target) (sample : Sample) : Program Answer := do
  let (created, inserted) ← Program.performBoth (.create sample) (.insert target sample)
  logAll (rowEvents inserted)
  match created, inserted with
  | .ok (), .ok () =>
      Program.log (.debug "telemetry written to both stores")
      return .ok ()
  | .error failure, .error other =>
      Program.log (.warn "analytics write also failed, reporting snapshot error"
        [("error", other.message)])
      return .error failure
  | .error failure, .ok () => return .error failure
  | .ok (), .error failure => return .error failure

/-- Writes one entry of an envelope. -/
def writeEntry (target : Target) (envelope : Envelope) (entry : Entry) : Program Answer :=
  match entry.record with
  | .telemetry reading => fanOut target (.ofReading envelope.device envelope.ingestedAt reading)
  | record => upsert ⟨envelope.device, record.kind, envelope.ingestedAt, entry.raw⟩

/-- The entry at which a walk from `start` over `total` entries stopped, and why. -/
structure Halt (start total : Nat) where
  failure : Failure
  index : Fin total
  start_le : start ≤ index

/-- The entries after the one that failed, which were not attempted. -/
def Halt.remaining {start total : Nat} (halt : Halt start total) : Nat :=
  total - halt.index - 1

/-- How a walk from `start` over an envelope of `total` entries can come out. -/
inductive Outcome (start total : Nat) where
  /-- The device is one of those to be ignored. -/
  | ignored
  /-- The walk reached the end of the batch. -/
  | processed
  /-- The envelope failed before any of its entries was written. -/
  | refused (failure : Failure)
  /-- The write of an entry failed. -/
  | halted (halt : Halt start total)

/-- Writes the entries from `start` on; `index` is the place of the first of `entries`. -/
def walk (target : Target) (envelope : Envelope) (start total : Nat) :
    (index : Nat) → (entries : List Entry) → index + entries.length = total →
    Program (Option (Halt start total))
  | _, [], _ => return none
  | index, entry :: entries, h => do
      if hstart : index < start then
        walk target envelope start total (index + 1) entries (by rw [← h, List.length_cons]; omega)
      else
        Program.log (.debug "dispatching record")
        match ← writeEntry target envelope entry with
        | .ok () =>
            walk target envelope start total (index + 1) entries
              (by rw [← h, List.length_cons]; omega)
        | .error failure =>
            Program.log (.debug "record failed, aborting batch")
            return some ⟨failure, ⟨index, by rw [← h, List.length_cons]; omega⟩,
              Nat.le_of_not_lt hstart⟩

/-- Dispatches the entries of an envelope from `start` on. The suffix filter comes first, then the
check of the envelope, then the decoding of the whole payload. -/
def dispatchFrom (settings : Settings) (envelope : Envelope) (start : Nat) :
    Program (Outcome start envelope.recordCount) := do
  if envelope.isIgnored settings.ignoreSuffix then
    Program.log (.debug "ignoring envelope from filtered device")
    return .ignored
  else match envelope.validate with
    | .error failure => return .refused failure
    | .ok () =>
      match h : decodeBatch envelope.payload with
      | .error fault => return .refused fault.toFailure
      | .ok entries =>
          Program.log (.debug "decoded status batch")
          let halt ← walk settings.target envelope start envelope.recordCount 0 entries
            (by simp [Envelope.recordCount, h])
          match halt with
          | some halt => return .halted halt
          | none =>
              Program.log (.debug "status batch dispatched")
              return .processed

/-- What a dispatch that did not fail did. -/
inductive Dispatched where
  /-- The envelope was dropped. -/
  | ignored
  /-- All records of the batch, this many, are written. -/
  | processed (records : Nat)
deriving DecidableEq, Repr

/-- Dispatches a whole envelope. -/
def dispatch (settings : Settings) (envelope : Envelope) :
    Program (Except Failure Dispatched) := do
  match ← dispatchFrom settings envelope 0 with
  | .ignored => return .ok .ignored
  | .processed => return .ok (.processed envelope.recordCount)
  | .refused failure => return .error failure
  | .halted halt => return .error halt.failure

end Glasshouse.Ingest
