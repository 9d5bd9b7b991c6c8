import Glasshouse.Failure
import Glasshouse.Status.Record

/-!
# Batches

The payload of an envelope is a batch of states. It is first split into entries, whose bytes are
kept as they were delivered, unknown fields included; then each entry is decoded from its own
bytes, and the first bad one decides the outcome.
-/

namespace Glasshouse.Status

open Wire

/-- A record together with the device's clock and the bytes it was delivered in. -/
structure Entry where
  record : Record
  deviceTime : UInt64
  raw : Bytes
deriving DecidableEq, Repr

/-- Why a payload is not a batch. -/
inductive BatchFault where
  /-- There are no bytes. -/
  | empty
  /-- The payload does not split into entries. -/
  | notSplit (error : DecodeError)
  /-- An entry is not a state. -/
  | notState (index : Nat) (error : DecodeError)
  /-- An entry is a state without a report. -/
  | noReport (index : Nat)
deriving DecidableEq, Repr

/-- The text for a state without a report. -/
def noReportText : String :=
  "state has no report set"

/-- The failure that a fault of the payload means for its envelope. -/
def BatchFault.toFailure : BatchFault → Failure
  | empty => .emptyPayload
  | notSplit error => .malformedBatch error.text
  | notState index error => .malformedBatch s!"record {index}: {error.text}"
  | noReport index => .malformedBatch s!"record {index}: {noReportText}"

/-- Decodes one entry, the one at `index`, from its own bytes. -/
def Entry.decode (index : Nat) (raw : Bytes) : Except BatchFault Entry :=
  match Message.decode (μ := DeviceState) raw with
  | .error error => .error (.notState index error)
  | .ok state =>
      match state.report with
      | none => .error (.noReport index)
      | some report => .ok ⟨.ofReport report, state.timestamp, raw⟩

/-- Decodes entries that start at `index`, up to the first bad one. -/
def decodeEntries : (index : Nat) → List Bytes → Except BatchFault (List Entry)
  | _, [] => .ok []
  | index, raw :: raws =>
      match Entry.decode index raw with
      | .error fault => .error fault
      | .ok entry =>
          match decodeEntries (index + 1) raws with
          | .error fault => .error fault
          | .ok entries => .ok (entry :: entries)

/-- Decodes a payload into its entries. -/
def decodeBatch (payload : Bytes) : Except BatchFault (List Entry) :=
  if payload.isEmpty then .error .empty
  else match Message.decode (μ := RawBatch) payload with
    | .error error => .error (.notSplit error)
    | .ok batch => decodeEntries 0 batch.entries

end Glasshouse.Status
