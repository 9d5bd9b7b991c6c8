import Mathlib.Data.List.Forall2
import Glasshouse.Proofs.RoundTrip
import Glasshouse.Status.Batch

/-!
# Batches that devices write

A payload that is the encoding of a list of states decodes into one entry for each of them, in
order: the record of its report with positive zeros, its clock, and its own encoding as the bytes it
was delivered in. A state without a report spoils the batch, at its place. `decodeBatch_encode`
gives the outcome as one value; main statement: `written_batch_decodes`.
-/

namespace Glasshouse.Status

open Wire Wire.Message

/-- The entries of states that are written, where the first is the one at `index`. -/
def writtenEntries : (index : Nat) → List DeviceState → Except BatchFault (List Entry)
  | _, [] => .ok []
  | index, state :: states =>
      match state.report with
      | none => .error (.noReport index)
      | some report =>
          match writtenEntries (index + 1) states with
          | .error fault => .error fault
          | .ok entries =>
              .ok (⟨.ofReport report.positiveZeros, state.timestamp, encode state⟩ :: entries)

variable {states : List DeviceState}

/-- A batch of entries is written entry by entry, each behind a key and its length. -/
theorem encode_rawBatch (entries : List Bytes) :
    encode (⟨entries⟩ : RawBatch) =
      entries.flatMap fun entry => writeKey ⟨1, .lengthDelimited⟩ ++ Scalar.writeBytes entry :=
  List.append_nil _

/-- A batch of states is written as the batch of their encodings. -/
theorem encode_stateBatch (states : List DeviceState) :
    encode (⟨states⟩ : StateBatch) = encode (⟨states.map encode⟩ : RawBatch) := by
  have hwritten : encode (⟨states⟩ : StateBatch) =
      states.flatMap fun state => writeKey ⟨1, .lengthDelimited⟩ ++ writeDelimited state :=
    List.append_nil _
  rw [hwritten, encode_rawBatch, List.flatMap_map]
  rfl

/-- A batch of entries is read back, however many they are. -/
theorem decode_encode_rawBatch {entries : List Bytes}
    (hshort : ∀ entry ∈ entries, entry.length < Nat.pow 2 63) :
    decode (encode (⟨entries⟩ : RawBatch)) = .ok (⟨entries⟩ : RawBatch) := by
  have hpow : Nat.pow 2 63 < Nat.pow 2 64 := by decide
  have hlens : IsLens RawBatch.entries fun entries _ => ⟨entries⟩ :=
    ⟨fun _ _ => rfl, fun _ => rfl, fun _ _ _ => rfl⟩
  have hentry : ∀ entry ∈ entries, ∀ target : RawBatch,
      Folds maxDepth target (writeKey ⟨1, .lengthDelimited⟩ ++ Scalar.writeBytes entry)
        ⟨target.entries ++ [id entry]⟩ := by
    intro entry hmem target
    have htakes : Takes Scalar.readBytes (Scalar.writeBytes entry) entry :=
      Scalar.takes_readBytes_iff.mpr
        ⟨_, rfl, takes_writeVarint ((hshort entry hmem).trans hpow)⟩
    exact Field.folds_occurrence rfl
      ((Field.takes_repeated_iff Scalar.isLocal_bytes).mpr ⟨rfl, entry, htakes, rfl⟩)
  have hfolds := Field.folds_flatMap hlens hentry blank
  rw [List.map_id, ← encode_rawBatch] at hfolds
  exact hfolds.decode_eq

/-- Only the batch without entries takes no bytes. -/
theorem encode_rawBatch_eq_nil_iff {entries : List Bytes} :
    encode (⟨entries⟩ : RawBatch) = [] ↔ entries = [] := by
  have hkey : writeKey ⟨1, .lengthDelimited⟩ ≠ [] := by decide +kernel
  rw [encode_rawBatch]
  cases entries with
  | nil => exact iff_of_true rfl rfl
  | cons entry entries => simp [hkey]

/-- An entry that was written as a state decodes to it. -/
theorem entry_decode_encode (index : Nat) {state : DeviceState}
    (hshort : (encode state).length < Nat.pow 2 63) :
    Entry.decode index (encode state) =
      match state.report with
      | none => .error (.noReport index)
      | some report =>
          .ok ⟨.ofReport report.positiveZeros, state.timestamp, encode state⟩ := by
  have hdecode : decode (encode state) = .ok state.positiveZeros :=
    (readsBack_deviceState maxDepth state (by decide) hshort).decode_eq
  rw [Entry.decode, hdecode]
  cases state with
  | mk timestamp report => cases report <;> rfl

/-- Entries that were written as states decode to them. -/
theorem decodeEntries_map_encode (index : Nat)
    (hshort : ∀ state ∈ states, (encode state).length < Nat.pow 2 63) :
    decodeEntries index (states.map encode) = writtenEntries index states := by
  induction states generalizing index with
  | nil => rfl
  | cons state states ih =>
      obtain ⟨hstate, hothers⟩ := List.forall_mem_cons.mp hshort
      rw [List.map_cons, decodeEntries, entry_decode_encode index hstate, ih (index + 1) hothers,
        writtenEntries]
      cases state.report <;> rfl

/-- A payload that is the encoding of states decodes into their entries, unless there are none. -/
theorem decodeBatch_encode (hshort : ∀ state ∈ states, (encode state).length < Nat.pow 2 63) :
    decodeBatch (encode (⟨states⟩ : StateBatch)) =
      if states = [] then .error .empty else writtenEntries 0 states := by
  have hdecode : decode (encode (⟨states.map encode⟩ : RawBatch)) =
      .ok (⟨states.map encode⟩ : RawBatch) := by
    refine decode_encode_rawBatch fun entry hentry => ?_
    obtain ⟨state, hstate, rfl⟩ := List.mem_map.mp hentry
    exact hshort state hstate
  rw [encode_stateBatch, decodeBatch, hdecode]
  simp only [List.isEmpty_iff, encode_rawBatch_eq_nil_iff, List.map_eq_nil_iff,
    decodeEntries_map_encode 0 hshort]

/-! ## Entries as they were written -/

/-- The entry carries the report of the state with positive zeros, the clock of the state, and the
encoding of the state as the bytes it was delivered in. -/
def DeviceState.WrittenAs (state : DeviceState) (entry : Entry) : Prop :=
  ∃ report, state.report = some report ∧
    entry = ⟨.ofReport report.positiveZeros, state.timestamp, encode state⟩

/-- States that all have a report are written as entries. -/
theorem writtenEntries_of_reports (index : Nat)
    (hreports : ∀ state ∈ states, state.report ≠ none) :
    ∃ entries, writtenEntries index states = .ok entries ∧
      List.Forall₂ DeviceState.WrittenAs states entries := by
  induction states generalizing index with
  | nil => exact ⟨[], rfl, .nil⟩
  | cons state states ih =>
      obtain ⟨hstate, hothers⟩ := List.forall_mem_cons.mp hreports
      obtain ⟨report, hreport⟩ := Option.ne_none_iff_exists'.mp hstate
      obtain ⟨entries, hentries, hwritten⟩ := ih (index + 1) hothers
      refine ⟨_, ?_, .cons ⟨report, hreport, rfl⟩ hwritten⟩
      rw [writtenEntries, hreport, hentries]

/-- The first state without a report spoils the batch, at its place. -/
theorem writtenEntries_of_noReport (index : Nat) {place : Nat} {state : DeviceState}
    (hstate : states[place]? = some state) (hnone : state.report = none)
    (hearlier : ∀ earlier ∈ states.take place, earlier.report ≠ none) :
    writtenEntries index states = .error (.noReport (index + place)) := by
  induction states generalizing index place with
  | nil => cases hstate
  | cons first states ih =>
      cases place with
      | zero =>
          obtain rfl := Option.some.inj hstate
          rw [writtenEntries, hnone]
          rfl
      | succ place =>
          rw [List.take_succ_cons] at hearlier
          obtain ⟨hfirst, hothers⟩ := List.forall_mem_cons.mp hearlier
          obtain ⟨report, hreport⟩ := Option.ne_none_iff_exists'.mp hfirst
          have hrest := ih (index + 1) hstate hothers
          rw [Nat.add_right_comm, Nat.add_assoc] at hrest
          rw [writtenEntries, hreport, hrest]

/-! ## Reports as they were -/

/-- The entry of a task list that describes a task. -/
def Task.toEntry (task : Task) : TaskEntry :=
  { name := task.name
    state := task.state.code
    priority := task.priority
    runtime := task.runtime
    stats := task.stats
    highwater := task.highwater }

/-- The report of a record. -/
def Record.toReport : Record → Report
  | .telemetry reading => .telemetry reading
  | .tasks list => .tasks ⟨list.map Task.toEntry⟩
  | .memory figures => .memory figures
  | .outputs groups => .outputs ⟨groups⟩
  | .reboot => .reboot {}

/-- Nothing of a task is lost, its number of an unknown run state included. -/
@[simp] theorem Task.toEntry_ofEntry (entry : TaskEntry) :
    (Task.ofEntry entry).toEntry = entry := by
  simp [toEntry, ofEntry]

/-- Nothing of a report is lost. -/
theorem Record.toReport_ofReport (report : Report) :
    (Record.ofReport report).toReport = report := by
  cases report with
  | tasks list => simp [ofReport, toReport, Function.comp_def]
  | telemetry | memory | outputs | reboot => rfl

/-! ## Whole batches -/

/-- An encoded state is no longer than the batch it is encoded in. -/
theorem length_encode_le {state : DeviceState} (h : state ∈ states) :
    (encode state).length ≤ (encode (⟨states⟩ : StateBatch)).length := by
  have hfield := Field.length_le_flatMap
    (fun entry => writeKey ⟨1, .lengthDelimited⟩ ++ Scalar.writeBytes entry)
    (List.mem_map_of_mem (f := encode) h)
  rw [encode_stateBatch, encode_rawBatch]
  simp only [Scalar.writeBytes, List.length_append] at hfield ⊢
  omega

/-- The encoding of states that all have a report decodes into their entries. If some have none, the
failure names the first of them. No two reports have the same record. -/
theorem written_batch_decodes (hstates : states ≠ [])
    (hshort : (encode (⟨states⟩ : StateBatch)).length < Nat.pow 2 63) :
    let decoded := (decodeBatch (encode (⟨states⟩ : StateBatch))).mapError BatchFault.toFailure
    ((∀ state ∈ states, state.report ≠ none) →
      ∃ entries, decoded = .ok entries ∧ List.Forall₂ DeviceState.WrittenAs states entries) ∧
    (∀ (index : Nat) (state : DeviceState), states[index]? = some state → state.report = none →
      (∀ earlier ∈ states.take index, earlier.report ≠ none) →
        decoded = .error (.malformedBatch s!"record {index}: {noReportText}")) ∧
    Function.Injective Record.ofReport := by
  intro decoded
  have hdecoded : decoded = (writtenEntries 0 states).mapError BatchFault.toFailure := by
    have hbatch := decodeBatch_encode fun state hstate =>
      (length_encode_le hstate).trans_lt hshort
    rw [if_neg hstates] at hbatch
    exact congrArg (Except.mapError BatchFault.toFailure) hbatch
  refine ⟨fun hreports => ?_, fun index state hstate hnone hearlier => ?_, ?_⟩
  · obtain ⟨entries, hentries, hwritten⟩ := writtenEntries_of_reports 0 hreports
    rw [hentries] at hdecoded
    exact ⟨entries, hdecoded, hwritten⟩
  · rw [writtenEntries_of_noReport 0 hstate hnone hearlier, Nat.zero_add] at hdecoded
    exact hdecoded
  · exact Function.LeftInverse.injective Record.toReport_ofReport

/-- A reading with a negative zero, a task in an unknown run state and a reboot are read as they
were written; with a state behind them that has no report the batch is spoilt there. -/
theorem unusualBatch_decodes :
    let states := (unusualBatch ⟨0x80000000⟩).states
    (∃ entries,
      (decodeBatch (encode (⟨states.take 3⟩ : StateBatch))).mapError BatchFault.toFailure =
        .ok entries ∧ List.Forall₂ DeviceState.WrittenAs (states.take 3) entries) ∧
      (decodeBatch (encode (⟨states⟩ : StateBatch))).mapError BatchFault.toFailure =
        .error (.malformedBatch s!"record {3}: {noReportText}") := by
  intro states
  constructor
  · exact (written_batch_decodes (by decide) (by decide +kernel)).1 (by decide)
  · have hshort : (encode (⟨states⟩ : StateBatch)).length < Nat.pow 2 63 := by decide +kernel
    exact (written_batch_decodes (by decide) hshort).2.1 3 ⟨1, none⟩ rfl rfl (by decide)

end Glasshouse.Status
