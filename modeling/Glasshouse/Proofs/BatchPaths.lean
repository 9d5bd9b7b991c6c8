import Glasshouse.Proofs.BatchWrites
import Glasshouse.Proofs.Memory

/-!
# Where a batch writes

All telemetry of a batch goes to one path, that of its device and second, and every other entry to
the state document of its device and kind. So a path is written to by entries of one kind at most,
and which samples and reports it sees can be read off the batch.
-/

namespace Glasshouse.Ingest

open Store Status

variable (target : Target) (envelope : Envelope)

/-- An entry has no sample exactly if it is not telemetry. -/
theorem sampleOf?_eq_none_iff (entry : Entry) :
    sampleOf? envelope entry = none ↔ entry.record.kind ≠ .telemetry := by
  unfold sampleOf?
  cases entry.record <;> simp [Record.kind]

/-- The sample of an entry is its reading, taken to the device and time of the envelope. -/
theorem sampleOf?_eq_some_iff {entry : Entry} {sample : Sample} :
    sampleOf? envelope entry = some sample ↔ ∃ reading, entry.record = .telemetry reading ∧
      sample = .ofReading envelope.device envelope.ingestedAt reading := by
  unfold sampleOf?
  cases entry.record <;> simp [eq_comm]

/-- All samples of an envelope go to the document of its device and second. -/
theorem samplePath_of_sampleOf? {entry : Entry} {sample : Sample}
    (h : sampleOf? envelope entry = some sample) :
    samplePath sample = telemetryPath envelope.device envelope.ingestedAt.seconds := by
  obtain ⟨reading, _, rfl⟩ := (sampleOf?_eq_some_iff envelope).mp h
  rfl

/-- The telemetry path of an envelope sees all samples of the batch, any other path none. -/
theorem filterMap_sampleAt?_batchCalls (entries : List Entry) (path : String) :
    (batchCalls target envelope entries).filterMap (sampleAt? path) =
      if telemetryPath envelope.device envelope.ingestedAt.seconds = path
      then entries.filterMap (sampleOf? envelope) else [] := by
  induction entries with
  | nil => simp [batchCalls]
  | cons entry entries ih =>
      rw [batchCalls, List.flatMap_cons, List.filterMap_append, ← batchCalls, ih, entryCalls_eq]
      cases hsample : sampleOf? envelope entry with
      | none => simp [sampleAt?, hsample]
      | some sample =>
          rw [← samplePath_of_sampleOf? envelope hsample]
          by_cases hpath : samplePath sample = path
          · simp [sampleAt?, hpath, hsample]
          · simp [sampleAt?, hpath]

/-- A path sees the reports of the entries whose state document it is. -/
theorem filterMap_reportAt?_batchCalls (entries : List Entry) (path : String) :
    (batchCalls target envelope entries).filterMap (reportAt? path) =
      (entries.filter fun entry => entry.record.kind ≠ .telemetry ∧
        statePath envelope.device entry.record.kind = path).map (reportOf envelope) := by
  induction entries with
  | nil => rfl
  | cons entry entries ih =>
      rw [batchCalls, List.flatMap_cons, List.filterMap_append, ← batchCalls, ih, entryCalls_eq,
        List.filter_cons]
      cases hsample : sampleOf? envelope entry with
      | some sample =>
          have hkind : entry.record.kind = .telemetry := by
            by_contra hother
            rw [(sampleOf?_eq_none_iff envelope entry).mpr hother] at hsample
            cases hsample
          simp [reportAt?, hkind]
      | none =>
          have hkind := (sampleOf?_eq_none_iff envelope entry).mp hsample
          have hpath : (reportOf envelope entry).path =
              statePath envelope.device entry.record.kind := rfl
          by_cases hhere : statePath envelope.device entry.record.kind = path
          · simp [reportAt?, hkind, hpath, hhere]
          · simp [reportAt?, hpath, hhere]

/-- The state document of a kind other than telemetry sees the reports of the entries of that
kind. -/
theorem filterMap_reportAt?_statePath (entries : List Entry) {kind : Kind}
    (hkind : kind ≠ .telemetry) :
    (batchCalls target envelope entries).filterMap
        (reportAt? (statePath envelope.device kind)) =
      (entries.filter (·.record.kind = kind)).map (reportOf envelope) := by
  rw [filterMap_reportAt?_batchCalls]
  congr 1
  refine List.filter_congr fun entry _ => ?_
  rw [decide_eq_decide]
  constructor
  · rintro ⟨_, hpath⟩
    exact (statePath_inj.mp hpath).2
  · rintro rfl
    exact ⟨hkind, rfl⟩

end Glasshouse.Ingest
