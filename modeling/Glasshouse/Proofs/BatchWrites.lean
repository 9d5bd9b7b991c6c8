import Glasshouse.Ingest.SinglePass
import Glasshouse.Proofs.Silence

/-!
# What the entries of a batch write

An entry is either telemetry, and then its sample goes to both stores, or a report of another kind,
which goes to its state document. This module names the sample and the report of an entry and the
rows and calls of a batch, and says once what the write of an entry does before any store answers.
-/

namespace Glasshouse.Ingest

open Store Status

/-- The sample of an entry, if it is telemetry. -/
def sampleOf? (envelope : Envelope) (entry : Entry) : Option Sample :=
  match entry.record with
  | .telemetry reading => some (.ofReading envelope.device envelope.ingestedAt reading)
  | _ => none

/-- The report that an entry other than telemetry makes. -/
def reportOf (envelope : Envelope) (entry : Entry) : StateReport :=
  ⟨envelope.device, entry.record.kind, envelope.ingestedAt, entry.raw⟩

/-- The rows of a batch: one for each telemetry entry, in order. -/
def batchRows (target : Target) (envelope : Envelope) (entries : List Entry) :
    List (Target × Sample) :=
  entries.filterMap fun entry => (sampleOf? envelope entry).map (target, ·)

/-- The calls of a batch, entry by entry. -/
def batchCalls (target : Target) (envelope : Envelope) (entries : List Entry) : List Call :=
  entries.flatMap (entryCalls target envelope)

/-- Settings under which devices whose ids end with "-test" are ignored. -/
def testSettings : Settings :=
  ⟨"-test", ⟨"hydroponics", "telemetry"⟩⟩

/-- A batch of telemetry, figures of the memory and telemetry again, all in one second. -/
def mixedDelivery : Envelope :=
  ⟨"grow-1", "greenhouse", .ofParts 1700000000 0,
    [10, 2, 18, 0, 10, 2, 34, 0, 10, 7, 18, 5, 13, 0, 0, 172, 65]⟩

/-- A test that the decoded batch passes is passed by the entries of the payload. -/
theorem exists_entries_of_any {payload : Wire.Bytes} {test : List Entry → Bool}
    (h : (decodeBatch payload).toOption.any test = true) :
    ∃ entries, decodeBatch payload = .ok entries ∧ test entries = true := by
  cases hdecode : decodeBatch payload with
  | error fault =>
      rw [hdecode] at h
      cases h
  | ok entries =>
      rw [hdecode] at h
      exact ⟨entries, rfl, h⟩

/-- The entries of the mixed delivery. -/
def mixedEntries : List Entry :=
  [⟨.telemetry (.replicate 0), 0, [18, 0]⟩, ⟨.memory ⟨0, 0⟩, 0, [34, 0]⟩,
    ⟨.telemetry { Measurements.replicate 0 with tempIndoor := ⟨0x41AC0000⟩ }, 0,
      [18, 5, 13, 0, 0, 172, 65]⟩]

/-- The mixed delivery is decoded into its entries. -/
theorem decodeBatch_mixedDelivery : decodeBatch mixedDelivery.payload = .ok mixedEntries := by
  have hany : (decodeBatch mixedDelivery.payload).toOption.any (· == mixedEntries) := by
    decide +kernel
  obtain ⟨entries, hdecode, hentries⟩ := exists_entries_of_any hany
  rw [hdecode, eq_of_beq hentries]

/-- The mixed delivery has a batch with two rows. -/
theorem mixedDelivery_decodes : ∃ entries, decodeBatch mixedDelivery.payload = .ok entries ∧
    (batchRows testSettings.target mixedDelivery entries).length = 2 := by
  have hany : (decodeBatch mixedDelivery.payload).toOption.any
      (fun decoded => (batchRows testSettings.target mixedDelivery decoded).length == 2) := by
    decide +kernel
  obtain ⟨entries, hdecode, hlength⟩ := exists_entries_of_any hany
  exact ⟨entries, hdecode, eq_of_beq hlength⟩

variable (target : Target) (envelope : Envelope) (entry : Entry)

/-- The calls of an entry are those for its sample, or the one for its report. -/
theorem entryCalls_eq :
    entryCalls target envelope entry =
      match sampleOf? envelope entry with
      | some sample => [.create sample, .insert target sample]
      | none => [.merge (reportOf envelope entry)] := by
  unfold entryCalls sampleOf? reportOf
  cases entry.record <;> rfl

/-- The write of a sample makes both calls; the failure of the snapshot store comes first. -/
theorem silent_fanOut (sample : Sample) :
    (fanOut target sample).silent =
      .join (.create sample) (.insert target sample) fun created inserted =>
        .done (created.bind fun _ => inserted) := by
  show Program.join _ _ _ = Program.join _ _ _
  congr 1
  funext created inserted
  simp only [Program.done_bind, Program.bind_eq, Program.silent_bind, silent_logAll]
  cases created <;> cases inserted <;> rfl

/-- The write of an entry, apart from its events. -/
theorem silent_writeEntry :
    (writeEntry target envelope entry).silent =
      match sampleOf? envelope entry with
      | some sample =>
          .join (.create sample) (.insert target sample) fun created inserted =>
            .done (created.bind fun _ => inserted)
      | none => .call (.merge (reportOf envelope entry)) .done := by
  have hupsert (report : StateReport) : (upsert report).silent = .call (.merge report) .done := by
    show Program.call _ _ = Program.call _ _
    congr 1
    funext answer
    cases answer <;> rfl
  unfold writeEntry sampleOf? reportOf
  cases entry.record with
  | telemetry reading => exact silent_fanOut _ _
  | _ => exact hupsert _

end Glasshouse.Ingest
