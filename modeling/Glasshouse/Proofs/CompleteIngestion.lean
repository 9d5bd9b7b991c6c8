import Glasshouse.Proofs.BatchPaths
import Glasshouse.Proofs.SinglePass

/-!
# Ingestion on healthy stores

While neither switch is set nothing of a good envelope is lost, whatever documents are there: a
conflict is passed over, so every call of the batch is made once and in order. The rows are then
those of the batch, and `journal_performEach_batchCalls` reads the journal off the batch too. Main
statement: `healthy_ingestion_complete`.
-/

namespace Glasshouse.Ingest

open Store Status

/-- The entry is a report that goes to a state document, and not telemetry. -/
def isReport (entry : Entry) : Bool :=
  entry.record.kind ≠ .telemetry

/-- The state documents of the reports among entries, in order. -/
def reportPaths (envelope : Envelope) (entries : List Entry) : List String :=
  (entries.filter isReport).map fun entry => statePath envelope.device entry.record.kind

/-- The telemetry document of an envelope. -/
def Envelope.telemetryDocument (envelope : Envelope) : String :=
  telemetryPath envelope.device envelope.ingestedAt.seconds

/-- The paths that a batch adds to the journal: those of its reports in order, and that of the
telemetry document once, where the first telemetry stands, unless the document exists. -/
def batchJournal (envelope : Envelope) (entries : List Entry) (documents : Documents) :
    List String :=
  let created :=
    if envelope.telemetryDocument ∈ documents ∨ ∀ entry ∈ entries, isReport entry then []
    else [envelope.telemetryDocument]
  reportPaths envelope (entries.takeWhile isReport) ++ created ++
    reportPaths envelope (entries.dropWhile isReport)

variable (target : Target) (envelope : Envelope) {stores : Stores}

/-! ## One entry -/

/-- A report has no sample. -/
theorem isReport_iff (entry : Entry) :
    isReport entry = true ↔ sampleOf? envelope entry = none := by
  rw [sampleOf?_eq_none_iff, isReport, decide_eq_true_iff]

/-- The telemetry document exists after an entry if it did before or the entry is telemetry. -/
theorem telemetryDocument_mem_after_entry (entry : Entry) :
    envelope.telemetryDocument ∈
        (stores.performEach (entryCalls target envelope entry)).snapshots.documents ↔
      envelope.telemetryDocument ∈ stores.snapshots.documents ∨ isReport entry = false := by
  rw [Std.ExtTreeMap.mem_iff_isSome_getElem?, Std.ExtTreeMap.mem_iff_isSome_getElem?,
    Envelope.telemetryDocument, Stores.getElem?_performEach_telemetryPath, entryCalls_eq,
    ← Bool.not_eq_true, isReport_iff envelope]
  cases hsample : sampleOf? envelope entry with
  | none => simp [sampleAt?]
  | some sample => simp [sampleAt?, samplePath_of_sampleOf? envelope hsample]

/-- An entry adds to the journal of healthy stores what a batch of it alone would add. -/
theorem journal_performEach_entryCalls (h : stores.Healthy) (entry : Entry) :
    (stores.performEach (entryCalls target envelope entry)).snapshots.journal =
      stores.snapshots.journal ++ batchJournal envelope [entry] stores.snapshots.documents := by
  have hreport := isReport_iff envelope entry
  rw [entryCalls_eq]
  cases hsample : sampleOf? envelope entry with
  | none =>
      have hisReport := hreport.mpr hsample
      simp [Stores.performEach, Stores.perform, SnapshotMemory.merge, h.online, batchJournal,
        reportPaths, hisReport, StateReport.path, reportOf]
  | some sample =>
      have hisReport : isReport entry = false := by simp [← Bool.not_eq_true, hreport, hsample]
      have hpath : samplePath sample = envelope.telemetryDocument :=
        samplePath_of_sampleOf? envelope hsample
      simp only [Stores.performEach, List.foldl_cons, List.foldl_nil, Stores.perform,
        SnapshotMemory.create, hpath]
      split <;> simp_all [batchJournal, reportPaths]

/-! ## The whole batch -/

/-- What a batch adds to the journal is what its first entry adds, and then what the others add to
documents in which the telemetry is there if it was or is that entry. -/
theorem batchJournal_cons (entry : Entry) (entries : List Entry) {before after : Documents}
    (h : envelope.telemetryDocument ∈ after ↔
      envelope.telemetryDocument ∈ before ∨ isReport entry = false) :
    batchJournal envelope (entry :: entries) before =
      batchJournal envelope [entry] before ++ batchJournal envelope entries after := by
  cases hentry : isReport entry with
  | true => simp [batchJournal, reportPaths, hentry, h]
  | false =>
      -- The others stand behind the first telemetry, so their reports are not divided any more.
      have hwhole : reportPaths envelope (entries.takeWhile isReport) ++
          reportPaths envelope (entries.dropWhile isReport) = reportPaths envelope entries := by
        rw [reportPaths, reportPaths, ← List.map_append, ← List.filter_append,
          List.takeWhile_append_dropWhile, reportPaths]
      have hothers : batchJournal envelope entries after = reportPaths envelope entries := by
        rw [batchJournal, if_pos (Or.inl (h.mpr (Or.inr hentry))), List.append_nil, hwhole]
      rw [hothers]
      simp [batchJournal, reportPaths, hentry]

/-- A batch that is written to healthy stores adds its paths to the journal. -/
theorem journal_performEach_batchCalls (h : stores.Healthy) (entries : List Entry) :
    (stores.performEach (batchCalls target envelope entries)).snapshots.journal =
      stores.snapshots.journal ++ batchJournal envelope entries stores.snapshots.documents := by
  induction entries generalizing stores with
  | nil => simp [batchCalls, Stores.performEach, batchJournal, reportPaths]
  | cons entry entries ih =>
      rw [performEach_batchCalls_cons, ih (h.performEach _),
        journal_performEach_entryCalls target envelope h, List.append_assoc,
        ← batchJournal_cons envelope entry entries
          (telemetryDocument_mem_after_entry target envelope entry)]

/-- An envelope that names its device and has a batch is acknowledged by healthy stores, whatever
they hold. One row is added for each telemetry entry, in order, and the journal grows by the path of
each report, in order, and by that of the telemetry document where the first telemetry stands, this
one only if the document did not exist. -/
theorem healthy_ingestion_complete (settings : Settings) (envelope : Envelope)
    (entries : List Entry) (stores : Stores)
    (hignored : envelope.isIgnored settings.ignoreSuffix = false) (hdevice : envelope.device ≠ "")
    (hdecode : decodeBatch envelope.payload = .ok entries)
    (honline : stores.snapshots.mergesOffline = false)
    (haccepting : stores.analytics.refusal = none) :
    let run := (ingest settings envelope).run Stores.behaviour stores
    run.value = .ack ∧
      run.state.analytics.rows =
        stores.analytics.rows ++ batchRows settings.target envelope entries ∧
      run.state.snapshots.journal =
        stores.snapshots.journal ++ batchJournal envelope entries stores.snapshots.documents := by
  have hhealthy : stores.Healthy := ⟨honline, haccepting⟩
  obtain ⟨hack, hstate⟩ :=
    run_ingest_of_healthy hignored (validate_of_ne hdevice) hdecode hhealthy
  refine ⟨hack, ?_, ?_⟩
  · rw [hstate, hhealthy.rows_performEach, filterMap_rowOf?_batchCalls]
  · rw [hstate, journal_performEach_batchCalls settings.target envelope hhealthy]

/-- The mixed delivery comes to empty stores, and to stores in which another writer has left a
telemetry document. Both acknowledge it and add both rows; the first journal the telemetry document
and that of the memory, the second only that of the memory. -/
theorem mixedDelivery_complete :
    let run := (ingest testSettings mixedDelivery).run Stores.behaviour
    let occupied := Stores.empty.seedField mixedDelivery.telemetryDocument "label" (.text "rack-a")
    ((run .empty).value = .ack ∧ (run .empty).state.analytics.rows.length = 2 ∧
      (run .empty).state.snapshots.journal =
        [mixedDelivery.telemetryDocument, statePath "grow-1" .memory]) ∧
    ((run occupied).value = .ack ∧ (run occupied).state.analytics.rows.length = 2 ∧
      (run occupied).state.snapshots.journal = [statePath "grow-1" .memory]) := by
  intro run occupied
  constructor
  · obtain ⟨hack, hrows, hjournal⟩ := healthy_ingestion_complete testSettings mixedDelivery
      mixedEntries .empty (by decide +kernel) (by decide) decodeBatch_mixedDelivery rfl rfl
    refine ⟨hack, ?_, ?_⟩
    · rw [hrows]
      decide +kernel
    · rw [hjournal]
      decide +kernel
  · obtain ⟨hack, hrows, hjournal⟩ := healthy_ingestion_complete testSettings mixedDelivery
      mixedEntries occupied (by decide +kernel) (by decide) decodeBatch_mixedDelivery rfl rfl
    refine ⟨hack, ?_, ?_⟩
    · rw [hrows]
      decide +kernel
    · rw [hjournal]
      decide +kernel

end Glasshouse.Ingest
