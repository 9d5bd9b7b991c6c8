import Glasshouse.Proofs.BatchPaths
import Glasshouse.Proofs.SinglePass

/-!
# Documents of acknowledged envelopes

An acknowledgement says that every entry of the batch has reached its document. An acknowledged pass
made all calls of the batch and each took effect on the documents, so what a path holds afterwards is
read off the batch: the last report of its kind, or the first sample. Main statement:
`acknowledged_documents`.
-/

namespace Glasshouse.Ingest

open Store Status

variable {target : Target} {envelope : Envelope} {entry : Entry} {entries : List Entry}
  {stores : Stores}

/-! ## Acknowledged passes -/

/-- A pass that ends with an acknowledgement wrote its first entry, or found it to be there, and went
on to acknowledge the others. -/
theorem passOver_cons_of_ack
    (hack : (passOver target envelope (entry :: entries) stores).settlement = .ack) :
    (∀ failure, (performAll (entryCalls target envelope entry) stores).1 = .error failure →
      ∃ path, failure = .snapshotConflict path) ∧
    (passOver target envelope entries
      (stores.performEach (entryCalls target envelope entry))).settlement = .ack := by
  have hwritten := performAll_stores (entryCalls target envelope entry) stores
  rw [passOver] at hack
  rcases hperform : performAll (entryCalls target envelope entry) stores with ⟨answer, written⟩
  rw [hperform] at hack hwritten
  obtain rfl : written = _ := hwritten
  cases answer with
  | ok _ =>
      refine ⟨fun failure h => ?_, hack⟩
      cases h
  | error failure =>
      have hstops := settle_ne_ack failure
      cases failure with
      | snapshotConflict path => exact ⟨fun _ h => ⟨path, (Except.error.inj h).symm⟩, hack⟩
      | _ => exact absurd hack hstops

/-- While merges are offline a report is not written, so the write of its entry stops a pass. -/
theorem performAll_report_of_offline (hsample : sampleOf? envelope entry = none)
    (hoffline : stores.snapshots.mergesOffline = true) :
    ∃ detail, (performAll (entryCalls target envelope entry) stores).1 =
      .error (.snapshotUnavailable detail) := by
  rw [entryCalls_eq, hsample]
  simp [performAll, Stores.perform, SnapshotMemory.merge, hoffline]

/-- The calls of an acknowledged pass all take effect on the documents. -/
theorem takesEffect_of_ack (hack : (passOver target envelope entries stores).settlement = .ack) :
    ∀ call ∈ batchCalls target envelope entries,
      takesEffect stores.snapshots.mergesOffline call = true := by
  induction entries generalizing stores with
  | nil => nofun
  | cons entry entries ih =>
      obtain ⟨hanswer, hrest⟩ := passOver_cons_of_ack hack
      have hothers := ih hrest
      rw [Stores.mergesOffline_performEach] at hothers
      rw [batchCalls, List.flatMap_cons, ← batchCalls, List.forall_mem_append]
      refine ⟨?_, hothers⟩
      cases hsample : sampleOf? envelope entry with
      | some sample =>
          rw [entryCalls_eq, hsample]
          simp [takesEffect]
      | none =>
          have honline : stores.snapshots.mergesOffline = false := by
            rw [← Bool.not_eq_true]
            intro hoffline
            obtain ⟨detail, hfailed⟩ := performAll_report_of_offline hsample hoffline
            obtain ⟨path, hconflict⟩ := hanswer _ hfailed
            cases hconflict
          rw [entryCalls_eq, hsample, honline]
          simp [takesEffect]

/-- An acknowledged pass leaves the documents that all calls of its batch leave. -/
theorem documents_of_ack (hack : (passOver target envelope entries stores).settlement = .ack) :
    (passOver target envelope entries stores).stores.snapshots.documents =
      stores.snapshots.documents.afterAll (batchCalls target envelope entries) := by
  obtain ⟨front, _, hstores, hfront⟩ := passOver_front target envelope entries stores
  rw [hstores, hfront hack, Stores.documents_performEach,
    List.filter_eq_self.mpr (takesEffect_of_ack hack)]

/-! ## Documents after the calls of a batch -/

variable (documents : Documents)

/-- The state document of a kind holds the last report of that kind. -/
theorem statePath_afterAll {kind : Kind} (hkind : kind ≠ .telemetry) {last : Entry}
    (hlast : (entries.filter (·.record.kind = kind)).getLast? = some last) :
    (documents.afterAll (batchCalls target envelope entries))[statePath envelope.device kind]? =
      some ((documents[statePath envelope.device kind]?.getD ∅).mergeReport
        (reportOf envelope last)) := by
  rw [getElem?_afterAll, filterMap_reportAt?_statePath _ _ _ hkind, List.getLast?_map, hlast]
  rfl

/-- The telemetry document is the one that was there, or else that of the first sample. -/
theorem telemetryPath_afterAll :
    (documents.afterAll (batchCalls target envelope entries))[
        telemetryPath envelope.device envelope.ingestedAt.seconds]? =
      documents[telemetryPath envelope.device envelope.ingestedAt.seconds]?.or
        ((entries.findSome? (sampleOf? envelope)).map .ofSample) := by
  rw [getElem?_afterAll_telemetryPath, filterMap_sampleAt?_batchCalls, if_pos rfl,
    List.head?_filterMap]

/-- A path that is neither that of the telemetry of the batch nor that of one of its kinds keeps its
document. -/
theorem otherPath_afterAll {path : String}
    (htelemetry : (∃ entry ∈ entries, entry.record.kind = .telemetry) →
      path ≠ telemetryPath envelope.device envelope.ingestedAt.seconds)
    (hstates : ∀ entry ∈ entries, entry.record.kind ≠ .telemetry →
      path ≠ statePath envelope.device entry.record.kind) :
    (documents.afterAll (batchCalls target envelope entries))[path]? = documents[path]? := by
  have hreports : (batchCalls target envelope entries).filterMap (reportAt? path) = [] := by
    rw [filterMap_reportAt?_batchCalls, List.map_eq_nil_iff, List.filter_eq_nil_iff]
    intro entry hmem
    simpa using fun hkind hpath => hstates entry hmem hkind hpath.symm
  have hsamples : (batchCalls target envelope entries).filterMap (sampleAt? path) = [] := by
    rw [filterMap_sampleAt?_batchCalls]
    split
    · next hpath =>
        rw [List.filterMap_eq_nil_iff]
        intro entry hmem
        rw [sampleOf?_eq_none_iff]
        exact fun hkind => htelemetry ⟨entry, hmem, hkind⟩ hpath.symm
    · rfl
  rw [getElem?_afterAll, hreports, hsamples]
  simp

/-- The first sample of a batch is that of its first telemetry entry. -/
theorem findSome?_sampleOf? {first : Entry} {reading : Reading}
    (hfirst : entries.find? (·.record.kind = .telemetry) = some first)
    (hreading : first.record = .telemetry reading) :
    entries.findSome? (sampleOf? envelope) =
      some (.ofReading envelope.device envelope.ingestedAt reading) := by
  obtain ⟨_, front, rest, rfl, hfront⟩ := List.find?_eq_some_iff_append.mp hfirst
  have hnone : front.findSome? (sampleOf? envelope) = none := by
    rw [List.findSome?_eq_none_iff]
    intro entry hmem
    simpa [sampleOf?_eq_none_iff] using hfront entry hmem
  have hsample : sampleOf? envelope first =
      some (.ofReading envelope.device envelope.ingestedAt reading) :=
    (sampleOf?_eq_some_iff envelope).mpr ⟨reading, hreading, rfl⟩
  rw [List.findSome?_append, hnone, List.findSome?_cons, hsample]
  rfl

/-! ## Acknowledged envelopes -/

/-- An envelope that is acknowledged names its device and has a batch, and all of the batch is in
the documents: for every kind of report that occurs in it the state document holds the time of the
envelope and the bytes of the last entry of that kind, beside the fields that it had; if there is
telemetry its document is there, the old one if there was one and else that of the first sample; and
every other document is as it was. -/
theorem acknowledged_documents (settings : Settings) (envelope : Envelope) (stores : Stores)
    (hignored : envelope.isIgnored settings.ignoreSuffix = false)
    (hack : ((ingest settings envelope).run Stores.behaviour stores).value = .ack) :
    let before := stores.snapshots.documents
    let after := ((ingest settings envelope).run Stores.behaviour stores).state.snapshots.documents
    let telemetry := telemetryPath envelope.device envelope.ingestedAt.seconds
    envelope.device ≠ "" ∧ ∃ entries, decodeBatch envelope.payload = .ok entries ∧
      (∀ kind, kind ≠ .telemetry → (∃ entry ∈ entries, entry.record.kind = kind) →
        ∃ last document, (entries.filter (·.record.kind = kind)).getLast? = some last ∧
          after[statePath envelope.device kind]? = some document ∧
          document[timestampField]? = some (.timestamp envelope.ingestedAt) ∧
          document[dataField]? = some (.bytes last.raw) ∧
          ∀ name, name ≠ timestampField → name ≠ dataField →
            document[name]? = (before[statePath envelope.device kind]?.getD ∅)[name]?) ∧
      ((∃ entry ∈ entries, entry.record.kind = .telemetry) →
        ∃ first reading, entries.find? (·.record.kind = .telemetry) = some first ∧
          first.record = .telemetry reading ∧
          after[telemetry]? = some (before[telemetry]?.getD
            (.ofSample (.ofReading envelope.device envelope.ingestedAt reading)))) ∧
      ∀ path, ((∃ entry ∈ entries, entry.record.kind = .telemetry) → path ≠ telemetry) →
        (∀ entry ∈ entries, entry.record.kind ≠ .telemetry →
          path ≠ statePath envelope.device entry.record.kind) →
        after[path]? = before[path]? := by
  obtain ⟨hvalid, entries, hdecode⟩ := decodes_of_ack hignored hack
  obtain ⟨hvalue, hstate⟩ := run_ingest_of_decodes hignored hvalid hdecode stores
  intro before after telemetry
  have hafter : after = before.afterAll (batchCalls settings.target envelope entries) := by
    show ((ingest settings envelope).run Stores.behaviour stores).state.snapshots.documents = _
    rw [hstate]
    exact documents_of_ack (hvalue.symm.trans hack)
  refine ⟨ne_of_validate hvalid, entries, hdecode, ?_, ?_, ?_⟩
  · rintro kind hkind ⟨entry, hmem, hentry⟩
    have hoccurs : entry ∈ entries.filter (·.record.kind = kind) := by simp [hmem, hentry]
    obtain ⟨last, hlast⟩ := Option.ne_none_iff_exists'.mp
      (mt List.getLast?_eq_none_iff.mp (List.ne_nil_of_mem hoccurs))
    refine ⟨last, _, hlast, hafter ▸ statePath_afterAll before hkind hlast, ?_, ?_, ?_⟩
    · rw [getElem?_mergeReport, if_neg (by decide), if_pos rfl]
      rfl
    · rw [getElem?_mergeReport, if_pos rfl]
      rfl
    · intro name htime hdata
      rw [getElem?_mergeReport, if_neg hdata, if_neg htime]
  · rintro ⟨entry, hmem, hentry⟩
    have hoccurs : (entries.find? (·.record.kind = .telemetry)).isSome := by
      rw [List.find?_isSome]
      exact ⟨entry, hmem, by simp [hentry]⟩
    obtain ⟨first, hfirst⟩ := Option.isSome_iff_exists.mp hoccurs
    have hkind : first.record.kind = .telemetry := by simpa using List.find?_some hfirst
    obtain ⟨sample, hsample⟩ := Option.ne_none_iff_exists'.mp
      (mt (sampleOf?_eq_none_iff envelope first).mp (not_not.mpr hkind))
    obtain ⟨reading, hreading, _⟩ := (sampleOf?_eq_some_iff envelope).mp hsample
    refine ⟨first, reading, hfirst, hreading, ?_⟩
    rw [hafter, telemetryPath_afterAll, findSome?_sampleOf? hfirst hreading, Option.map_some,
      Option.or_some]
  · intro path htelemetry hstates
    rw [hafter]
    exact otherPath_afterAll before htelemetry hstates

/-- The mixed delivery is acknowledged by a store in which another writer has labelled the memory
document: the figures are there beside the label, and so is the first of the two samples. -/
theorem mixedDelivery_documents :
    let labelled := Stores.empty.seedField (statePath "grow-1" .memory) "label" (.text "rack-a")
    let run := (ingest testSettings mixedDelivery).run Stores.behaviour labelled
    run.value = .ack ∧
      (∃ document, run.state.snapshots.documents[statePath "grow-1" .memory]? = some document ∧
        document[dataField]? = some (.bytes [34, 0]) ∧
        document["label"]? = some (.text "rack-a")) ∧
      run.state.snapshots.documents[
          telemetryPath mixedDelivery.device mixedDelivery.ingestedAt.seconds]? =
        some (.ofSample
          (.ofReading mixedDelivery.device mixedDelivery.ingestedAt (.replicate 0))) := by
  intro labelled run
  have hack : run.value = .ack := by decide +kernel
  obtain ⟨_, entries, hentries, hstates, htelemetry, _⟩ :=
    acknowledged_documents testSettings mixedDelivery labelled (by decide +kernel) hack
  obtain rfl := Except.ok.inj (decodeBatch_mixedDelivery.symm.trans hentries)
  obtain ⟨last, document, hlast, hdocument, _, hdata, hothers⟩ :=
    hstates .memory (by decide) (by decide)
  obtain ⟨first, reading, hfirst, hreading, hsample⟩ := htelemetry (by decide)
  refine ⟨hack, ⟨document, hdocument, ?_, ?_⟩, ?_⟩
  · have hraw : (mixedEntries.filter (·.record.kind = .memory)).getLast?.map (·.raw) =
        some [34, 0] := by decide +kernel
    rw [hlast, Option.map_some, Option.some_inj] at hraw
    rw [hdata, hraw]
  · rw [hothers "label" (by decide) (by decide)]
    decide +kernel
  · cases hfirst
    cases hreading
    have hnone : labelled.snapshots.documents[
        telemetryPath mixedDelivery.device mixedDelivery.ingestedAt.seconds]? = none := by
      decide +kernel
    rw [hnone, Option.getD_none] at hsample
    exact hsample

end Glasshouse.Ingest
