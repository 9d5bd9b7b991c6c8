import Mathlib.Data.Set.Insert
import Glasshouse.Ingest.Dispatch
import Glasshouse.Proofs.Memory

/-!
# Well-formed stores

What stores hold that only a dispatcher has written to: telemetry documents with all measurements,
state documents with a state of their kind, and rows whose telemetry document exists. `WellFormed`
collects these properties, and every call that a dispatcher makes keeps them.
-/

namespace Glasshouse.Ingest

open Store Status

/-! ## Documents -/

/-- A device whose envelopes are written: it has an id, which does not carry the suffix of devices
to be ignored. -/
structure IsServed (settings : Settings) (device : String) : Prop where
  named : device ≠ ""
  notIgnored : settings.ignoreSuffix ≠ "" →
    ¬ settings.ignoreSuffix.toList <:+ device.toList

/-- A document with a time in the given second, the ten measurements and nothing else. -/
structure IsTelemetryDocument (second : Int) (document : Document) : Prop where
  timestamp : ∃ time, document[timestampField]? = some (.timestamp time) ∧ time.seconds = second
  measurements : ∀ name ∈ Measurements.names, ∃ value, document[name]? = some (.number value)
  nothingElse : ∀ name ∈ document, name = timestampField ∨ name ∈ Measurements.names

/-- Bytes of a state with a report of the given kind. -/
def IsStateOf (kind : Kind) (content : Wire.Bytes) : Prop :=
  ∃ (state : DeviceState) (report : Report), Wire.Message.decode content = .ok state ∧
    state.report = some report ∧ (Record.ofReport report).kind = kind

/-- A document with a time, the bytes of a state of the given kind and nothing else. -/
structure IsStateDocument (kind : Kind) (document : Document) : Prop where
  timestamp : ∃ time, document[timestampField]? = some (.timestamp time)
  data : ∃ content, document[dataField]? = some (.bytes content) ∧ IsStateOf kind content
  nothingElse : ∀ name ∈ document, name = timestampField ∨ name = dataField

/-- Documents as a dispatcher leaves them: each stands at a path for telemetry or for states, those
for telemetry are telemetry documents of their second, those for states are state documents of
their kind, which is never telemetry, and all belong to served devices. -/
structure Documented (settings : Settings) (documents : Documents) : Prop where
  sorts : ∀ path ∈ documents, (∃ device second, path = telemetryPath device second) ∨
    ∃ device kind, path = statePath device kind
  telemetry : ∀ device second document, documents[telemetryPath device second]? = some document →
    IsServed settings device ∧ IsTelemetryDocument second document
  states : ∀ device kind document, documents[statePath device kind]? = some document →
    IsServed settings device ∧ kind ≠ .telemetry ∧ IsStateDocument kind document

/-- Stores as a dispatcher leaves them: the documents are in order, and all rows are in its table,
belong to served devices and have their telemetry document, which may only be missing for the given
samples. -/
structure WellFormed (settings : Settings) (missing : Set Sample) (stores : Stores) : Prop where
  documents : Documented settings stores.snapshots.documents
  rows : ∀ target sample, (target, sample) ∈ stores.analytics.rows →
    target = settings.target ∧ IsServed settings sample.device ∧
      (telemetryPath sample.device sample.second ∈ stores.snapshots.documents ∨ sample ∈ missing)

/-- A report that may be merged: its device is served and its bytes are a state of its kind. -/
structure IsGenuine (settings : Settings) (report : StateReport) : Prop where
  served : IsServed settings report.device
  kind : report.kind ≠ .telemetry
  data : IsStateOf report.kind report.data

/-! ## Fields of documents -/

/-- Values that are put into a document leave its other fields alone. -/
theorem getElem?_foldl_insert_of_notMem {pairs : List (String × Number.Binary64)} {name : String}
    (h : name ∉ pairs.map Prod.fst) (document : Document) :
    (pairs.foldl (fun document (name, value) => document.insert name (.number value)) document
      : Document)[name]? = document[name]? := by
  induction pairs generalizing document with
  | nil => rfl
  | cons pair pairs ih =>
      rw [List.map_cons, List.mem_cons, not_or] at h
      rw [List.foldl_cons, ih h.2, Std.ExtTreeMap.getElem?_insert, if_neg]
      exact fun hname => h.1 (Std.compare_eq_iff_eq.mp hname).symm

/-- Values that are put into a document under different names are there. -/
theorem getElem?_foldl_insert_of_mem {pairs : List (String × Number.Binary64)} {name : String}
    {value : Number.Binary64} (hnames : (pairs.map Prod.fst).Nodup) (h : (name, value) ∈ pairs)
    (document : Document) :
    (pairs.foldl (fun document (name, value) => document.insert name (.number value)) document
      : Document)[name]? = some (.number value) := by
  induction pairs generalizing document with
  | nil => cases h
  | cons pair pairs ih =>
      rw [List.map_cons, List.nodup_cons] at hnames
      rw [List.foldl_cons]
      rcases List.mem_cons.mp h with rfl | hlater
      · rw [getElem?_foldl_insert_of_notMem hnames.1, Std.ExtTreeMap.getElem?_insert_self]
      · exact ih hnames.2 hlater _

/-- The names under which a sample's values stand in its document. -/
theorem map_fst_named (values : Measurements Number.Binary64) :
    values.named.map Prod.fst = Measurements.names := rfl

/-- The document of a sample holds every value. -/
theorem getElem?_ofSample_of_mem {sample : Sample} {name : String} {value : Number.Binary64}
    (h : (name, value) ∈ sample.values.named) :
    (Document.ofSample sample)[name]? = some (.number value) :=
  getElem?_foldl_insert_of_mem (map_fst_named _ ▸ by decide) h _

/-- Apart from the values the document of a sample holds the time. -/
theorem getElem?_ofSample_of_notMem (sample : Sample) {name : String}
    (h : name ∉ Measurements.names) :
    (Document.ofSample sample)[name]? =
      ((∅ : Document).insert timestampField (.timestamp sample.time))[name]? :=
  getElem?_foldl_insert_of_notMem (map_fst_named _ ▸ h) _

/-- The document of a sample holds its time. -/
theorem getElem?_ofSample_timestampField (sample : Sample) :
    (Document.ofSample sample)[timestampField]? = some (.timestamp sample.time) := by
  rw [getElem?_ofSample_of_notMem sample (by decide), Std.ExtTreeMap.getElem?_insert_self]

/-- The document of a sample is a telemetry document of its second. -/
theorem isTelemetryDocument_ofSample (sample : Sample) :
    IsTelemetryDocument sample.second (.ofSample sample) := by
  refine ⟨⟨sample.time, getElem?_ofSample_timestampField sample, rfl⟩, fun name h => ?_,
    fun name h => ?_⟩
  · rw [← map_fst_named sample.values, List.mem_map] at h
    obtain ⟨⟨name, value⟩, hmem, rfl⟩ := h
    exact ⟨value, getElem?_ofSample_of_mem hmem⟩
  · by_contra hneither
    rw [not_or] at hneither
    have htime : compare timestampField name ≠ .eq :=
      fun hname => hneither.1 (Std.compare_eq_iff_eq.mp hname).symm
    rw [Std.ExtTreeMap.mem_iff_isSome_getElem?, getElem?_ofSample_of_notMem sample hneither.2,
      Std.ExtTreeMap.getElem?_insert, if_neg htime] at h
    simp at h

/-- A report that is merged into a state document of its kind, or where there was none, leaves a
state document. -/
theorem isStateDocument_mergeReport {document : Document} {report : StateReport}
    (hdata : IsStateOf report.kind report.data)
    (hfields : ∀ name ∈ document, name = timestampField ∨ name = dataField) :
    IsStateDocument report.kind (document.mergeReport report) := by
  refine ⟨⟨report.time, ?_⟩, ⟨report.data, ?_, hdata⟩, fun name h => ?_⟩
  · rw [Document.mergeReport, Std.ExtTreeMap.getElem?_insert, if_neg (by decide),
      Std.ExtTreeMap.getElem?_insert_self]
  · rw [Document.mergeReport, Std.ExtTreeMap.getElem?_insert_self]
  · simp only [Document.mergeReport, Std.ExtTreeMap.mem_insert, Std.compare_eq_iff_eq] at h
    rcases h with rfl | rfl | hold
    · exact Or.inr rfl
    · exact Or.inl rfl
    · exact hfields name hold

/-! ## Calls of a dispatcher -/

variable {settings : Settings} {missing missing' : Set Sample} {stores : Stores}
  {documents : Documents} {sample : Sample} {report : StateReport}

/-- Documents stay where they are. -/
theorem mem_after {path : String} (h : path ∈ documents) (call : Call) :
    path ∈ documents.after call := by
  unfold Documents.after
  split
  · split
    · exact h
    · exact Std.ExtTreeMap.mem_insert.mpr (Or.inr h)
  · exact Std.ExtTreeMap.mem_insert.mpr (Or.inr h)
  · exact h

/-- Documents stay where they are in stores, whatever is called. -/
theorem mem_perform {path : String} (h : path ∈ stores.snapshots.documents) (call : Call) :
    path ∈ (stores.perform call).2.snapshots.documents := by
  rw [Stores.documents_perform]
  split
  · exact mem_after h call
  · exact h

/-- After it was to be created, the document of a sample is there. -/
theorem samplePath_mem_perform (stores : Stores) (sample : Sample) :
    samplePath sample ∈ (stores.perform (.create sample)).2.snapshots.documents := by
  rw [Stores.documents_perform]
  show samplePath sample ∈ stores.snapshots.documents.after (.create sample)
  rw [Documents.after]
  split
  · assumption
  · exact Std.ExtTreeMap.mem_insert_self

/-- Creating the document of a served device keeps documents in order. -/
theorem Documented.create (h : Documented settings documents)
    (hserved : IsServed settings sample.device) :
    Documented settings (documents.after (.create sample)) := by
  have hlookup (path : String) : (documents.after (.create sample))[path]? =
      documents[path]?.or (if samplePath sample = path then some (.ofSample sample) else none) := by
    rw [getElem?_after]
    simp only [reportAt?, sampleAt?]
    split <;> rfl
  refine ⟨fun path hpath => ?_, fun device second document hdocument => ?_,
    fun device kind document hdocument => ?_⟩
  · by_cases hnew : samplePath sample = path
    · exact Or.inl ⟨sample.device, sample.second, hnew.symm⟩
    · rw [Std.ExtTreeMap.mem_iff_isSome_getElem?, hlookup, if_neg hnew, Option.or_none] at hpath
      exact h.sorts path (Std.ExtTreeMap.mem_iff_isSome_getElem?.mpr hpath)
  · rw [hlookup, Option.or_eq_some_iff] at hdocument
    rcases hdocument with hold | ⟨_, hnew⟩
    · exact h.telemetry device second document hold
    · rw [Option.ite_none_right_eq_some] at hnew
      obtain ⟨rfl, rfl⟩ := telemetryPath_inj.mp hnew.1
      obtain rfl := Option.some.inj hnew.2
      exact ⟨hserved, isTelemetryDocument_ofSample sample⟩
  · have hsort : samplePath sample ≠ statePath device kind := telemetryPath_ne_statePath _ _ _ _
    rw [hlookup, if_neg hsort, Option.or_none] at hdocument
    exact h.states device kind document hdocument

/-- Merging a genuine report keeps documents in order. -/
theorem Documented.merge (h : Documented settings documents) (hreport : IsGenuine settings report) :
    Documented settings (documents.after (.merge report)) := by
  have hlookup (path : String) : (documents.after (.merge report))[path]? =
      if report.path = path then some ((documents[path]?.getD ∅).mergeReport report)
      else documents[path]? := by
    rw [getElem?_after]
    simp only [reportAt?, sampleAt?, Option.map_none, Option.or_none]
    by_cases hpath : report.path = path
    · rw [if_pos hpath, if_pos hpath]
    · rw [if_neg hpath, if_neg hpath]
  refine ⟨fun path hpath => ?_, fun device second document hdocument => ?_,
    fun device kind document hdocument => ?_⟩
  · by_cases hnew : report.path = path
    · exact Or.inr ⟨report.device, report.kind, hnew.symm⟩
    · rw [Std.ExtTreeMap.mem_iff_isSome_getElem?, hlookup, if_neg hnew] at hpath
      exact h.sorts path (Std.ExtTreeMap.mem_iff_isSome_getElem?.mpr hpath)
  · have hsort : report.path ≠ telemetryPath device second :=
      (telemetryPath_ne_statePath _ _ _ _).symm
    rw [hlookup, if_neg hsort] at hdocument
    exact h.telemetry device second document hdocument
  · rw [hlookup] at hdocument
    split at hdocument
    · next hpath =>
        obtain ⟨rfl, rfl⟩ := statePath_inj.mp hpath
        obtain rfl := Option.some.inj hdocument
        refine ⟨hreport.served, hreport.kind, isStateDocument_mergeReport hreport.data ?_⟩
        -- What was there before is a state document too.
        cases hold : documents[statePath report.device report.kind]? with
        | none => simp
        | some document => exact (h.states _ _ _ hold).2.2.nothingElse
    · exact h.states device kind document hdocument

/-- Documents may be missing for fewer samples once they are there. -/
theorem WellFormed.found (h : WellFormed settings missing stores)
    (hfound : ∀ sample ∈ missing,
      samplePath sample ∈ stores.snapshots.documents ∨ sample ∈ missing') :
    WellFormed settings missing' stores := by
  refine ⟨h.documents, fun target sample hrow => ?_⟩
  obtain ⟨htarget, hserved, hdocument | hmissing⟩ := h.rows target sample hrow
  · exact ⟨htarget, hserved, Or.inl hdocument⟩
  · exact ⟨htarget, hserved, hfound sample hmissing⟩

/-- A call that appends no row keeps stores well-formed if it keeps the documents in order. -/
theorem WellFormed.perform_of_rowOf?_eq_none (h : WellFormed settings missing stores) {call : Call}
    (hrow : rowOf? call = none)
    (hdocuments : Documented settings (stores.snapshots.documents.after call)) :
    WellFormed settings missing (stores.perform call).2 := by
  have hrows : (stores.perform call).2.analytics.rows = stores.analytics.rows := by
    rw [Stores.rows_perform, hrow]
    simp
  constructor
  · rw [Stores.documents_perform]
    split
    · exact hdocuments
    · exact h.documents
  · rw [hrows]
    intro target sample hmem
    obtain ⟨htarget, hserved, hdocument⟩ := h.rows target sample hmem
    exact ⟨htarget, hserved, hdocument.imp_left fun hdocument => mem_perform hdocument call⟩

/-- Creating the document of a served device keeps stores well-formed. -/
theorem WellFormed.create (h : WellFormed settings missing stores)
    (hserved : IsServed settings sample.device) :
    WellFormed settings missing (stores.perform (.create sample)).2 :=
  h.perform_of_rowOf?_eq_none rfl (h.documents.create hserved)

/-- Merging a genuine report keeps stores well-formed. -/
theorem WellFormed.merge (h : WellFormed settings missing stores)
    (hreport : IsGenuine settings report) :
    WellFormed settings missing (stores.perform (.merge report)).2 :=
  h.perform_of_rowOf?_eq_none rfl (h.documents.merge hreport)

/-- Appending the row of a sample keeps stores well-formed if the document of the sample is there or
may be missing. -/
theorem WellFormed.insert (h : WellFormed settings missing stores)
    (hserved : IsServed settings sample.device)
    (hdocument : samplePath sample ∈ stores.snapshots.documents ∨ sample ∈ missing) :
    WellFormed settings missing (stores.perform (.insert settings.target sample)).2 := by
  have hdocuments : (stores.perform (.insert settings.target sample)).2.snapshots.documents =
      stores.snapshots.documents := rfl
  refine ⟨hdocuments ▸ h.documents, ?_⟩
  rw [Stores.rows_perform, hdocuments]
  intro target other hrow
  rcases List.mem_append.mp hrow with hold | hnew
  · exact h.rows target other hold
  · split at hnew
    · obtain ⟨rfl, rfl⟩ := Prod.mk.inj (List.mem_singleton.mp hnew)
      exact ⟨rfl, hserved, hdocument⟩
    · cases hnew

/-- Stores without content are well-formed. -/
theorem wellFormed_empty : WellFormed settings missing .empty := by
  refine ⟨⟨fun path h => ?_, fun _ _ _ h => ?_, fun _ _ _ h => ?_⟩, fun _ _ h => ?_⟩
  · exact absurd h Std.ExtTreeMap.not_mem_empty
  all_goals cases h

end Glasshouse.Ingest
