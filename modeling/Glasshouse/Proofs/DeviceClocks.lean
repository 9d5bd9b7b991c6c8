import Glasshouse.Proofs.DifferentDevices
import Glasshouse.Proofs.WrittenBatches

/-!
# What device clocks and projects have no part in

Two envelopes of a device that are taken in at the same time and carry the same states, but for the
device's own clock, are settled alike and make the same calls, but for the bytes that reports are
delivered in; their projects may be any. So they leave the same journal and the same rows, and the
same documents up to the data of state documents. Stores that differ in such data only cannot be
told apart by the calls that a dispatcher makes (`Program.SameButData.run`). Main statement:
`device_clock_immaterial`.
-/

namespace Glasshouse.Status

open Wire Wire.Message

/-- A state with the device's clock taken out. -/
def DeviceState.withoutClock (state : DeviceState) : DeviceState :=
  { state with timestamp := 0 }

/-- The records of a batch, or why it is none. -/
def recordsOf (decoded : Except BatchFault (List Entry)) : Except BatchFault (List Record) :=
  decoded.map fun entries => entries.map Entry.record

/-- Where the records are the same, two payloads have the same fault, or entries with the same
records. -/
theorem recordsOf_cases {decoded decoded' : Except BatchFault (List Entry)}
    (h : recordsOf decoded = recordsOf decoded') :
    (∃ fault, decoded = .error fault ∧ decoded' = .error fault) ∨
      ∃ entries entries', decoded = .ok entries ∧ decoded' = .ok entries' ∧
        entries.map Entry.record = entries'.map Entry.record := by
  cases decoded with
  | error fault =>
      cases decoded' with
      | error fault' =>
          obtain rfl : fault = fault' := Except.error.inj h
          exact Or.inl ⟨fault, rfl, rfl⟩
      | ok entries' => cases h
  | ok entries =>
      cases decoded' with
      | error fault' => cases h
      | ok entries' => exact Or.inr ⟨entries, entries', rfl, rfl, Except.ok.inj h⟩

variable {states states' : List DeviceState}

/-- The records of states that are written are those of their reports, up to a state without one. -/
theorem recordsOf_writtenEntries_cons (index : Nat) (state : DeviceState)
    (states : List DeviceState) :
    recordsOf (writtenEntries index (state :: states)) =
      match state.report with
      | none => .error (.noReport index)
      | some report =>
          (recordsOf (writtenEntries (index + 1) states)).map
            (.ofReport report.positiveZeros :: ·) := by
  rw [writtenEntries]
  cases state.report with
  | none => rfl
  | some report => cases writtenEntries (index + 1) states <;> rfl

/-- States that differ in their clocks only are written into the same records. -/
theorem recordsOf_writtenEntries (index : Nat)
    (h : states.map DeviceState.withoutClock = states'.map DeviceState.withoutClock) :
    recordsOf (writtenEntries index states) = recordsOf (writtenEntries index states') := by
  induction states generalizing states' index with
  | nil =>
      obtain rfl := List.map_eq_nil_iff.mp h.symm
      rfl
  | cons state states ih =>
      cases states' with
      | nil => cases h
      | cons state' states' =>
          obtain ⟨hstate, hstates⟩ := List.cons.inj h
          have hreport := congrArg DeviceState.report hstate
          change state.report = state'.report at hreport
          rw [recordsOf_writtenEntries_cons, recordsOf_writtenEntries_cons, hreport,
            ih (index + 1) hstates]

/-- Payloads that carry states which differ in their clocks only have the same records. -/
theorem recordsOf_decodeBatch_encode
    (h : states.map DeviceState.withoutClock = states'.map DeviceState.withoutClock)
    (hshort : ∀ state ∈ states, (encode state).length < Nat.pow 2 63)
    (hshort' : ∀ state ∈ states', (encode state).length < Nat.pow 2 63) :
    recordsOf (decodeBatch (encode (⟨states⟩ : StateBatch))) =
      recordsOf (decodeBatch (encode (⟨states'⟩ : StateBatch))) := by
  have hempty : states = [] ↔ states' = [] := by
    rw [← List.map_eq_nil_iff, h, List.map_eq_nil_iff]
  rw [decodeBatch_encode hshort, decodeBatch_encode hshort']
  simp only [hempty]
  split
  · rfl
  · exact recordsOf_writtenEntries 0 h

end Glasshouse.Status

namespace Glasshouse.Store

open Status

/-- A call with the bytes taken out that a report was delivered in. -/
def Call.withoutData : Call → Call
  | .merge report => .merge { report with data := [] }
  | call => call

/-- Two documents differ in the bytes of their data only. -/
structure Document.SameButData (document other : Document) : Prop where
  fields : ∀ name, name ≠ dataField → document[name]? = other[name]?
  data : ∃ content content', document[dataField]? = some (.bytes content) ∧
    other[dataField]? = some (.bytes content')

/-- Two collections of documents differ in the data of state documents of a device only. -/
def Documents.SameButData (device : String) (documents other : Documents) : Prop :=
  ∀ path, documents[path]? = other[path]? ∨
    ∃ kind document document', path = statePath device kind ∧ documents[path]? = some document ∧
      other[path]? = some document' ∧ document.SameButData document'

/-- Two stores differ in the data of state documents of a device only. -/
structure Stores.SameButData (device : String) (stores other : Stores) : Prop where
  documents : stores.snapshots.documents.SameButData device other.snapshots.documents
  journal : stores.snapshots.journal = other.snapshots.journal
  mergesOffline : stores.snapshots.mergesOffline = other.snapshots.mergesOffline
  analytics : stores.analytics = other.analytics

variable {device : String} {documents others : Documents} {stores other : Stores}
  {call call' : Call}

/-- What a call is when its data is taken out: the same call, or a merge of another report that
differs in its data only. -/
theorem withoutData_cases (h : call.withoutData = call'.withoutData) :
    (call = call' ∧ ∀ report, call ≠ .merge report) ∨
      ∃ report data, call = .merge report ∧ call' = .merge { report with data := data } := by
  cases call with
  | create sample =>
      cases call' with
      | create _ => exact Or.inl ⟨h, nofun⟩
      | merge _ | insert _ _ => cases h
  | insert target sample =>
      cases call' with
      | insert _ _ => exact Or.inl ⟨h, nofun⟩
      | create _ | merge _ => cases h
  | merge report =>
      cases call' with
      | create _ | insert _ _ => cases h
      | merge report' =>
          refine Or.inr ⟨report, report'.data, rfl, ?_⟩
          cases report
          cases report'
          cases h
          rfl

/-! ## Documents -/

/-- Telemetry documents do not differ. -/
theorem Documents.SameButData.telemetry (h : documents.SameButData device others) (owner : String)
    (second : Int) :
    documents[telemetryPath owner second]? = others[telemetryPath owner second]? := by
  rcases h (telemetryPath owner second) with hsame | ⟨kind, _, _, hpath, _⟩
  · exact hsame
  · exact absurd hpath (telemetryPath_ne_statePath _ _ _ _)

/-- Documents agree on all fields but the data, also where there are none. -/
theorem Documents.SameButData.fields (h : documents.SameButData device others) (path : String)
    {name : String} (hname : name ≠ dataField) :
    (documents[path]?.getD ∅)[name]? = (others[path]?.getD ∅)[name]? := by
  rcases h path with hsame | ⟨kind, document, document', _, hfirst, hsecond, hdocument⟩
  · rw [hsame]
  · rw [hfirst, hsecond]
    exact hdocument.fields name hname

/-- Reports that differ in their data only make the same of documents that agree on the other
fields, but for the data. -/
theorem mergeReport_sameButData {document document' : Document} (report : StateReport)
    (data : Wire.Bytes) (h : ∀ name, name ≠ dataField → document[name]? = document'[name]?) :
    (document.mergeReport report).SameButData
      (document'.mergeReport { report with data := data }) where
  fields name hname := by
    rw [getElem?_mergeReport, getElem?_mergeReport, if_neg hname, if_neg hname, h name hname]
  data := ⟨report.data, data, by simp [getElem?_mergeReport], by simp [getElem?_mergeReport]⟩

/-- Calls that differ in their data only keep documents so. -/
theorem Documents.SameButData.after (h : documents.SameButData device others)
    (hcall : call.withoutData = call'.withoutData) (hdevice : call.device = device) :
    (documents.after call).SameButData device (others.after call') := by
  intro path
  rcases withoutData_cases hcall with ⟨rfl, hmerge⟩ | ⟨report, data, rfl, rfl⟩
  · cases call with
    | insert target sample => exact h path
    | merge report => exact absurd rfl (hmerge report)
    | create sample =>
        have hreport : reportAt? path (.create sample) = none := rfl
        rw [getElem?_after, getElem?_after, hreport]
        -- What a creation does depends on whether its document is there, and these do not differ.
        by_cases hpath : samplePath sample = path
        · obtain rfl := hpath
          exact Or.inl (by rw [samplePath, h.telemetry])
        · have hsample : sampleAt? path (.create sample) = none := if_neg hpath
          simpa [hsample] using h path
  · by_cases hpath : report.path = path
    · have hfields := fun name (hname : name ≠ dataField) => h.fields report.path hname
      refine Or.inr ⟨report.kind, _, _, ?_, ?_, ?_, mergeReport_sameButData report data hfields⟩
      · rw [← hpath, ← hdevice]
        rfl
      · simp [getElem?_after, reportAt?, ← hpath]
      · have hsame : ({ report with data := data } : StateReport).path = report.path := rfl
        simp [getElem?_after, reportAt?, ← hpath, hsame]
    · have hother : ({ report with data := data } : StateReport).path ≠ path := hpath
      simpa [getElem?_after, reportAt?, sampleAt?, hpath, hother] using h path

/-! ## Stores -/

/-- Stores do not differ from themselves. -/
theorem Stores.SameButData.refl (device : String) (stores : Stores) :
    stores.SameButData device stores :=
  ⟨fun _ => Or.inl rfl, rfl, rfl, rfl⟩

/-- Calls that differ in their data only are answered alike. -/
theorem Stores.SameButData.answer_eq (h : stores.SameButData device other)
    (hcall : call.withoutData = call'.withoutData) :
    (stores.perform call).1 = (other.perform call').1 := by
  rcases withoutData_cases hcall with ⟨rfl, hmerge⟩ | ⟨report, data, rfl, rfl⟩
  · cases call with
    | merge report => exact absurd rfl (hmerge report)
    | insert target sample =>
        rw [perform, perform, h.analytics]
    | create sample =>
        have hmem : samplePath sample ∈ stores.snapshots.documents ↔
            samplePath sample ∈ other.snapshots.documents := by
          rw [Std.ExtTreeMap.mem_iff_isSome_getElem?, Std.ExtTreeMap.mem_iff_isSome_getElem?,
            samplePath, h.documents.telemetry]
        simp only [perform, SnapshotMemory.create, hmem]
        split <;> rfl
  · simp only [perform, SnapshotMemory.merge, h.mergesOffline]
    split <;> rfl

/-- Calls that differ in their data only keep stores so. -/
theorem Stores.SameButData.perform (h : stores.SameButData device other)
    (hcall : call.withoutData = call'.withoutData) (hdevice : call.device = device) :
    (stores.perform call).2.SameButData device (other.perform call').2 where
  documents := by
    have htakes : takesEffect stores.snapshots.mergesOffline call =
        takesEffect other.snapshots.mergesOffline call' := by
      rw [h.mergesOffline]
      rcases withoutData_cases hcall with ⟨rfl, _⟩ | ⟨report, data, rfl, rfl⟩ <;> rfl
    rw [documents_perform, documents_perform, htakes]
    split
    · exact h.documents.after hcall hdevice
    · exact h.documents
  journal := by
    have hwritten (answer : Answer) : writtenPath? call answer = writtenPath? call' answer := by
      rcases withoutData_cases hcall with ⟨rfl, _⟩ | ⟨report, data, rfl, rfl⟩
      · rfl
      · cases answer <;> rfl
    rw [journal_perform_eq, journal_perform_eq, h.journal, h.answer_eq hcall, hwritten]
  mergesOffline := by
    rw [mergesOffline_perform, mergesOffline_perform, h.mergesOffline]
  analytics := by
    rcases withoutData_cases hcall with ⟨rfl, _⟩ | ⟨report, data, rfl, rfl⟩
    · cases call with
      | create _ | merge _ => exact h.analytics
      | insert target sample => simp only [Stores.perform, h.analytics]
    · exact h.analytics

end Glasshouse.Store

namespace Glasshouse.Ingest

open Store Status

/-- An exchange with the bytes taken out that a report was delivered in. -/
def Exchange.withoutData (exchange : Exchange) : Exchange :=
  (exchange.1.withoutData, exchange.2)

namespace Program

variable {α β : Type} {device : String} {program program' : Program α}

/-- Two programs make the same calls on behalf of a device, but for data, and go on alike. -/
inductive SameButData (device : String) : Program α → Program α → Prop where
  | done {value : α} : SameButData device (.done value) (.done value)
  | call {request request' : Call} {next next' : Answer → Program α}
      (hdevice : request.device = device) (hrequest : request.withoutData = request'.withoutData)
      (hnext : ∀ answer, SameButData device (next answer) (next' answer)) :
      SameButData device (.call request next) (.call request' next')
  | join {first first' second second' : Call} {next next' : Answer → Answer → Program α}
      (hdevice : first.device = device) (hfirst : first.withoutData = first'.withoutData)
      (hother : second.device = device) (hsecond : second.withoutData = second'.withoutData)
      (hnext : ∀ answer other, SameButData device (next answer other) (next' answer other)) :
      SameButData device (.join first second next) (.join first' second' next')

/-- Programs that differ in data only do so when they go on as programs that do. -/
theorem SameButData.bind {f f' : α → Program β} (h : program.SameButData device program')
    (hnext : ∀ value, (f value).SameButData device (f' value)) :
    (program.bind f).SameButData device (program'.bind f') := by
  induction h with
  | done => exact hnext _
  | call hdevice hrequest _ ih => exact .call hdevice hrequest ih
  | join hdevice hfirst hother hsecond _ ih => exact .join hdevice hfirst hother hsecond ih

/-- On stores that differ in data only the programs come to the same value, make the same calls with
the same answers but for data, and leave stores that differ in data only. -/
def RunAlike (device : String) (program program' : Program α) : Prop :=
  ∀ stores other : Stores, stores.SameButData device other →
    let run := program.run Stores.behaviour stores
    let run' := program'.run Stores.behaviour other
    run.value = run'.value ∧
      run.calls.map Exchange.withoutData = run'.calls.map Exchange.withoutData ∧
      run.state.SameButData device run'.state

/-- Calls that differ in data only are answered alike, so what follows them is alike. -/
theorem runAlike_call {request request' : Call} {next next' : Answer → Program α}
    (hdevice : request.device = device) (hrequest : request.withoutData = request'.withoutData)
    (hnext : ∀ answer, RunAlike device (next answer) (next' answer)) :
    RunAlike device (.call request next) (.call request' next') := by
  intro stores other h
  obtain ⟨hvalue, hcalls, hstate⟩ :=
    hnext (stores.perform request).1 _ _ (h.perform hrequest hdevice)
  have hfirst : Exchange.withoutData (request, (stores.perform request).1) =
      Exchange.withoutData (request', (stores.perform request).1) :=
    congrArg (·, (stores.perform request).1) hrequest
  rw [run_call, run_call, ← h.answer_eq hrequest]
  exact ⟨hvalue, congrArg₂ List.cons hfirst hcalls, hstate⟩

/-- Programs that differ in data only run alike. -/
theorem SameButData.runAlike (h : program.SameButData device program') :
    RunAlike device program program' := by
  induction h with
  | done => exact fun _ _ h => ⟨rfl, rfl, h⟩
  | call hdevice hrequest _ ih => exact runAlike_call hdevice hrequest ih
  | join hdevice hfirst hother hsecond _ ih =>
      intro stores other h
      rw [run_join, run_join]
      exact runAlike_call hdevice hfirst (fun answer => runAlike_call hother hsecond (ih answer))
        _ _ h

end Program

/-! ## Envelopes -/

variable {envelope envelope' : Envelope} {entry entry' : Entry} {entries entries' : List Entry}

/-- Entries with the same record are written alike on behalf of envelopes that agree on the device
and the time. -/
theorem sameButData_writeEntry (target : Target) (hdevice : envelope.device = envelope'.device)
    (htime : envelope.ingestedAt = envelope'.ingestedAt) (h : entry.record = entry'.record) :
    (writeEntry target envelope entry).silent.SameButData envelope.device
      (writeEntry target envelope' entry').silent := by
  have hsample : sampleOf? envelope entry = sampleOf? envelope' entry' := by
    rw [sampleOf?, sampleOf?, h, hdevice, htime]
  rw [silent_writeEntry, silent_writeEntry, hsample]
  cases hown : sampleOf? envelope' entry' with
  | none =>
      refine .call rfl ?_ fun _ => .done
      show Call.merge _ = Call.merge _
      rw [reportOf, reportOf, h, hdevice, htime]
  | some sample =>
      have hsampleDevice : sample.device = envelope.device := by
        obtain ⟨reading, _, rfl⟩ := (sampleOf?_eq_some_iff envelope').mp hown
        exact hdevice.symm
      exact .join hsampleDevice rfl hsampleDevice rfl fun _ _ => .done

/-- Passes over entries with the same records are alike. -/
theorem sameButData_passEntries (target : Target) (hdevice : envelope.device = envelope'.device)
    (htime : envelope.ingestedAt = envelope'.ingestedAt)
    (h : entries.map Entry.record = entries'.map Entry.record) :
    (passEntries target envelope entries).silent.SameButData envelope.device
      (passEntries target envelope' entries').silent := by
  induction entries generalizing entries' with
  | nil =>
      obtain rfl := List.map_eq_nil_iff.mp h.symm
      exact .done
  | cons entry entries ih =>
      cases entries' with
      | nil => cases h
      | cons entry' entries' =>
          obtain ⟨hentry, hentries⟩ := List.cons.inj h
          simp only [passEntries, Program.bind_eq, Program.silent_bind]
          -- The answer is the same for both, so both passes go on or both stop.
          refine (sameButData_writeEntry target hdevice htime hentry).bind fun answer => ?_
          cases answer with
          | ok _ => exact ih hentries
          | error failure =>
              cases failure with
              | snapshotConflict path => exact ih hentries
              | _ => exact .done

/-- Envelopes that agree on device, time and records are ingested alike. -/
theorem sameButData_ingest (settings : Settings) (hdevice : envelope.device = envelope'.device)
    (htime : envelope.ingestedAt = envelope'.ingestedAt)
    (h : recordsOf (decodeBatch envelope.payload) = recordsOf (decodeBatch envelope'.payload)) :
    (ingest settings envelope).silent.SameButData envelope.device
      (ingest settings envelope').silent := by
  have hignored : envelope.isIgnored settings.ignoreSuffix =
      envelope'.isIgnored settings.ignoreSuffix := by
    rw [Envelope.isIgnored, Envelope.isIgnored, hdevice]
  have hvalid : envelope.validate = envelope'.validate := by
    rw [Envelope.validate, Envelope.validate, hdevice]
  rw [silent_ingest, silent_ingest, passProgram, passProgram, hignored, hvalid]
  split
  · exact .done
  · cases envelope'.validate with
    | error failure => exact .done
    | ok _ =>
        rcases recordsOf_cases h with
          ⟨fault, hfirst, hsecond⟩ | ⟨entries, entries', hfirst, hsecond, hrecords⟩
        · rw [hfirst, hsecond]
          exact .done
        · rw [hfirst, hsecond]
          exact sameButData_passEntries settings.target hdevice htime hrecords

/-- Two envelopes of one device and time carry states that differ in the device's clock only, and
may name any projects. From the same stores, whatever these hold and however their switches are set,
they are settled alike and make the same calls with the same answers, but for the bytes of merged
reports; they leave the same journal and the same rows, and the same documents, but for the data of
state documents of the device. -/
theorem device_clock_immaterial (settings : Settings) (stores : Stores)
    (states states' : List DeviceState) (envelope envelope' : Envelope)
    (hstates : states.map DeviceState.withoutClock = states'.map DeviceState.withoutClock)
    (hpayload : envelope.payload = Wire.Message.encode (⟨states⟩ : StateBatch))
    (hpayload' : envelope'.payload = Wire.Message.encode (⟨states'⟩ : StateBatch))
    (hshort : ∀ state ∈ states, (Wire.Message.encode state).length < Nat.pow 2 63)
    (hshort' : ∀ state ∈ states', (Wire.Message.encode state).length < Nat.pow 2 63)
    (hdevice : envelope.device = envelope'.device)
    (htime : envelope.ingestedAt = envelope'.ingestedAt) :
    let run := (ingest settings envelope).run Stores.behaviour stores
    let run' := (ingest settings envelope').run Stores.behaviour stores
    run.value = run'.value ∧
      run.calls.map Exchange.withoutData = run'.calls.map Exchange.withoutData ∧
      run.state.snapshots.journal = run'.state.snapshots.journal ∧
      run.state.analytics.rows = run'.state.analytics.rows ∧
      run.state.snapshots.documents.SameButData envelope.device
        run'.state.snapshots.documents := by
  intro run run'
  have hrecords : recordsOf (decodeBatch envelope.payload) =
      recordsOf (decodeBatch envelope'.payload) := by
    rw [hpayload, hpayload']
    exact recordsOf_decodeBatch_encode hstates hshort hshort'
  obtain ⟨hsettled, hmade, hleft⟩ :=
    (sameButData_ingest settings hdevice htime hrecords).runAlike stores stores
      (.refl envelope.device stores)
  obtain ⟨hvalue, hstate, hcalls⟩ :=
    Program.run_silent Stores.behaviour (ingest settings envelope) stores
  obtain ⟨hvalue', hstate', hcalls'⟩ :=
    Program.run_silent Stores.behaviour (ingest settings envelope') stores
  rw [hvalue, hvalue'] at hsettled
  rw [hcalls, hcalls'] at hmade
  rw [hstate, hstate'] at hleft
  exact ⟨hsettled, hmade, hleft.journal, congrArg _ hleft.analytics, hleft.documents⟩

/-- A reading and figures of the memory, with the device's clock unset and project "greenhouse", and
with the clock set and project "cellar": both deliveries are settled alike and leave the same rows
and the same telemetry document, and the data of the figures differ. -/
theorem clock_shows_in_data_only :
    let states (clock : UInt64) : List DeviceState :=
      [⟨clock, some (.telemetry (.replicate 0))⟩, ⟨clock, some (.memory ⟨0, 7⟩)⟩]
    let delivery (project : String) (clock : UInt64) : Envelope :=
      ⟨"grow-1", project, .ofParts 1700000000 0,
        Wire.Message.encode (⟨states clock⟩ : StateBatch)⟩
    let run := (ingest testSettings (delivery "greenhouse" 0)).run Stores.behaviour .empty
    let run' := (ingest testSettings (delivery "cellar" 1700000001)).run Stores.behaviour .empty
    let figures := statePath "grow-1" .memory
    run.value = run'.value ∧ run.state.analytics.rows = run'.state.analytics.rows ∧
      run.state.snapshots.documents[telemetryPath "grow-1" 1700000000]? =
        run'.state.snapshots.documents[telemetryPath "grow-1" 1700000000]? ∧
      run.state.snapshots.documents[figures]?.bind (·[dataField]?) ≠
        run'.state.snapshots.documents[figures]?.bind (·[dataField]?) := by
  intro states delivery run run' figures
  obtain ⟨hvalue, _, _, hrows, hdocuments⟩ := device_clock_immaterial testSettings .empty
    (states 0) (states 1700000001) (delivery "greenhouse" 0) (delivery "cellar" 1700000001) rfl rfl
    rfl (by decide +kernel) (by decide +kernel) rfl rfl
  exact ⟨hvalue, hrows, hdocuments.telemetry "grow-1" 1700000000, by decide +kernel⟩

end Glasshouse.Ingest
