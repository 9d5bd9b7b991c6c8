import Glasshouse.Proofs.Memory
import Glasshouse.Snapshot.Server

/-!
# The two snapshot stores

A snapshot store keeps documents by path in memory, or rows by key in a database. Since a path tells
its key and a key its path, the rows and the documents stand for each other: `Agree` says how, and
`Agree.ask` that one request is answered alike and keeps it so. `Agree.askAll` goes through all
requests. Main statement: `database_agrees_with_memory`.
-/

namespace Glasshouse.Snapshot

open Status Store Time

/-! ## The tables after a statement -/

variable {tables : Tables} (now : Instant) (sample : Sample) (report : StateReport)

namespace Tables

/-- The row that a sample has when it is added. -/
def rowOfSample (sample : Sample) : TelemetryRow :=
  ⟨sample.device, sample.second, samplePath sample, sample.time, sample.values⟩

/-- The row that a report has when it is added. -/
def rowOfReport (now : Instant) (report : StateReport) : StateRow :=
  ⟨report.device, report.kind.name, report.path, report.time, report.data, none, now, now⟩

/-- The row after a report of its key. -/
def refreshed (now : Instant) (report : StateReport) (row : StateRow) : StateRow :=
  { row with ingestedAt := report.time, data := report.data, updatedAt := now }

/-- The row after any report. -/
def updated (now : Instant) (report : StateReport) (row : StateRow) : StateRow :=
  if row.device = report.device ∧ row.kind = report.kind.name then refreshed now report row else row

/-- An update keeps the device of a row. -/
@[simp] theorem updated_device (row : StateRow) : (updated now report row).device = row.device := by
  unfold updated
  split <;> rfl

/-- An update keeps the kind of a row. -/
@[simp] theorem updated_kind (row : StateRow) : (updated now report row).kind = row.kind := by
  unfold updated
  split <;> rfl

/-- A sample whose key has a row is refused as a conflict and changes nothing. -/
theorem create_of_some {row : TelemetryRow}
    (h : tables.telemetryRow? sample.device sample.second = some row) :
    tables.create now sample = (.error (.snapshotConflict (samplePath sample)), tables) := by
  simp [create, execute, h, answer, DatabaseFault.toFailure]

/-- A sample whose key has no row adds one. -/
theorem create_of_none (h : tables.telemetryRow? sample.device sample.second = none) :
    tables.create now sample =
      (.ok (), { tables with telemetry := tables.telemetry ++ [rowOfSample sample] }) := by
  simp [create, execute, h, answer, rowOfSample]

/-- A report whose key has a row updates it. -/
theorem merge_of_some {row : StateRow}
    (h : tables.stateRow? report.device report.kind.name = some row) :
    tables.merge now report =
      (.ok (), { tables with states := tables.states.map (updated now report) }) := by
  simp only [merge, execute, h, answer]
  rfl

/-- A report whose key has no row adds one. -/
theorem merge_of_none (h : tables.stateRow? report.device report.kind.name = none) :
    tables.merge now report =
      (.ok (), { tables with states := tables.states ++ [rowOfReport now report] }) := by
  simp [merge, execute, h, answer, rowOfReport]

/-- The telemetry rows after a sample: its key has the row that was there, or else its own. -/
theorem telemetryRow?_create (device : String) (second : Int) :
    (tables.create now sample).2.telemetryRow? device second =
      if sample.device = device ∧ sample.second = second
      then some ((tables.telemetryRow? sample.device sample.second).getD (rowOfSample sample))
      else tables.telemetryRow? device second := by
  cases hrow : tables.telemetryRow? sample.device sample.second with
  | some row =>
      rw [create_of_some now sample hrow]
      split
      · next hkey =>
          obtain ⟨rfl, rfl⟩ := hkey
          exact hrow
      · rfl
  | none =>
      rw [create_of_none now sample hrow]
      simp only [telemetryRow?] at hrow ⊢
      rw [List.find?_append, List.find?_singleton]
      by_cases hkey : sample.device = device ∧ sample.second = second
      · obtain ⟨rfl, rfl⟩ := hkey
        rw [hrow]
        simp [rowOfSample]
      · simp [rowOfSample, hkey]

/-- A sample leaves the state rows alone. -/
theorem stateRow?_create (device kind : String) :
    (tables.create now sample).2.stateRow? device kind = tables.stateRow? device kind := by
  cases hrow : tables.telemetryRow? sample.device sample.second with
  | some row => rw [create_of_some now sample hrow]
  | none =>
      rw [create_of_none now sample hrow]
      rfl

/-- A report leaves the telemetry rows alone. -/
theorem telemetryRow?_merge (device : String) (second : Int) :
    (tables.merge now report).2.telemetryRow? device second =
      tables.telemetryRow? device second := by
  cases hrow : tables.stateRow? report.device report.kind.name with
  | some row =>
      rw [merge_of_some now report hrow]
      rfl
  | none =>
      rw [merge_of_none now report hrow]
      rfl

/-- An update keeps the key of its row, so the row of a key is found where it was. -/
theorem stateRow?_map_updated (device kind : String) :
    { tables with states := tables.states.map (updated now report) }.stateRow? device kind =
      (tables.stateRow? device kind).map (updated now report) := by
  simp only [stateRow?, List.find?_map, Function.comp_def, updated_device, updated_kind]

/-- The row of a key has that key. -/
theorem key_of_stateRow? {device kind : String} {row : StateRow}
    (h : tables.stateRow? device kind = some row) : row.device = device ∧ row.kind = kind := by
  simpa using List.find?_some h

/-- The state rows after a report: that of its key is refreshed, or added if there was none, and the
others are as they were. -/
theorem stateRow?_merge (device kind : String) :
    (tables.merge now report).2.stateRow? device kind =
      if report.device = device ∧ report.kind.name = kind
      then some (((tables.stateRow? report.device report.kind.name).map (refreshed now report)).getD
        (rowOfReport now report))
      else tables.stateRow? device kind := by
  cases hrow : tables.stateRow? report.device report.kind.name with
  | none =>
      rw [merge_of_none now report hrow]
      simp only [stateRow?] at hrow ⊢
      rw [List.find?_append, List.find?_singleton]
      by_cases hkey : report.device = device ∧ report.kind.name = kind
      · obtain ⟨rfl, rfl⟩ := hkey
        rw [hrow]
        simp [rowOfReport]
      · simp [rowOfReport, hkey]
  | some row =>
      rw [merge_of_some now report hrow]
      dsimp only
      rw [stateRow?_map_updated]
      by_cases hkey : report.device = device ∧ report.kind.name = kind
      · obtain ⟨rfl, rfl⟩ := hkey
        simp [hrow, updated, key_of_stateRow? hrow]
      · rw [if_neg hkey]
        cases hother : tables.stateRow? device kind with
        | none => rfl
        | some other =>
            obtain ⟨rfl, rfl⟩ := key_of_stateRow? hother
            rw [Option.map_some, updated, if_neg fun h => hkey ⟨h.1.symm, h.2.symm⟩]

end Tables

/-! ## Rows and documents -/

/-- Rows and documents stand for each other: there is a row of a key exactly if there is a document
at the path of the key, the row names this path, and both hold the same. -/
structure Agree (tables : Tables) (store : SnapshotMemory) : Prop where
  online : store.mergesOffline = false
  telemetry : ∀ device second, store.documents[telemetryPath device second]? =
    (tables.telemetryRow? device second).map TelemetryRow.document
  states : ∀ device kind, store.documents[statePath device kind]? =
    (tables.stateRow? device kind.name).map StateRow.document
  telemetryRow : ∀ device second row, tables.telemetryRow? device second = some row →
    row = Tables.rowOfSample ⟨device, row.ingestedAt, row.values⟩ ∧ row.second = second
  stateRow : ∀ device kind row, tables.stateRow? device kind.name = some row →
    row.device = device ∧ row.kind = kind.name ∧ row.path = statePath device kind

variable {store : SnapshotMemory}

/-- Both stores are empty at first. -/
theorem agree_empty : Agree .empty .empty where
  online := rfl
  telemetry device second := by simp [Tables.empty, Tables.telemetryRow?, SnapshotMemory.empty]
  states device kind := by simp [Tables.empty, Tables.stateRow?, SnapshotMemory.empty]
  telemetryRow := nofun
  stateRow := nofun

/-- What the store in memory makes of a request is what the stores make of its call. -/
theorem perform_call (store : SnapshotMemory) (request : Request) :
    Stores.perform ⟨store, .empty⟩ request.call =
      ((request.ofMemory store).1, ⟨(request.ofMemory store).2, .empty⟩) := by
  cases request <;> rfl

/-- While merges are online a request takes effect on the documents in memory. -/
theorem documents_ofMemory (honline : store.mergesOffline = false) (request : Request) :
    (request.ofMemory store).2.documents = store.documents.after request.call := by
  have hdocuments := Stores.documents_perform ⟨store, .empty⟩ request.call
  rw [perform_call, honline] at hdocuments
  cases request <;> exact hdocuments

/-- No request takes merges offline. -/
theorem mergesOffline_ofMemory (request : Request) :
    (request.ofMemory store).2.mergesOffline = store.mergesOffline := by
  have hoffline := Stores.mergesOffline_perform ⟨store, .empty⟩ request.call
  rwa [perform_call] at hoffline

/-- A sample is answered alike and leaves the stores in agreement. -/
theorem Agree.create (h : Agree tables store) :
    (tables.create now sample).1 = (store.create sample).1 ∧
      Agree (tables.create now sample).2 (store.create sample).2 := by
  have hdocuments : (store.create sample).2.documents = store.documents.after (.create sample) :=
    documents_ofMemory h.online (.create sample)
  have hpath (device : String) (second : Int) :
      samplePath sample = telemetryPath device second ↔
        sample.device = device ∧ sample.second = second := telemetryPath_inj
  refine ⟨?_, ?_, fun device second => ?_, fun device kind => ?_, fun device second row hrow => ?_,
    fun device kind row hrow => ?_⟩
  · -- The database finds a row exactly if there is a document in memory.
    have hheld : samplePath sample ∈ store.documents ↔
        (tables.telemetryRow? sample.device sample.second).isSome := by
      rw [Std.ExtTreeMap.mem_iff_isSome_getElem?, samplePath, h.telemetry, Option.isSome_map]
    cases hrow : tables.telemetryRow? sample.device sample.second with
    | some row => simp [Tables.create_of_some now sample hrow, SnapshotMemory.create, hheld, hrow]
    | none => simp [Tables.create_of_none now sample hrow, SnapshotMemory.create, hheld, hrow]
  · exact (mergesOffline_ofMemory (.create sample)).trans h.online
  · rw [hdocuments, getElem?_after, reportAt?_telemetryPath, Tables.telemetryRow?_create, sampleAt?,
      h.telemetry]
    simp only [hpath]
    split
    · next hkey =>
        obtain ⟨rfl, rfl⟩ := hkey
        cases tables.telemetryRow? sample.device sample.second <;> rfl
    · exact Option.or_none
  · have hother : sampleAt? (statePath device kind) (.create sample) = none :=
      if_neg (telemetryPath_ne_statePath _ _ _ _)
    rw [hdocuments, getElem?_after, hother, Tables.stateRow?_create, h.states]
    exact Option.or_none
  · rw [Tables.telemetryRow?_create] at hrow
    split at hrow
    · next hkey =>
        obtain ⟨rfl, rfl⟩ := hkey
        cases hheld : tables.telemetryRow? sample.device sample.second with
        | some held =>
            rw [hheld] at hrow
            obtain rfl := Option.some.inj hrow
            exact h.telemetryRow _ _ _ hheld
        | none =>
            rw [hheld] at hrow
            obtain rfl := Option.some.inj hrow
            exact ⟨rfl, rfl⟩
    · exact h.telemetryRow device second row hrow
  · rw [Tables.stateRow?_create] at hrow
    exact h.stateRow device kind row hrow

/-- Merging a report into the document of a row is refreshing the row. -/
theorem mergeReport_refreshed (row : StateRow) :
    row.document.mergeReport report = (Tables.refreshed now report row).document :=
  mergeReport_mergeReport ∅ ⟨row.device, report.kind, row.ingestedAt, row.data⟩ report

/-- A report is taken by both stores and leaves them in agreement. -/
theorem Agree.merge (h : Agree tables store) :
    (tables.merge now report).1 = (store.merge report).1 ∧
      Agree (tables.merge now report).2 (store.merge report).2 := by
  have hdocuments : (store.merge report).2.documents = store.documents.after (.merge report) :=
    documents_ofMemory h.online (.merge report)
  have hkey (device : String) (kind : Kind) :
      report.device = device ∧ report.kind.name = kind.name ↔
        report.path = statePath device kind := by
    rw [StateReport.path, statePath_inj]
    exact and_congr_right' ⟨fun hname => Kind.name_injective hname, congrArg Kind.name⟩
  refine ⟨?_, ?_, fun device second => ?_, fun device kind => ?_, fun device second row hrow => ?_,
    fun device kind row hrow => ?_⟩
  · have hmemory : (store.merge report).1 = .ok () := by simp [SnapshotMemory.merge, h.online]
    rw [hmemory]
    cases hrow : tables.stateRow? report.device report.kind.name with
    | some row => rw [Tables.merge_of_some now report hrow]
    | none => rw [Tables.merge_of_none now report hrow]
  · exact (mergesOffline_ofMemory (.merge report)).trans h.online
  · rw [hdocuments, getElem?_after, reportAt?_telemetryPath, Tables.telemetryRow?_merge,
      h.telemetry]
    exact Option.or_none
  · rw [hdocuments, getElem?_after, Tables.stateRow?_merge]
    by_cases hpath : report.path = statePath device kind
    · obtain ⟨rfl, rfl⟩ := statePath_inj.mp hpath
      rw [reportAt?, if_pos hpath, if_pos ⟨rfl, rfl⟩, h.states]
      cases tables.stateRow? report.device report.kind.name with
      | none => rfl
      | some row => exact congrArg some (mergeReport_refreshed now report row)
    · rw [reportAt?, if_neg hpath, if_neg (mt (hkey device kind).mp hpath), h.states]
      exact Option.or_none
  · rw [Tables.telemetryRow?_merge] at hrow
    exact h.telemetryRow device second row hrow
  · rw [Tables.stateRow?_merge] at hrow
    split at hrow
    · next hnamed =>
        obtain ⟨rfl, rfl⟩ := statePath_inj.mp ((hkey device kind).mp hnamed)
        cases hheld : tables.stateRow? report.device report.kind.name with
        | some held =>
            rw [hheld] at hrow
            obtain rfl := Option.some.inj hrow
            exact h.stateRow _ _ held hheld
        | none =>
            rw [hheld] at hrow
            obtain rfl := Option.some.inj hrow
            exact ⟨rfl, rfl, rfl⟩
    · exact h.stateRow device kind row hrow

/-! ## Keys -/

/-- No two rows of a table have the same key. -/
structure Tables.Keyed (tables : Tables) : Prop where
  telemetry : (tables.telemetry.map fun row => (row.device, row.second)).Nodup
  states : (tables.states.map fun row => (row.device, row.kind)).Nodup

/-- A row with a key of its own can be added. -/
theorem nodup_map_append {α β : Type} {key : α → β} {rows : List α} {row : α}
    (h : (rows.map key).Nodup) (hnew : ∀ held ∈ rows, key held ≠ key row) :
    ((rows ++ [row]).map key).Nodup := by
  rw [List.map_append, List.nodup_append]
  refine ⟨h, by simp, ?_⟩
  simp only [List.mem_map, List.map_cons, List.map_nil, List.mem_singleton]
  rintro _ ⟨held, hmem, rfl⟩ _ rfl
  exact hnew held hmem

/-- A sample keeps the keys apart, since it adds a row only for a key that has none. -/
theorem Tables.Keyed.create (h : tables.Keyed) : (tables.create now sample).2.Keyed := by
  cases hrow : tables.telemetryRow? sample.device sample.second with
  | some row => rwa [create_of_some now sample hrow]
  | none =>
      rw [create_of_none now sample hrow]
      rw [telemetryRow?, List.find?_eq_none] at hrow
      exact ⟨nodup_map_append h.telemetry fun held hmem hkey =>
        hrow held hmem (decide_eq_true (Prod.mk.inj hkey)), h.states⟩

/-- So does a report, since an update leaves the key of its row alone. -/
theorem Tables.Keyed.merge (h : tables.Keyed) : (tables.merge now report).2.Keyed := by
  cases hrow : tables.stateRow? report.device report.kind.name with
  | some row =>
      rw [merge_of_some now report hrow]
      exact ⟨h.telemetry, by simpa [Function.comp_def] using h.states⟩
  | none =>
      rw [merge_of_none now report hrow]
      rw [stateRow?, List.find?_eq_none] at hrow
      exact ⟨h.telemetry, nodup_map_append h.states fun held hmem hkey =>
        hrow held hmem (decide_eq_true (Prod.mk.inj hkey))⟩

/-! ## Requests over a link -/

/-- What a response means for the one who sent the statement. -/
def Response.result : Response → Except DatabaseFault Unit
  | .done => .ok ()
  | .refused code message => .error (.serverError code message)
  | .lost => .error .connectionLost

/-- To a server that takes connections there is one, and opening it sends nothing. -/
theorem connect_answering {link : Link} (hreach : link.reach = .answering) :
    ∃ connected : Link, link.connect = .ok connected ∧ connected.reach = .answering ∧
      connected.responses = link.responses ∧ connected.sent = link.sent := by
  unfold Link.connect
  split
  · exact ⟨link, rfl, hreach, rfl, rfl⟩
  · simp [hreach, Network.Reach.systemError?]

/-- So a statement arrives there, and the response to it comes back. -/
theorem execute_answering {link : Link} (hreach : link.reach = .answering) (statement : Statement)
    (response : Response) :
    let sent := (link.awaiting response).execute statement
    sent.1 = response.result ∧ sent.2.reach = .answering ∧
      sent.2.sent = link.sent ++ [statement] := by
  obtain ⟨connected, hok, hconnected, hresponses, hsent⟩ :=
    connect_answering (show (link.awaiting response).reach = .answering from hreach)
  have hnext : connected.responses = [response] := hresponses
  have hpast : connected.sent = link.sent := hsent
  simp only [Link.execute, hok, hnext, hpast]
  cases response <;> exact ⟨rfl, hconnected, rfl⟩

variable {server : Server}

/-- A request over such a link is answered as the tables say, and its statement was sent. -/
theorem ask_answering (hreach : server.link.reach = .answering) (request : Request) :
    let asked := server.ask now request
    asked.1 = (request.ofTables server.tables now).1 ∧
      asked.2.tables = (request.ofTables server.tables now).2 ∧
      asked.2.link.reach = .answering ∧
      asked.2.link.sent = server.link.sent ++ [request.statement] := by
  rcases hexecute : server.tables.execute now request.statement with ⟨response, tables⟩
  obtain ⟨hresult, hreached, hsent⟩ := execute_answering hreach request.statement response
  rcases hlink : (server.link.awaiting response).execute request.statement with ⟨result, link⟩
  rw [hlink] at hresult hreached hsent
  obtain rfl := hresult
  cases request with
  | create sample =>
      simp only [Request.statement] at hexecute hlink hsent
      simp only [Server.ask, Request.statement, Request.ofLink, Request.ofTables, Tables.create,
        Link.create, hexecute, hlink]
      cases response <;> exact ⟨rfl, trivial, hreached, hsent⟩
  | merge report =>
      simp only [Request.statement] at hexecute hlink hsent
      simp only [Server.ask, Request.statement, Request.ofLink, Request.ofTables, Tables.merge,
        Link.merge, hexecute, hlink]
      cases response <;> exact ⟨rfl, trivial, hreached, hsent⟩

/-- One request is answered alike by a server and by the store in memory, with success or a conflict
of its own document, and leaves them in agreement. -/
theorem Agree.ask (h : Agree server.tables store) (hkeyed : server.tables.Keyed)
    (hreach : server.link.reach = .answering) (request : Request) :
    (server.ask now request).1 = (request.ofMemory store).1 ∧
      Stores.Admitted request.call (request.ofMemory store).1 ∧
      Agree (server.ask now request).2.tables (request.ofMemory store).2 ∧
      (server.ask now request).2.tables.Keyed := by
  obtain ⟨hanswer, htables, _, _⟩ := ask_answering now hreach request
  have hhealthy : Stores.Healthy ⟨store, .empty⟩ := ⟨h.online, rfl⟩
  have hadmitted := hhealthy.admitted request.call
  rw [perform_call] at hadmitted
  rw [hanswer, htables]
  cases request with
  | create sample =>
      obtain ⟨hsame, hagree⟩ := h.create now sample
      exact ⟨hsame, hadmitted, hagree, hkeyed.create now sample⟩
  | merge report =>
      obtain ⟨hsame, hagree⟩ := h.merge now report
      exact ⟨hsame, hadmitted, hagree, hkeyed.merge now report⟩

/-- So do requests one after the other. -/
theorem Agree.askAll (h : Agree server.tables store) (hkeyed : server.tables.Keyed)
    (hreach : server.link.reach = .answering) (requests : List (Instant × Request)) :
    let database := server.askAll requests
    let memory := askMemory store (requests.map Prod.snd)
    database.1 = memory.1 ∧
      List.Forall₂ (fun request answer => Stores.Admitted request.call answer)
        (requests.map Prod.snd) memory.1 ∧
      database.2.link.sent = server.link.sent ++ requests.map (·.2.statement) ∧
      Agree database.2.tables memory.2 ∧ database.2.tables.Keyed := by
  induction requests generalizing server store with
  | nil => exact ⟨rfl, .nil, (List.append_nil _).symm, h, hkeyed⟩
  | cons head requests ih =>
      obtain ⟨now, request⟩ := head
      obtain ⟨_, _, hreached, hsent⟩ := ask_answering now hreach request
      obtain ⟨hsame, hadmitted, hagree, hkeys⟩ := h.ask now hkeyed hreach request
      obtain ⟨hanswers, hall, hsentAll, hstores⟩ := ih hagree hkeys hreached
      refine ⟨?_, .cons hadmitted hall, ?_, hstores⟩
      · exact congrArg₂ List.cons hsame hanswers
      · exact hsentAll.trans (by rw [hsent, List.append_assoc]; rfl)

/-! ## Columns -/

/-- What the row of a sample holds in its columns is what the statement for the sample sends, the
fourteen parameters in the order of the columns. -/
theorem cells_rowOfSample :
    (Tables.rowOfSample sample).cells = (Statement.create sample).parameters :=
  rfl

/-- A telemetry row names the path of its document, and its columns hold what the statement for its
sample sends. -/
theorem Agree.telemetry_cells (h : Agree tables store) {device : String} {second : Int}
    {row : TelemetryRow} (hrow : tables.telemetryRow? device second = some row) :
    row.path = telemetryPath device second ∧
      row.cells = (Statement.create ⟨device, row.ingestedAt, row.values⟩).parameters := by
  obtain ⟨hsample, hsecond⟩ := h.telemetryRow device second row hrow
  have hlies : row.second = row.ingestedAt.seconds := congrArg TelemetryRow.second hsample
  have hpath : row.path = telemetryPath device row.ingestedAt.seconds :=
    congrArg TelemetryRow.path hsample
  have hcells := (congrArg TelemetryRow.cells hsample).trans (cells_rowOfSample _)
  exact ⟨by rw [hpath, ← hlies, hsecond], hcells⟩

/-- A state row names the path of its document, and holds what the statement for its report sends,
up to the time at which it was added. -/
theorem Agree.state_cells (h : Agree tables store) {device : String} {kind : Kind} {row : StateRow}
    (hrow : tables.stateRow? device kind.name = some row) :
    row.path = statePath device kind ∧
      ∀ cell ∈ (Statement.merge ⟨device, kind, row.ingestedAt, row.data⟩).parameters,
        cell.1 ≠ "created_at" → cell ∈ row.cells := by
  obtain ⟨hdevice, hkind, hpath⟩ := h.stateRow device kind row hrow
  refine ⟨hpath, ?_⟩
  simp [Statement.parameters, stateColumns, StateRow.cells, hdevice, hkind, hpath,
    StateReport.path]

/-- A report leaves every state row in its table, with its label and the time at which it was
added. -/
theorem stateRow?_ask_merge (server : Server) {device kind : String} {row : StateRow}
    (hrow : server.tables.stateRow? device kind = some row) :
    ∃ after, (server.ask now (.merge report)).2.tables.stateRow? device kind = some after ∧
      after.createdAt = row.createdAt ∧ after.label = row.label := by
  have htables : (server.ask now (.merge report)).2.tables =
      (server.tables.merge now report).2 := rfl
  rw [htables, Tables.stateRow?_merge]
  split
  · next hkey =>
      obtain ⟨rfl, rfl⟩ := hkey
      exact ⟨Tables.refreshed now report row, by rw [hrow]; rfl, rfl, rfl⟩
  · exact ⟨row, hrow, rfl, rfl⟩

/-! ## Any requests -/

/-- Requests are made of a database and of the store in memory, both empty at first and the merges
in memory online. They are answered alike, each with success or the conflict of its own document.
After them, and so after each of them, the rows and the documents stand for each other: a key has a
row, and no second one, exactly if there is a document at its path; the row names this path, its
time with its ten values or its data are those of the document, and its columns hold what a
statement sends under their names. A merge leaves the label of any row, and the time at which it was
added, as they are. -/
theorem database_agrees_with_memory (requests : List (Instant × Request)) :
    let (answers, server) := Server.fresh.askAll requests
    let (expected, store) := askMemory .empty (requests.map Prod.snd)
    (answers = expected ∧
      List.Forall₂ (fun request answer => Stores.Admitted request.call answer)
        (requests.map Prod.snd) answers ∧
      server.link.sent = requests.map (·.2.statement)) ∧
    server.tables.Keyed ∧
    (∀ device second,
      store.documents[telemetryPath device second]? =
          (server.tables.telemetryRow? device second).map TelemetryRow.document ∧
        ∀ row, server.tables.telemetryRow? device second = some row →
          row.path = telemetryPath device second ∧
            row.cells = (Statement.create ⟨device, row.ingestedAt, row.values⟩).parameters) ∧
    (∀ device kind,
      store.documents[statePath device kind]? =
          (server.tables.stateRow? device kind.name).map StateRow.document ∧
        ∀ row, server.tables.stateRow? device kind.name = some row →
          row.path = statePath device kind ∧
            ∀ cell ∈ (Statement.merge ⟨device, kind, row.ingestedAt, row.data⟩).parameters,
              cell.1 ≠ "created_at" → cell ∈ row.cells) ∧
    ∀ (database : Server) now report device kind row,
      database.tables.stateRow? device kind = some row →
      ∃ after, (database.ask now (.merge report)).2.tables.stateRow? device kind = some after ∧
        after.createdAt = row.createdAt ∧ after.label = row.label := by
  have hagrees : Agree Server.fresh.tables .empty := agree_empty
  have hkeyed : Server.fresh.tables.Keyed := ⟨List.nodup_nil, List.nodup_nil⟩
  obtain ⟨hsame, hadmitted, hsent, hagree, hkeys⟩ := hagrees.askAll hkeyed rfl requests
  refine ⟨⟨hsame, hsame ▸ hadmitted, hsent⟩, hkeys, fun device second => ?_, fun device kind => ?_,
    fun database now report device kind row => stateRow?_ask_merge now report database⟩
  · exact ⟨hagree.telemetry device second, fun row => hagree.telemetry_cells⟩
  · exact ⟨hagree.states device kind, fun row => hagree.state_cells⟩

/-- Two samples of one second, and two reports of one memory. -/
def repeatedRequests : List (Instant × Request) :=
  [(⟨1⟩, .create ⟨"grow-1", ⟨0⟩, .replicate 0⟩),
    (⟨2⟩, .create ⟨"grow-1", ⟨999999999⟩, .replicate 0⟩),
    (⟨3⟩, .merge ⟨"grow-1", .memory, ⟨0⟩, [1, 2, 3]⟩),
    (⟨4⟩, .merge ⟨"grow-1", .memory, ⟨60⟩, [9, 9]⟩)]

/-- Of the repeated requests only the second sample is refused, in both stores. The row of the
memory has the later data and the time of the earlier report, and the document of the memory is
that of the row. -/
theorem repeatedRequests_agree :
    let (answers, server) := Server.fresh.askAll repeatedRequests
    let (expected, store) := askMemory .empty (repeatedRequests.map Prod.snd)
    answers = expected ∧
      expected = [.ok (), .error (.snapshotConflict "devices/grow-1/telemetry/0"), .ok (), .ok ()] ∧
      ∃ row, server.tables.stateRow? "grow-1" "memory" = some row ∧ row.createdAt = ⟨3⟩ ∧
        row.data = [9, 9] ∧
        store.documents[statePath "grow-1" .memory]? = some row.document := by
  obtain ⟨⟨hsame, _, _⟩, _, _, hstates, _⟩ := database_agrees_with_memory repeatedRequests
  have hrow : (Server.fresh.askAll repeatedRequests).2.tables.stateRow? "grow-1" "memory" =
      some ⟨"grow-1", "memory", "devices/grow-1/state/memory", ⟨60⟩, [9, 9], none, ⟨3⟩, ⟨4⟩⟩ := by
    decide +kernel
  refine ⟨hsame, by decide +kernel, _, hrow, rfl, rfl, ?_⟩
  exact (hstates "grow-1" .memory).1.trans (congrArg (Option.map StateRow.document) hrow)

end Glasshouse.Snapshot
