import Glasshouse.Proofs.Replay
import Glasshouse.Proofs.WellFormed

/-!
# Telemetry documents are written once

Whatever is done to stores that were empty at first, a telemetry document that is there stays: no
call changes it, and another writer can only set fields of it. Its path stands in the journal once
at most, the journal has the paths of the successful writes and no others, and a call that fails
changes nothing at all. Main statement: `telemetry_written_once`.
-/

namespace Glasshouse.Ingest

open Store

/-! ## What every history keeps -/

/-- What calls, seeds and switches keep, every history keeps. -/
theorem History.run_of_kept {kept : Stores → Prop}
    (hcall : ∀ stores call, kept stores → kept (stores.perform call).2)
    (hseed : ∀ stores path name value, kept stores → kept (stores.seedField path name value))
    (hmerges : ∀ stores offline, kept stores → kept (stores.setMergesOffline offline))
    (hrows : ∀ stores reason, kept stores → kept (stores.setRefusal reason))
    (settings : Settings) (history : History) {stores : Stores} (h : kept stores) :
    kept (history.run settings stores).1 := by
  have heach (calls : List Call) : ∀ stores, kept stores → kept (stores.performEach calls) := by
    induction calls with
    | nil => exact fun _ hkept => hkept
    | cons call calls ih => exact fun stores hkept => ih _ (hcall stores call hkept)
  have hprogram {α : Type} (program : Program α) (stores : Stores) (hkept : kept stores) :
      kept (program.effects stores).1 := by
    show kept (program.run Stores.behaviour stores).state
    rw [Program.state_run]
    exact heach _ stores hkept
  refine History.run_invariant settings kept (fun action _ stores hkept => ?_) h
  cases action with
  | seed path name value => exact hseed stores path name value hkept
  | setMergesOffline offline => exact hmerges stores offline hkept
  | setRefusal reason => exact hrows stores reason hkept
  | call _ | dispatch _ | dispatchFrom _ _ | ingest _ => exact hprogram _ stores hkept

/-! ## The journal -/

/-- The journal tells of documents that are there, and of a telemetry document once: when its path
is journaled it can no longer be created. -/
structure JournalInOrder (stores : Stores) : Prop where
  once : ∀ device second, stores.snapshots.journal.count (telemetryPath device second) +
    stores.creationsLeft (telemetryPath device second) ≤ 1
  documented : ∀ path ∈ stores.snapshots.journal, path ∈ stores.snapshots.documents

variable {stores : Stores}

/-- The path that a call writes has a document afterwards. -/
theorem mem_documents_of_writtenPath? {call : Call} {path : String}
    (h : writtenPath? call (stores.perform call).1 = some path) :
    path ∈ (stores.perform call).2.snapshots.documents := by
  cases call with
  | insert target sample => cases h
  | create sample =>
      have hpath : path = samplePath sample := by
        unfold writtenPath? at h
        split at h <;> simp_all
      rw [hpath]
      exact samplePath_mem_perform stores sample
  | merge report =>
      cases hanswer : (stores.perform (.merge report)).1 with
      | error failure =>
          rw [hanswer] at h
          cases h
      | ok _ =>
          rw [hanswer] at h
          obtain rfl : report.path = path := Option.some.inj h
          rw [Stores.documents_perform_of_ok hanswer]
          exact Std.ExtTreeMap.mem_insert_self

/-- Calls keep the journal in order. -/
theorem JournalInOrder.perform (h : JournalInOrder stores) (call : Call) :
    JournalInOrder (stores.perform call).2 where
  once device second := by
    obtain ⟨added, hjournal, hcount⟩ := stores.journal_perform call device second
    have honce := h.once device second
    rw [hjournal, List.count_append]
    omega
  documented path hmem := by
    rw [Stores.journal_perform_eq, List.mem_append, Option.mem_toList] at hmem
    rcases hmem with hbefore | hwritten
    · exact mem_perform (h.documented path hbefore) call
    · exact mem_documents_of_writtenPath? hwritten

/-- Another writer keeps the journal in order, since it only adds documents. -/
theorem JournalInOrder.seedField (h : JournalInOrder stores) (path name : String)
    (value : FieldValue) : JournalInOrder (stores.seedField path name value) := by
  have hmem {other : String} (hother : other ∈ stores.snapshots.documents) :
      other ∈ (stores.seedField path name value).snapshots.documents :=
    Std.ExtTreeMap.mem_insert.mpr (Or.inr hother)
  refine ⟨fun device second => ?_, fun other hother => hmem (h.documented other hother)⟩
  -- A seed journals nothing, but where it adds the document no creation is left.
  have hleft : (stores.seedField path name value).creationsLeft (telemetryPath device second) ≤
      stores.creationsLeft (telemetryPath device second) := by
    unfold Stores.creationsLeft
    split
    · exact Nat.zero_le _
    · next hseeded => rw [if_neg fun hbefore => hseeded (hmem hbefore)]
  exact (Nat.add_le_add_left hleft _).trans (h.once device second)

/-- After any history of stores that were empty the journal is in order. -/
theorem journalInOrder_history (settings : Settings) (history : History) :
    JournalInOrder (history.run settings .empty).1 := by
  refine history.run_of_kept (fun _ call h => h.perform call)
    (fun _ path name value h => h.seedField path name value) (fun _ _ h => ⟨h.once, h.documented⟩)
    (fun _ _ h => ⟨h.once, h.documented⟩) settings ⟨fun device second => ?_, fun _ h => nomatch h⟩
  simp [Stores.empty, SnapshotMemory.empty, Stores.creationsLeft]

/-! ## Documents that are there -/

/-- The document at a path after an effect that is not a call: another writer may set a field. -/
def Effect.seedInto (path : String) (document : Document) : Effect → Document
  | seeded other name value => if other = path then document.insert name value else document
  | answered .. => document

variable {documents : Documents} {document : Document} {device : String} {second : Int}

/-- No effect takes a telemetry document away or writes it anew. -/
theorem getElem?_change_telemetryPath
    (h : documents[telemetryPath device second]? = some document) (effect : Effect) :
    (effect.change documents)[telemetryPath device second]? =
      some (effect.seedInto (telemetryPath device second) document) := by
  cases effect with
  | seeded path name value =>
      by_cases hpath : path = telemetryPath device second
      · subst hpath
        simp [Effect.change, Effect.seedInto, h]
      · simp [Effect.change, Effect.seedInto, Std.ExtTreeMap.getElem?_insert, hpath, h]
  | answered call answer =>
      cases answer with
      | error failure => exact h
      | ok _ =>
          show (documents.after call)[telemetryPath device second]? = some document
          rw [getElem?_after, reportAt?_telemetryPath, h]
          rfl

/-- Of any number of effects only the fields that another writer sets reach a telemetry document
that is there. -/
theorem getElem?_foldl_change_telemetryPath (effects : List Effect)
    (h : documents[telemetryPath device second]? = some document) :
    (effects.foldl Effect.change documents)[telemetryPath device second]? =
      some (effects.foldl (Effect.seedInto (telemetryPath device second)) document) := by
  induction effects generalizing documents document with
  | nil => exact h
  | cons effect effects ih => exact ih (getElem?_change_telemetryPath h effect)

/-- After any history of stores that were empty: a telemetry document that is there is the same
after any further call, and after any further history it has at most had fields set by another
writer; its path stands in the journal once at most; every path in the journal has a document; the
journal grows by the paths of the calls that write one, as they are answered, and by nothing else;
and a call that fails leaves the stores as they are. -/
theorem telemetry_written_once (settings : Settings) (history later : History) (call : Call) :
    let stores := (history.run settings .empty).1
    let called := stores.perform call
    let after := later.run settings stores
    (∀ device second document,
      stores.snapshots.documents[telemetryPath device second]? = some document →
      called.2.snapshots.documents[telemetryPath device second]? = some document ∧
        after.1.snapshots.documents[telemetryPath device second]? =
          some (after.2.foldl (Effect.seedInto (telemetryPath device second)) document)) ∧
    (∀ device second, stores.snapshots.journal.count (telemetryPath device second) ≤ 1) ∧
    (∀ path ∈ stores.snapshots.journal, path ∈ stores.snapshots.documents) ∧
    called.2.snapshots.journal =
      stores.snapshots.journal ++ (writtenPath? call called.1).toList ∧
    after.1.snapshots.journal =
      stores.snapshots.journal ++ after.2.filterMap Effect.journaled? ∧
    ∀ failure, called.1 = .error failure → called.2 = stores := by
  intro stores called after
  have hjournal := journalInOrder_history settings history
  have hlater := later.replays settings stores
  refine ⟨fun device second document hthere => ⟨?_, ?_⟩, fun device second => ?_,
    hjournal.documented, stores.journal_perform_eq call, hlater.journal,
    fun failure => Stores.perform_of_error⟩
  · rw [(replays_perform stores call).documents]
    exact getElem?_change_telemetryPath hthere _
  · rw [hlater.documents]
    exact getElem?_foldl_change_telemetryPath after.2 hthere
  · exact (Nat.le_add_right _ _).trans (hjournal.once device second)

/-- The first reading of the mixed delivery is created, then another writer leaves a note in its
document, and then it is to be created again: the document has the reading and the note, and the
second attempt is a conflict that changes nothing. -/
theorem reading_with_note_stays :
    let sample := Status.Sample.ofReading mixedDelivery.device mixedDelivery.ingestedAt
      (.replicate 0)
    let path := samplePath sample
    let stores := (History.run testSettings .empty [.call (.create sample)]).1
    let later : History := [.seed path "note" (.text "checked"), .call (.create sample)]
    stores.snapshots.documents[path]? = some (.ofSample sample) ∧
      (later.run testSettings stores).1.snapshots.documents[path]? =
        some ((Document.ofSample sample).insert "note" (.text "checked")) ∧
      (stores.perform (.create sample)).1 = .error (.snapshotConflict path) ∧
      (stores.perform (.create sample)).2 = stores := by
  intro sample path stores later
  have hstores : stores.snapshots.documents = (∅ : Documents).after (.create sample) :=
    (replays_perform .empty (.create sample)).documents
  have hthere : stores.snapshots.documents[path]? = some (.ofSample sample) := by
    simp [hstores, Documents.after, path]
  have hconflict : (stores.perform (.create sample)).1 = .error (.snapshotConflict path) := by
    simp [Stores.perform, SnapshotMemory.create, Std.ExtTreeMap.mem_iff_isSome_getElem?, hthere,
      path]
  obtain ⟨hwritten, _, _, _, _, hfails⟩ :=
    telemetry_written_once testSettings [.call (.create sample)] later (.create sample)
  have hreached : (History.run testSettings .empty [.call (.create sample)]).1 = stores := rfl
  rw [hreached] at hwritten hfails
  refine ⟨hthere, ?_, hconflict, hfails _ hconflict⟩
  -- From here on it does not matter how the stores came about.
  clear_value stores
  refine (hwritten sample.device sample.second _ hthere).2.trans ?_
  show some (List.foldl (Effect.seedInto path) (.ofSample sample)
    [.seeded path "note" (.text "checked"), .answered (.create sample) _]) = _
  simp [Effect.seedInto]

end Glasshouse.Ingest
