import Glasshouse.Ingest.History
import Glasshouse.Proofs.DeviceShares
import Glasshouse.Proofs.SinglePass

/-!
# What effects leave of stores

The effects of a history are all that it did. Made anew on the documents that were there they give
the documents that the history leaves, and the paths and rows that it adds can be read off them,
whether its calls were made alone or by a dispatcher. A call that fails has an effect too, which
leaves nothing behind. Main statement: `History.replays`.
-/

namespace Glasshouse.Store

/-- A call that fails leaves the stores as they were. -/
theorem Stores.perform_of_error {stores : Stores} {call : Call} {failure : Failure}
    (h : (stores.perform call).1 = .error failure) : (stores.perform call).2 = stores := by
  cases call with
  | create sample =>
      simp only [perform, SnapshotMemory.create] at h ⊢
      split at h
      · next hmem => rw [if_pos hmem]
      · cases h
  | merge report =>
      simp only [perform, SnapshotMemory.merge] at h ⊢
      split at h
      · next hoffline => rw [if_pos hoffline]
      · cases h
  | insert target sample =>
      simp only [perform, AnalyticsMemory.insert] at h ⊢
      split at h
      · rfl
      · cases h

/-- A call that succeeds takes effect on the documents. -/
theorem Stores.documents_perform_of_ok {stores : Stores} {call : Call}
    (h : (stores.perform call).1 = .ok ()) :
    (stores.perform call).2.snapshots.documents = stores.snapshots.documents.after call := by
  rw [documents_perform, if_pos]
  cases call with
  | create _ | insert _ _ => rfl
  | merge report =>
      simp only [perform, SnapshotMemory.merge] at h
      split at h
      · cases h
      · next honline => simpa [takesEffect] using honline

/-- A call that succeeds appends its row. -/
theorem Stores.rows_perform_of_ok {stores : Stores} {call : Call}
    (h : (stores.perform call).1 = .ok ()) :
    (stores.perform call).2.analytics.rows = stores.analytics.rows ++ (rowOf? call).toList := by
  rw [rows_perform]
  cases call with
  | create _ | merge _ => simp [rowOf?]
  | insert target sample =>
      simp only [perform, AnalyticsMemory.insert] at h
      split at h
      · cases h
      · next haccepting => rw [if_pos haccepting]

end Glasshouse.Store

namespace Glasshouse.Ingest

open Store

namespace Effect

/-- The documents after an effect. -/
def change (documents : Documents) : Effect → Documents
  | seeded path name value =>
      documents.insert path ((documents[path]?.getD ∅).insert name value)
  | answered call (.ok _) => documents.after call
  | answered _ (.error _) => documents

/-- The path that an effect adds to the journal. -/
def journaled? : Effect → Option String
  | seeded .. => none
  | answered call answer => writtenPath? call answer

/-- The row that an effect appends. -/
def row? : Effect → Option (Target × Status.Sample)
  | answered call (.ok _) => rowOf? call
  | _ => none

end Effect

/-- What stores hold after effects, given what they held before. -/
structure Replays (before : Stores) (effects : List Effect) (after : Stores) : Prop where
  documents : after.snapshots.documents = effects.foldl Effect.change before.snapshots.documents
  journal : after.snapshots.journal =
    before.snapshots.journal ++ effects.filterMap Effect.journaled?
  rows : after.analytics.rows = before.analytics.rows ++ effects.filterMap Effect.row?

variable {before middle after : Stores} {effects others : List Effect}

/-- Where nothing happened the stores hold what they held, whatever became of the switches. -/
theorem Replays.nil (hdocuments : after.snapshots.documents = before.snapshots.documents)
    (hjournal : after.snapshots.journal = before.snapshots.journal)
    (hrows : after.analytics.rows = before.analytics.rows) : Replays before [] after :=
  ⟨hdocuments, hjournal.trans (List.append_nil _).symm, hrows.trans (List.append_nil _).symm⟩

/-- Effects after effects. -/
theorem Replays.append (hfirst : Replays before effects middle)
    (hsecond : Replays middle others after) : Replays before (effects ++ others) after where
  documents := by rw [hsecond.documents, hfirst.documents, List.foldl_append]
  journal := by rw [hsecond.journal, hfirst.journal, List.filterMap_append, List.append_assoc]
  rows := by rw [hsecond.rows, hfirst.rows, List.filterMap_append, List.append_assoc]

/-- What a call does is told by the call and its answer. -/
theorem replays_perform (stores : Stores) (call : Call) :
    Replays stores [.answered call (stores.perform call).1] (stores.perform call).2 := by
  have hjournal := stores.journal_perform_eq call
  cases hanswer : (stores.perform call).1 with
  | error failure =>
      have hsame := Stores.perform_of_error hanswer
      refine ⟨by rw [hsame]; rfl, ?_, by rw [hsame]; simp [Effect.row?]⟩
      rw [hjournal, hanswer]
      cases call <;> rfl
  | ok _ =>
      refine ⟨Stores.documents_perform_of_ok hanswer, ?_, ?_⟩
      · rw [hjournal, hanswer]
        cases call <;> rfl
      · rw [Stores.rows_perform_of_ok hanswer]
        cases call <;> rfl

/-- What a single field set by another writer does. -/
theorem replays_seedField (stores : Stores) (path name : String) (value : FieldValue) :
    Replays stores [.seeded path name value] (stores.seedField path name value) :=
  ⟨rfl, (List.append_nil _).symm, (List.append_nil _).symm⟩

/-- A program does what the calls that it makes do. -/
theorem Program.replays {α : Type} (program : Program α) (stores : Stores) :
    Replays stores (program.effects stores).2 (program.effects stores).1 := by
  induction program generalizing stores with
  | done value => exact .nil rfl rfl rfl
  | emit event rest ih => exact ih stores
  | call request next ih => exact (replays_perform stores request).append (ih _ _)
  | join first second next ih =>
      have hsecond := replays_perform (stores.perform first).2 second
      exact (replays_perform stores first).append (hsecond.append (ih _ _ _))

/-- An action does what its effects say. -/
theorem Action.replays (settings : Settings) (stores : Stores) (action : Action) :
    Replays stores (action.apply settings stores).2 (action.apply settings stores).1 := by
  cases action with
  | seed path name value => exact replays_seedField stores path name value
  | setMergesOffline _ | setRefusal _ => exact .nil rfl rfl rfl
  | call _ | dispatch _ | dispatchFrom _ _ | ingest _ => exact Program.replays _ stores

/-- A history leaves the documents that its effects lead to, and it adds the paths and rows of its
effects in their order. -/
theorem History.replays (settings : Settings) (stores : Stores) (history : History) :
    Replays stores (history.run settings stores).2 (history.run settings stores).1 := by
  induction history generalizing stores with
  | nil => exact .nil rfl rfl rfl
  | cons action actions ih => exact (action.replays settings stores).append (ih _)

end Glasshouse.Ingest
