import Glasshouse.Proofs.Documents
import Glasshouse.Store.Memory

/-!
# Calls on stores in memory

What a list of calls leaves of stores in memory, said for documents, rows and journal apart. The
switches stay as they are, so a whole list of calls meets the same ones: while merges are offline
no merge takes effect, and while rows are refused no row is added.
-/

namespace Glasshouse.Store

open Status

/-- The row that a call appends. -/
def rowOf? : Call → Option (Target × Sample)
  | .insert target sample => some (target, sample)
  | _ => none

/-- Whether a call takes effect on documents, given the switch for merges. -/
def takesEffect (mergesOffline : Bool) : Call → Bool
  | .merge _ => !mergesOffline
  | _ => true

namespace Stores

/-- Stores after calls in order. -/
def performEach (stores : Stores) (calls : List Call) : Stores :=
  calls.foldl (fun stores call => (stores.perform call).2) stores

/-- How stores answer a call while neither switch is set: a document to be created may exist, and
nothing else fails. -/
def Admitted : Call → Answer → Prop
  | .create sample, answer =>
      answer = .ok () ∨ answer = .error (.snapshotConflict (samplePath sample))
  | _, answer => answer = .ok ()

/-- Neither switch is set. -/
structure Healthy (stores : Stores) : Prop where
  online : stores.snapshots.mergesOffline = false
  accepting : stores.analytics.refusal = none

/-- How often the document at a path can still be created: not at all if it is there. -/
def creationsLeft (stores : Stores) (path : String) : Nat :=
  if path ∈ stores.snapshots.documents then 0 else 1

variable (stores : Stores) (call : Call) (calls : List Call)

/-! ## One call -/

/-- A call leaves the switch for merges alone. -/
@[simp] theorem mergesOffline_perform :
    (stores.perform call).2.snapshots.mergesOffline = stores.snapshots.mergesOffline := by
  cases call with
  | insert target sample => rfl
  | create sample =>
      simp only [perform, SnapshotMemory.create]
      split <;> rfl
  | merge report =>
      simp only [perform, SnapshotMemory.merge]
      split <;> rfl

/-- A call leaves the switch for rows alone. -/
@[simp] theorem refusal_perform :
    (stores.perform call).2.analytics.refusal = stores.analytics.refusal := by
  cases call with
  | create _ | merge _ => rfl
  | insert target sample =>
      simp only [perform, AnalyticsMemory.insert]
      split <;> simp_all

/-- A call changes the documents if it takes effect. -/
theorem documents_perform :
    (stores.perform call).2.snapshots.documents =
      if takesEffect stores.snapshots.mergesOffline call
      then stores.snapshots.documents.after call else stores.snapshots.documents := by
  cases call with
  | insert target sample => rfl
  | create sample =>
      simp only [perform, SnapshotMemory.create, takesEffect, Documents.after, if_true]
      split <;> rfl
  | merge report =>
      simp only [perform, SnapshotMemory.merge, takesEffect]
      cases stores.snapshots.mergesOffline <;> rfl

/-- A call appends its row unless rows are refused. -/
theorem rows_perform :
    (stores.perform call).2.analytics.rows =
      stores.analytics.rows ++
        if stores.analytics.refusal = none then (rowOf? call).toList else [] := by
  cases call with
  | create _ | merge _ => simp [perform, rowOf?]
  | insert target sample =>
      simp only [perform, AnalyticsMemory.insert, rowOf?]
      cases stores.analytics.refusal <;> simp

/-- A call journals the path of a telemetry document when it creates the document. -/
theorem journal_perform (device : String) (second : Int) :
    ∃ added, (stores.perform call).2.snapshots.journal = stores.snapshots.journal ++ added ∧
      added.count (telemetryPath device second) +
          (stores.perform call).2.creationsLeft (telemetryPath device second) =
        stores.creationsLeft (telemetryPath device second) := by
  cases call with
  | insert target sample => exact ⟨[], (List.append_nil _).symm, Nat.zero_add _⟩
  | create sample =>
      simp only [perform, SnapshotMemory.create]
      split
      · exact ⟨[], (List.append_nil _).symm, Nat.zero_add _⟩
      · next hmem =>
          refine ⟨[samplePath sample], rfl, ?_⟩
          by_cases hpath : samplePath sample = telemetryPath device second
          · rw [hpath] at hmem ⊢
            simp [creationsLeft, hmem]
          · simp [creationsLeft, hpath]
  | merge report =>
      have hpath : report.path ≠ telemetryPath device second :=
        (telemetryPath_ne_statePath _ _ _ _).symm
      simp only [perform, SnapshotMemory.merge]
      split
      · exact ⟨[], (List.append_nil _).symm, Nat.zero_add _⟩
      · exact ⟨[report.path], rfl, by simp [creationsLeft, hpath]⟩

/-! ## Many calls -/

/-- Calls in two parts are performed one part after the other. -/
theorem performEach_append (others : List Call) :
    stores.performEach (calls ++ others) = (stores.performEach calls).performEach others :=
  List.foldl_append

/-- Calls leave the switch for merges alone. -/
@[simp] theorem mergesOffline_performEach :
    (stores.performEach calls).snapshots.mergesOffline = stores.snapshots.mergesOffline := by
  induction calls generalizing stores with
  | nil => rfl
  | cons call calls ih => exact (ih _).trans (mergesOffline_perform stores call)

/-- Calls leave the switch for rows alone. -/
@[simp] theorem refusal_performEach :
    (stores.performEach calls).analytics.refusal = stores.analytics.refusal := by
  induction calls generalizing stores with
  | nil => rfl
  | cons call calls ih => exact (ih _).trans (refusal_perform stores call)

/-- The documents after calls are those after the calls that take effect. -/
theorem documents_performEach :
    (stores.performEach calls).snapshots.documents =
      stores.snapshots.documents.afterAll
        (calls.filter (takesEffect stores.snapshots.mergesOffline)) := by
  induction calls generalizing stores with
  | nil => rfl
  | cons call calls ih =>
      show ((stores.perform call).2.performEach calls).snapshots.documents = _
      rw [ih, mergesOffline_perform, documents_perform, List.filter_cons]
      split <;> rfl

/-- Every create takes effect, so no sample is lost with the calls that do not. -/
theorem filterMap_sampleAt?_filter_takesEffect (mergesOffline : Bool) (path : String) :
    (calls.filter (takesEffect mergesOffline)).filterMap (sampleAt? path) =
      calls.filterMap (sampleAt? path) := by
  rw [List.filterMap_filter]
  congr 1
  funext call
  cases call <;> simp [takesEffect, sampleAt?]

/-- The telemetry document after calls is the one before, or else that of the first sample. -/
theorem getElem?_performEach_telemetryPath (device : String) (second : Int) :
    (stores.performEach calls).snapshots.documents[telemetryPath device second]? =
      stores.snapshots.documents[telemetryPath device second]?.or
        ((calls.filterMap (sampleAt? (telemetryPath device second))).head?.map .ofSample) := by
  rw [documents_performEach, getElem?_afterAll_telemetryPath,
    filterMap_sampleAt?_filter_takesEffect]

/-- The rows after calls are the rows before, and unless rows are refused those of the calls. -/
theorem rows_performEach :
    (stores.performEach calls).analytics.rows =
      stores.analytics.rows ++
        if stores.analytics.refusal = none then calls.filterMap rowOf? else [] := by
  induction calls generalizing stores with
  | nil => simp [performEach]
  | cons call calls ih =>
      show ((stores.perform call).2.performEach calls).analytics.rows = _
      rw [ih, refusal_perform, rows_perform]
      split
      · cases hrow : rowOf? call <;> simp [hrow]
      · simp

/-- Calls journal the path of a telemetry document as often as they create the document. -/
theorem journal_performEach (device : String) (second : Int) :
    ∃ added, (stores.performEach calls).snapshots.journal = stores.snapshots.journal ++ added ∧
      added.count (telemetryPath device second) +
          (stores.performEach calls).creationsLeft (telemetryPath device second) =
        stores.creationsLeft (telemetryPath device second) := by
  induction calls generalizing stores with
  | nil => exact ⟨[], (List.append_nil _).symm, Nat.zero_add _⟩
  | cons call calls ih =>
      obtain ⟨added, hadded, hcount⟩ := journal_perform stores call device second
      obtain ⟨others, hothers, hrest⟩ := ih (stores.perform call).2
      have hcons : stores.performEach (call :: calls) =
          (stores.perform call).2.performEach calls := rfl
      rw [hcons]
      refine ⟨added ++ others, ?_, ?_⟩
      · rw [hothers, hadded, List.append_assoc]
      · rw [List.count_append]
        omega

/-- Calls only append to the journal. -/
theorem journal_prefix_performEach :
    stores.snapshots.journal <+: (stores.performEach calls).snapshots.journal := by
  obtain ⟨added, hadded, _⟩ := journal_performEach stores calls "" 0
  exact ⟨added, hadded.symm⟩

/-- Calls only append rows. -/
theorem rows_prefix_performEach :
    stores.analytics.rows <+: (stores.performEach calls).analytics.rows := by
  rw [rows_performEach]
  exact List.prefix_append _ _

/-- Whatever calls are made, the path of a telemetry document is journaled at most once. -/
theorem journaled_at_most_once (device : String) (second : Int) :
    ∃ added, (stores.performEach calls).snapshots.journal = stores.snapshots.journal ++ added ∧
      added.count (telemetryPath device second) ≤ 1 := by
  obtain ⟨added, hjournal, hcount⟩ := journal_performEach stores calls device second
  have hleft : stores.creationsLeft (telemetryPath device second) ≤ 1 := by
    unfold creationsLeft
    split <;> omega
  exact ⟨added, hjournal, by omega⟩

/-! ## Healthy stores -/

variable {stores}

/-- Healthy stores stay so. -/
theorem Healthy.perform (h : stores.Healthy) : (stores.perform call).2.Healthy :=
  ⟨(mergesOffline_perform stores call).trans h.online,
    (refusal_perform stores call).trans h.accepting⟩

/-- Calls leave healthy stores so. -/
theorem Healthy.performEach (h : stores.Healthy) : (stores.performEach calls).Healthy :=
  ⟨(mergesOffline_performEach stores calls).trans h.online,
    (refusal_performEach stores calls).trans h.accepting⟩

/-- What healthy stores answer. -/
theorem Healthy.admitted (h : stores.Healthy) : Admitted call (stores.perform call).1 := by
  cases call with
  | insert target sample => simp [Admitted, Stores.perform, AnalyticsMemory.insert, h.accepting]
  | merge report => simp [Admitted, Stores.perform, SnapshotMemory.merge, h.online]
  | create sample =>
      simp only [Admitted, Stores.perform, SnapshotMemory.create]
      split
      · exact Or.inr rfl
      · exact Or.inl rfl

/-- On healthy stores every call takes effect on the documents. -/
theorem Healthy.documents_performEach (h : stores.Healthy) :
    (stores.performEach calls).snapshots.documents =
      stores.snapshots.documents.afterAll calls := by
  rw [Stores.documents_performEach, h.online, List.filter_eq_self.mpr]
  intro call _
  cases call <;> rfl

/-- On healthy stores every row is appended. -/
theorem Healthy.rows_performEach (h : stores.Healthy) :
    (stores.performEach calls).analytics.rows =
      stores.analytics.rows ++ calls.filterMap rowOf? := by
  rw [Stores.rows_performEach, if_pos h.accepting]

end Stores

end Glasshouse.Store
