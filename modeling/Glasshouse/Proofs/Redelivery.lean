import Mathlib.Data.List.Infix
import Glasshouse.Proofs.SinglePass

/-!
# Delivering an envelope again

A delivery that fails leaves a front part of its batch behind, less the merges that were offline and
the rows that were refused. A later delivery that nothing stops absorbs all of that: its documents
are those of a first delivery, since the samples created are the first of the batch in any case and
the last report of each kind comes again. Main statement: `redelivery_converges`.
-/

namespace Glasshouse.Store

open Status

/-! ## Calls made before -/

/-- A front part of calls, of which only some took effect, is absorbed when all of them are made. -/
theorem afterAll_absorbs_front {documents : Documents} {front calls : List Call}
    (h : front <+: calls) (mergesOffline : Bool) :
    (documents.afterAll (front.filter (takesEffect mergesOffline))).afterAll calls =
      documents.afterAll calls := by
  have happend : (documents.afterAll (front.filter (takesEffect mergesOffline))).afterAll calls =
      documents.afterAll (front.filter (takesEffect mergesOffline) ++ calls) :=
    List.foldl_append.symm
  rw [happend]
  apply afterAll_congr
  · -- Every create takes effect, so the samples of the front part begin those of the calls.
    intro path
    rw [List.filterMap_append, Stores.filterMap_sampleAt?_filter_takesEffect]
    obtain ⟨others, hothers⟩ := h.filterMap (sampleAt? path)
    cases hfront : front.filterMap (sampleAt? path) with
    | nil => rfl
    | cons sample samples =>
        rw [← hothers, hfront]
        rfl
  · -- A report of the front part is one of the calls, so the last one is among these.
    intro path
    rw [List.filterMap_append, List.getLast?_append]
    cases hlast : (calls.filterMap (reportAt? path)).getLast? with
    | some report => rfl
    | none =>
        have hnone :
            (front.filter (takesEffect mergesOffline)).filterMap (reportAt? path) = [] := by
          rw [List.getLast?_eq_none_iff, List.filterMap_eq_nil_iff] at hlast
          refine List.filterMap_eq_nil_iff.mpr fun call hcall => ?_
          exact hlast call (h.subset (List.filter_sublist.mem hcall))
        rw [hnone]
        rfl

end Glasshouse.Store

namespace Glasshouse.Ingest

open Store Status

/-! ## Deliveries under faults -/

/-- How the switches of the stores are set during a delivery. -/
structure Faults where
  mergesOffline : Bool
  refusal : Option String
deriving DecidableEq, Repr

/-- Both switches are off. -/
def Faults.clear : Faults :=
  ⟨false, none⟩

/-- The run of one delivery under faults. -/
def deliver (settings : Settings) (envelope : Envelope) (stores : Stores) (faults : Faults) :
    Program.Run Stores Settlement :=
  (ingest settings envelope).run Stores.behaviour
    ((stores.setMergesOffline faults.mergesOffline).setRefusal faults.refusal)

/-- The stores after deliveries of one envelope, each under its own faults. -/
def deliverEach (settings : Settings) (envelope : Envelope) (stores : Stores) :
    List Faults → Stores
  | [] => stores
  | faults :: others =>
      deliverEach settings envelope (deliver settings envelope stores faults).state others

variable {settings : Settings} {envelope : Envelope} {entries : List Entry}

/-- One delivery appends a front part of the rows of the batch and leaves documents that a later
pass over the batch absorbs. -/
theorem deliver_leaves_front (hignored : envelope.isIgnored settings.ignoreSuffix = false)
    (hvalid : envelope.validate = .ok ()) (hdecode : decodeBatch envelope.payload = .ok entries)
    (stores : Stores) (faults : Faults) :
    let after := (deliver settings envelope stores faults).state
    let calls := batchCalls settings.target envelope entries
    (∃ rows, rows <+: batchRows settings.target envelope entries ∧
        after.analytics.rows = stores.analytics.rows ++ rows) ∧
      after.snapshots.documents.afterAll calls = stores.snapshots.documents.afterAll calls := by
  obtain ⟨_, hstate⟩ := run_ingest_of_decodes hignored hvalid hdecode
    ((stores.setMergesOffline faults.mergesOffline).setRefusal faults.refusal)
  obtain ⟨front, hfront, hstores, _⟩ := passOver_front settings.target envelope entries
    ((stores.setMergesOffline faults.mergesOffline).setRefusal faults.refusal)
  simp only [deliver, hstate, hstores]
  constructor
  · rw [Stores.rows_performEach, filterMap_rowOf?_batchCalls]
    split
    · exact ⟨_, hfront.filterMap _, rfl⟩
    · exact ⟨[], List.nil_prefix, rfl⟩
  · rw [Stores.documents_performEach]
    exact afterAll_absorbs_front (hfront.flatMap _) _

/-- A delivery without faults is acknowledged, and every call of the batch takes effect. -/
theorem deliver_clear (hignored : envelope.isIgnored settings.ignoreSuffix = false)
    (hvalid : envelope.validate = .ok ()) (hdecode : decodeBatch envelope.payload = .ok entries)
    (stores : Stores) :
    let run := deliver settings envelope stores .clear
    run.value = .ack ∧
      run.state.snapshots.documents =
        stores.snapshots.documents.afterAll (batchCalls settings.target envelope entries) ∧
      run.state.analytics.rows =
        stores.analytics.rows ++ batchRows settings.target envelope entries := by
  have hclear : ((stores.setMergesOffline false).setRefusal none).Healthy := ⟨rfl, rfl⟩
  obtain ⟨hack, hstate⟩ := run_ingest_of_healthy hignored hvalid hdecode hclear
  refine ⟨hack, ?_, ?_⟩
  · exact (congrArg (·.snapshots.documents) hstate).trans (hclear.documents_performEach _)
  · rw [← filterMap_rowOf?_batchCalls]
    exact (congrArg (·.analytics.rows) hstate).trans (hclear.rows_performEach _)

/-- Deliveries append front parts of the rows of the batch, one for each, and leave documents that
a later pass over the batch absorbs. -/
theorem deliverEach_leaves_fronts (hignored : envelope.isIgnored settings.ignoreSuffix = false)
    (hvalid : envelope.validate = .ok ()) (hdecode : decodeBatch envelope.payload = .ok entries)
    (stores : Stores) (earlier : List Faults) :
    let calls := batchCalls settings.target envelope entries
    (∃ added : List (List (Target × Sample)), added.length = earlier.length ∧
        (∀ rows ∈ added, rows <+: batchRows settings.target envelope entries) ∧
        ∀ n, (deliverEach settings envelope stores (earlier.take n)).analytics.rows =
          stores.analytics.rows ++ (added.take n).flatten) ∧
      (deliverEach settings envelope stores earlier).snapshots.documents.afterAll calls =
        stores.snapshots.documents.afterAll calls := by
  induction earlier generalizing stores with
  | nil => exact ⟨⟨[], rfl, by simp, by simp [deliverEach]⟩, rfl⟩
  | cons faults others ih =>
      obtain ⟨⟨rows, hfront, hrows⟩, hdocuments⟩ :=
        deliver_leaves_front hignored hvalid hdecode stores faults
      obtain ⟨⟨added, hlength, hadded, htakes⟩, hothers⟩ :=
        ih (deliver settings envelope stores faults).state
      refine ⟨⟨rows :: added, by simp [hlength], ?_, fun n => ?_⟩, hothers.trans hdocuments⟩
      · simpa using ⟨hfront, hadded⟩
      · cases n with
        | zero => simp [deliverEach]
        | succ n =>
            show (deliverEach settings envelope (deliver settings envelope stores faults).state
              (others.take n)).analytics.rows = _
            rw [htakes, hrows, List.take_succ_cons, List.flatten_cons, List.append_assoc]

/-- A delivery without faults, after any number of deliveries under faults, is acknowledged and
leaves the documents of a first delivery; each earlier delivery appended at most the rows of a front
part of the batch and the last one appended all of them. -/
theorem redelivery_converges (settings : Settings) (envelope : Envelope) (entries : List Entry)
    (stores : Stores) (earlier : List Faults)
    (hignored : envelope.isIgnored settings.ignoreSuffix = false) (hdevice : envelope.device ≠ "")
    (hdecode : decodeBatch envelope.payload = .ok entries) :
    let before := deliverEach settings envelope stores earlier
    let last := deliver settings envelope before .clear
    let first := deliver settings envelope stores .clear
    let rows := batchRows settings.target envelope entries
    last.value = .ack ∧ last.state.snapshots.documents = first.state.snapshots.documents ∧
      ∃ added : List (List (Target × Sample)), added.length = earlier.length ∧
        (∀ front ∈ added, front <+: rows) ∧
        (∀ n, (deliverEach settings envelope stores (earlier.take n)).analytics.rows =
          stores.analytics.rows ++ (added.take n).flatten) ∧
        last.state.analytics.rows = stores.analytics.rows ++ added.flatten ++ rows := by
  have hvalid := validate_of_ne hdevice
  obtain ⟨⟨added, hlength, hadded, htakes⟩, hdocuments⟩ :=
    deliverEach_leaves_fronts hignored hvalid hdecode stores earlier
  intro before last first rows
  obtain ⟨hack, hlastDocuments, hlastRows⟩ := deliver_clear hignored hvalid hdecode before
  obtain ⟨_, hfirstDocuments, _⟩ := deliver_clear hignored hvalid hdecode stores
  refine ⟨hack, ?_, added, hlength, hadded, htakes, ?_⟩
  · calc last.state.snapshots.documents
        = before.snapshots.documents.afterAll (batchCalls settings.target envelope entries) :=
          hlastDocuments
      _ = stores.snapshots.documents.afterAll (batchCalls settings.target envelope entries) :=
          hdocuments
      _ = first.state.snapshots.documents := hfirstDocuments.symm
  · have hbefore : before.analytics.rows = stores.analytics.rows ++ added.flatten := by
      have hall := htakes earlier.length
      rwa [← hlength, List.take_length, hlength, List.take_length] at hall
    rw [hlastRows, hbefore]

/-- A batch of telemetry, memory and telemetry is delivered while merges are offline, while rows are
refused, and without faults: the last delivery is acknowledged, leaves the documents of a first one
and appends both rows. -/
theorem mixedDelivery_converges :
    let stopped := deliverEach testSettings mixedDelivery .empty
      [⟨true, none⟩, ⟨false, some "too many parts"⟩]
    let last := deliver testSettings mixedDelivery stopped .clear
    let first := deliver testSettings mixedDelivery .empty .clear
    last.value = .ack ∧ last.state.snapshots.documents = first.state.snapshots.documents ∧
      last.state.analytics.rows.length = stopped.analytics.rows.length + 2 := by
  obtain ⟨entries, hdecode, hlength⟩ := mixedDelivery_decodes
  obtain ⟨hvalue, hdocuments, added, hadded, _, htakes, hrows⟩ :=
    redelivery_converges testSettings mixedDelivery entries .empty
      [⟨true, none⟩, ⟨false, some "too many parts"⟩] (by decide +kernel) (by decide) hdecode
  intro stopped last first
  have htaken : added.take 2 = added := List.take_of_length_le hadded.le
  have hstopped : stopped.analytics.rows = Stores.empty.analytics.rows ++ (added.take 2).flatten :=
    htakes 2
  refine ⟨hvalue, hdocuments, ?_⟩
  rw [hrows, hstopped, htaken, List.length_append, hlength]

end Glasshouse.Ingest
