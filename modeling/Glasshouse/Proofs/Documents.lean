import Mathlib.Data.List.Induction
import Glasshouse.Proofs.Paths
import Glasshouse.Store.Document

/-!
# Documents after calls

What a list of calls that take effect leaves of a collection of documents, path by path: the first
sample created at a telemetry path stays, and the last report merged into a state document is the
one that shows. `getElem?_afterAll` says so, and `afterAll_congr` concludes that nothing else of the
calls matters.
-/

namespace Glasshouse.Store

open Status

/-- The documents after a call that takes effect. -/
def Documents.after (documents : Documents) : Call → Documents
  | .create sample =>
      if samplePath sample ∈ documents then documents
      else documents.insert (samplePath sample) (.ofSample sample)
  | .merge report =>
      documents.insert report.path ((documents[report.path]?.getD ∅).mergeReport report)
  | .insert .. => documents

/-- The documents after calls that take effect in order. -/
def Documents.afterAll (documents : Documents) (calls : List Call) : Documents :=
  calls.foldl Documents.after documents

/-- The sample that a call creates at a path. -/
def sampleAt? (path : String) : Call → Option Sample
  | .create sample => if samplePath sample = path then some sample else none
  | _ => none

/-- The report that a call merges into the document at a path. -/
def reportAt? (path : String) : Call → Option StateReport
  | .merge report => if report.path = path then some report else none
  | _ => none

variable {documents : Documents} {call : Call} {calls others : List Call} {path : String}

/-- A report that is merged into a document sets its data and its time and nothing else. -/
theorem getElem?_mergeReport (document : Document) (report : StateReport) (name : String) :
    (document.mergeReport report)[name]? =
      if name = dataField then some (.bytes report.data)
      else if name = timestampField then some (.timestamp report.time)
      else document[name]? := by
  simp only [Document.mergeReport, Std.ExtTreeMap.getElem?_insert, Std.compare_eq_iff_eq,
    eq_comm (a := name)]

/-- A later report replaces what an earlier one wrote. -/
theorem mergeReport_mergeReport (document : Document) (first second : StateReport) :
    (document.mergeReport first).mergeReport second = document.mergeReport second := by
  ext field value
  simp only [Document.mergeReport, Std.ExtTreeMap.getElem?_insert]
  split
  · rfl
  · split <;> rfl

/-- Where a report is merged no sample is created. -/
theorem sampleAt?_of_reportAt? {report : StateReport} (h : reportAt? path call = some report)
    (other : Call) : sampleAt? path other = none := by
  cases call with
  | create _ | insert _ _ => cases h
  | merge merged =>
      simp only [reportAt?, Option.ite_none_right_eq_some] at h
      cases other with
      | merge _ | insert _ _ => rfl
      | create sample =>
          refine if_neg fun hpath => ?_
          exact telemetryPath_ne_statePath _ _ _ _ (hpath.trans h.1.symm)

/-- No report goes to a telemetry document. -/
@[simp] theorem reportAt?_telemetryPath (device : String) (second : Int) (call : Call) :
    reportAt? (telemetryPath device second) call = none := by
  cases call with
  | create _ | insert _ _ => rfl
  | merge report => exact if_neg (telemetryPath_ne_statePath _ _ _ _).symm

/-- The document at a path after one call. -/
theorem getElem?_after :
    (documents.after call)[path]? =
      match reportAt? path call with
      | some report => some ((documents[path]?.getD ∅).mergeReport report)
      | none => documents[path]?.or ((sampleAt? path call).map .ofSample) := by
  cases call with
  | insert target sample => simp [Documents.after, reportAt?, sampleAt?]
  | merge report =>
      by_cases hpath : report.path = path
      · subst hpath
        simp [Documents.after, reportAt?]
      · simp [Documents.after, reportAt?, sampleAt?, hpath, Std.ExtTreeMap.getElem?_insert]
  | create sample =>
      by_cases hpath : samplePath sample = path
      · subst hpath
        simp only [Documents.after, reportAt?, sampleAt?, if_true, Option.map_some]
        split
        · next hmem =>
            rw [Std.ExtTreeMap.getElem?_eq_some_getElem hmem]
            rfl
        · next hmem => simp [Std.ExtTreeMap.getElem?_eq_none hmem]
      · simp only [Documents.after, reportAt?, sampleAt?, hpath, if_false]
        split <;> simp [Std.ExtTreeMap.getElem?_insert, hpath]

/-- The document at a path after calls: the last report merged into it shows, and otherwise the
document that was there, or else the first sample created. -/
theorem getElem?_afterAll :
    (documents.afterAll calls)[path]? =
      match (calls.filterMap (reportAt? path)).getLast? with
      | some report => some ((documents[path]?.getD ∅).mergeReport report)
      | none =>
          documents[path]?.or ((calls.filterMap (sampleAt? path)).head?.map .ofSample) := by
  -- From the end, since a later report hides an earlier one.
  induction calls using List.reverseRecOn with
  | nil => simp [Documents.afterAll]
  | append_singleton calls call ih =>
      have hsnoc : documents.afterAll (calls ++ [call]) = (documents.afterAll calls).after call :=
        by simp [Documents.afterAll]
      rw [hsnoc, getElem?_after, ih]
      cases hreport : reportAt? path call with
      | some report =>
          -- A path of reports is no path of samples, so only reports were made here before.
          have hnone : calls.filterMap (sampleAt? path) = [] :=
            List.filterMap_eq_nil_iff.mpr fun other _ => sampleAt?_of_reportAt? hreport other
          simp only [List.filterMap_append, List.filterMap_cons, hreport, List.filterMap_nil,
            List.getLast?_concat, hnone]
          split
          · simp [mergeReport_mergeReport]
          · simp
      | none =>
          simp only [List.filterMap_append, List.filterMap_cons, hreport, List.filterMap_nil,
            List.append_nil]
          split
          · rfl
          · cases sampleAt? path call with
            | none => simp
            | some sample => rw [List.head?_append, Option.map_or, ← Option.or_assoc]; rfl

/-- A telemetry document after calls is the one that was there, or else that of the first sample. -/
theorem getElem?_afterAll_telemetryPath (device : String) (second : Int) :
    (documents.afterAll calls)[telemetryPath device second]? =
      documents[telemetryPath device second]?.or
        ((calls.filterMap (sampleAt? (telemetryPath device second))).head?.map .ofSample) := by
  have hreports : calls.filterMap (reportAt? (telemetryPath device second)) = [] :=
    List.filterMap_eq_nil_iff.mpr fun call _ => reportAt?_telemetryPath device second call
  rw [getElem?_afterAll, hreports]
  rfl

/-- Calls with the same first sample and the same last report at every path leave the same
documents. -/
theorem afterAll_congr
    (hsamples : ∀ path, (calls.filterMap (sampleAt? path)).head? =
      (others.filterMap (sampleAt? path)).head?)
    (hreports : ∀ path, (calls.filterMap (reportAt? path)).getLast? =
      (others.filterMap (reportAt? path)).getLast?) :
    documents.afterAll calls = documents.afterAll others := by
  refine Std.ExtTreeMap.ext_getElem? fun path => ?_
  rw [getElem?_afterAll, getElem?_afterAll, hsamples path, hreports path]

end Glasshouse.Store
