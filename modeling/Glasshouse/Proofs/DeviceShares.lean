import Glasshouse.Proofs.Memory

/-!
# What stores hold for one device

Every path names one device, whatever the device id contains, and so does every row. What stores
hold under one device is the share of that device; it comprises the switches, which are for all. A
call on behalf of a device sees and changes the share of this device only: `share_perform_congr` and
`share_perform_of_ne`.
-/

namespace Glasshouse.Store

open Status

/-! ## Paths and devices -/

/-- A path without its last slash and what is behind it. -/
def folderOf (path : List Char) : List Char :=
  (path.reverse.dropWhile (· ≠ '/')).tail.reverse

/-- The device that a path names, between the first slash and the last but one. -/
def pathDevice (path : String) : String :=
  String.ofList ((folderOf (folderOf path.toList)).drop "devices/".toList.length)

/-- What is in front of a name without slashes. -/
theorem folderOf_append_slash (stem : List Char) {name : List Char} (hname : '/' ∉ name) :
    folderOf (stem ++ '/' :: name) = stem := by
  have hskipped : ∀ letter ∈ name.reverse, decide (letter ≠ '/') = true := by
    intro letter hmem
    rw [decide_eq_true_iff]
    rintro rfl
    exact hname (List.mem_reverse.mp hmem)
  have hreverse : (stem ++ '/' :: name).reverse = name.reverse ++ '/' :: stem.reverse := by simp
  rw [folderOf, hreverse, List.dropWhile_append_of_pos hskipped,
    List.dropWhile_cons_of_neg (by decide), List.tail_cons, List.reverse_reverse]

/-- What stands between the first folder and the last two names is the device. -/
theorem pathDevice_of_toList {path device : String} {folder name : List Char}
    (hfolder : '/' ∉ folder) (hname : '/' ∉ name)
    (h : path.toList = "devices/".toList ++ device.toList ++ '/' :: folder ++ '/' :: name) :
    pathDevice path = device := by
  rw [pathDevice, h, folderOf_append_slash _ hname, folderOf_append_slash _ hfolder,
    List.drop_left, String.ofList_toList]

/-- A telemetry path names its device. -/
@[simp] theorem pathDevice_telemetryPath (device : String) (second : Int) :
    pathDevice (telemetryPath device second) = device := by
  have hfolder : '/' ∉ "telemetry".toList := by decide
  refine pathDevice_of_toList hfolder (slash_not_mem_toString second) ?_
  have htext : "/telemetry/".toList = '/' :: "telemetry".toList ++ ['/'] := rfl
  rw [telemetryPath, String.toList_append, String.toList_append, String.toList_append, htext]
  simp

/-- A state path names its device. -/
@[simp] theorem pathDevice_statePath (device : String) (kind : Kind) :
    pathDevice (statePath device kind) = device := by
  have hfolder : '/' ∉ "state".toList := by decide
  refine pathDevice_of_toList hfolder (slash_not_mem_name kind) ?_
  have htext : "/state/".toList = '/' :: "state".toList ++ ['/'] := rfl
  rw [statePath, String.toList_append, String.toList_append, String.toList_append, htext]
  simp

/-! ## Calls and devices -/

/-- The device on whose behalf a call is made. -/
def Call.device : Call → String
  | .create sample => sample.device
  | .merge report => report.device
  | .insert _ sample => sample.device

/-- The path that a call writes, if it is answered with success. -/
def writtenPath? : Call → Answer → Option String
  | .create sample, .ok _ => some (samplePath sample)
  | .merge report, .ok _ => some report.path
  | _, _ => none

variable {call : Call} {path : String}

/-- A call writes to paths of its device. -/
theorem pathDevice_of_writtenPath? {answer : Answer} (h : writtenPath? call answer = some path) :
    pathDevice path = call.device := by
  unfold writtenPath? at h
  split at h
  · cases h
    exact pathDevice_telemetryPath _ _
  · cases h
    exact pathDevice_statePath _ _
  · cases h

/-- A call leaves documents at paths of other devices alone. -/
theorem getElem?_after_of_ne (documents : Documents) (h : pathDevice path ≠ call.device) :
    (documents.after call)[path]? = documents[path]? := by
  have hsample : sampleAt? path call = none := by
    cases call with
    | merge _ | insert _ _ => rfl
    | create sample =>
        refine if_neg ?_
        rintro rfl
        exact h (pathDevice_telemetryPath _ _)
  have hreport : reportAt? path call = none := by
    cases call with
    | create _ | insert _ _ => rfl
    | merge report =>
        refine if_neg ?_
        rintro rfl
        exact h (pathDevice_statePath _ _)
  rw [getElem?_after, hsample, hreport]
  exact Option.or_none

/-- The journal after a call ends with the path that it wrote. -/
theorem Stores.journal_perform_eq (stores : Stores) (call : Call) :
    (stores.perform call).2.snapshots.journal =
      stores.snapshots.journal ++ (writtenPath? call (stores.perform call).1).toList := by
  cases call with
  | insert target sample =>
      simp [perform, writtenPath?]
  | create sample =>
      simp only [perform, SnapshotMemory.create]
      split <;> simp [writtenPath?]
  | merge report =>
      simp only [perform, SnapshotMemory.merge]
      split <;> simp [writtenPath?]

/-! ## Shares -/

/-- What stores hold for one device, and the switches. -/
structure Share where
  documents : String → Option Document
  journal : List String
  rows : List (Target × Sample)
  mergesOffline : Bool
  refusal : Option String

/-- The share of a device in stores. -/
def Stores.share (device : String) (stores : Stores) : Share where
  documents path := if pathDevice path = device then stores.snapshots.documents[path]? else none
  journal := stores.snapshots.journal.filter (pathDevice · = device)
  rows := stores.analytics.rows.filter (·.2.device = device)
  mergesOffline := stores.snapshots.mergesOffline
  refusal := stores.analytics.refusal

variable {device : String} {stores stores' : Stores}

/-- The documents of a device are in its share. -/
theorem Stores.getElem?_eq_of_share_eq (h : stores.share device = stores'.share device)
    (hpath : pathDevice path = device) :
    stores.snapshots.documents[path]? = stores'.snapshots.documents[path]? := by
  have hshare := congrFun (congrArg Share.documents h) path
  simpa [Stores.share, hpath] using hshare

/-- All shares together hold all documents. -/
theorem Stores.documents_eq_of_share_eq
    (h : ∀ device, stores.share device = stores'.share device) :
    stores.snapshots.documents = stores'.snapshots.documents :=
  Std.ExtTreeMap.ext_getElem? fun path => getElem?_eq_of_share_eq (h (pathDevice path)) rfl

/-- Stores in which a device has the same share answer its calls alike. -/
theorem answer_eq_of_share_eq (h : stores.share call.device = stores'.share call.device) :
    (stores.perform call).1 = (stores'.perform call).1 := by
  cases call with
  | create sample =>
      have hdocument := Stores.getElem?_eq_of_share_eq h (pathDevice_telemetryPath _ sample.second)
      have hmem : samplePath sample ∈ stores.snapshots.documents ↔
          samplePath sample ∈ stores'.snapshots.documents := by
        simp only [Std.ExtTreeMap.mem_iff_isSome_getElem?]
        exact iff_of_eq (congrArg (·.isSome = true) hdocument)
      simp only [Stores.perform, SnapshotMemory.create, hmem]
      split <;> rfl
  | merge report =>
      have honline : stores.snapshots.mergesOffline = stores'.snapshots.mergesOffline :=
        congrArg Share.mergesOffline h
      simp only [Stores.perform, SnapshotMemory.merge, honline]
      split <;> rfl
  | insert target sample =>
      have hrefusal : stores.analytics.refusal = stores'.analytics.refusal :=
        congrArg Share.refusal h
      simp only [Stores.perform, AnalyticsMemory.insert, hrefusal]
      split <;> rfl

/-- A call leaves stores in which its device has the same share again. -/
theorem share_perform_congr (h : stores.share call.device = stores'.share call.device) :
    (stores.perform call).2.share call.device = (stores'.perform call).2.share call.device := by
  have honline : stores.snapshots.mergesOffline = stores'.snapshots.mergesOffline :=
    congrArg Share.mergesOffline h
  have hrefusal : stores.analytics.refusal = stores'.analytics.refusal := congrArg Share.refusal h
  have hjournal := congrArg Share.journal h
  have hrows := congrArg Share.rows h
  simp only [Stores.share] at hjournal hrows
  simp only [Stores.share, Share.mk.injEq, Stores.journal_perform_eq, Stores.rows_perform,
    Stores.mergesOffline_perform, Stores.refusal_perform, List.filter_append, hjournal, hrows,
    answer_eq_of_share_eq h, honline, hrefusal, and_true]
  funext path
  split
  · next hpath =>
      have hdocument := Stores.getElem?_eq_of_share_eq h hpath
      rw [Stores.documents_perform, Stores.documents_perform, honline]
      split
      · rw [getElem?_after, getElem?_after, hdocument]
      · exact hdocument
  · rfl

/-- A call leaves the shares of other devices alone. -/
theorem share_perform_of_ne (h : call.device ≠ device) :
    (stores.perform call).2.share device = stores.share device := by
  have hjournal : (writtenPath? call (stores.perform call).1).toList.filter
      (pathDevice · = device) = [] := by
    rw [List.filter_eq_nil_iff]
    intro path hpath
    rw [Option.mem_toList] at hpath
    simpa [pathDevice_of_writtenPath? hpath] using h
  have hrows : (rowOf? call).toList.filter (·.2.device = device) = [] := by
    cases call with
    | create _ | merge _ => rfl
    | insert target sample => simpa [rowOf?, Call.device] using h
  simp only [Stores.share, Share.mk.injEq, Stores.journal_perform_eq, Stores.rows_perform,
    Stores.mergesOffline_perform, Stores.refusal_perform, List.filter_append, hjournal,
    List.append_nil, and_true, true_and]
  refine ⟨funext fun path => ?_, ?_⟩
  · split
    · next hpath =>
        rw [Stores.documents_perform]
        split
        · exact getElem?_after_of_ne _ (hpath ▸ h.symm)
        · rfl
    · rfl
  · split
    · rw [hrows, List.append_nil]
    · rw [List.filter_nil, List.append_nil]

end Glasshouse.Store
