import Glasshouse.Store.Document

/-!
# Stores in memory

The reference stores. The snapshot store keeps its documents and a journal of the paths written, in
order. The analytics store keeps its rows in order and does not look for duplicates. Each has one
switch that makes it fail: merges can be taken offline, and rows can be refused for a reason.
-/

namespace Glasshouse.Store

open Status

/-- Documents in memory. -/
structure SnapshotMemory where
  documents : Documents
  journal : List String
  mergesOffline : Bool

/-- Rows in memory. -/
structure AnalyticsMemory where
  rows : List (Target × Sample)
  refusal : Option String

namespace SnapshotMemory

/-- A store without documents. -/
def empty : SnapshotMemory :=
  ⟨∅, [], false⟩

/-- Creates the document of a sample, unless there is one at its path. -/
def create (store : SnapshotMemory) (sample : Sample) : Answer × SnapshotMemory :=
  let path := samplePath sample
  if path ∈ store.documents then (.error (.snapshotConflict path), store)
  else (.ok (), { store with
    documents := store.documents.insert path (.ofSample sample)
    journal := store.journal ++ [path] })

/-- Merges a report into its state document, which need not exist. -/
def merge (store : SnapshotMemory) (report : StateReport) : Answer × SnapshotMemory :=
  let path := report.path
  if store.mergesOffline then
    (.error (.snapshotUnavailable ("merge into " ++ path ++ " failed: store offline")), store)
  else (.ok (), { store with
    documents := store.documents.insert path ((store.documents[path]?.getD ∅).mergeReport report)
    journal := store.journal ++ [path] })

/-- Sets one field of a document, as another writer to the same store would. -/
def seedField (store : SnapshotMemory) (path name : String) (value : FieldValue) :
    SnapshotMemory :=
  { store with
    documents := store.documents.insert path ((store.documents[path]?.getD ∅).insert name value) }

end SnapshotMemory

namespace AnalyticsMemory

/-- A store without rows. -/
def empty : AnalyticsMemory :=
  ⟨[], none⟩

/-- The text about a row that was refused. -/
def rowError (sample : Sample) (reason : String) : String :=
  "device_id=" ++ sample.device ++ " time=" ++ toString sample.second ++ ": " ++ reason

/-- The failure of a table that refuses the row of a sample. -/
def rejection (target : Target) (sample : Sample) (reason : String) : Failure :=
  .analyticsRejected target.qualified reason [rowError sample reason]

/-- Appends a row, unless rows are refused. -/
def insert (store : AnalyticsMemory) (target : Target) (sample : Sample) :
    Answer × AnalyticsMemory :=
  match store.refusal with
  | some reason => (.error (rejection target sample reason), store)
  | none => (.ok (), { store with rows := store.rows ++ [(target, sample)] })

end AnalyticsMemory

/-- Both stores in memory. -/
structure Stores where
  snapshots : SnapshotMemory
  analytics : AnalyticsMemory

namespace Stores

/-- Stores without content. -/
def empty : Stores :=
  ⟨.empty, .empty⟩

/-- The answer to a call and the stores after it. -/
def perform (stores : Stores) : Call → Answer × Stores
  | .create sample =>
      let (answer, snapshots) := stores.snapshots.create sample
      (answer, { stores with snapshots := snapshots })
  | .merge report =>
      let (answer, snapshots) := stores.snapshots.merge report
      (answer, { stores with snapshots := snapshots })
  | .insert target sample =>
      let (answer, analytics) := stores.analytics.insert target sample
      (answer, { stores with analytics := analytics })

/-- The behaviour of the stores in memory, which log nothing. -/
def behaviour : Behaviour Stores := fun call stores =>
  let (answer, stores) := stores.perform call
  (answer, stores, [])

/-- Takes merges offline or brings them back. -/
def setMergesOffline (stores : Stores) (offline : Bool) : Stores :=
  { stores with snapshots := { stores.snapshots with mergesOffline := offline } }

/-- Refuses rows for a reason, or takes them again. -/
def setRefusal (stores : Stores) (reason : Option String) : Stores :=
  { stores with analytics := { stores.analytics with refusal := reason } }

/-- Sets one field of a document, as another writer to the same store would. -/
def seedField (stores : Stores) (path name : String) (value : FieldValue) : Stores :=
  { stores with snapshots := stores.snapshots.seedField path name value }

end Stores

end Glasshouse.Store
