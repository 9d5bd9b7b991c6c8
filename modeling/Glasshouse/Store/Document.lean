import Std.Data.ExtTreeMap
import Glasshouse.Number.Binary
import Glasshouse.Store.Call

/-!
# Snapshot documents

A document maps field names to values, and a snapshot store maps paths to documents. Both are finite
maps, equal when they hold the same at every key, and listed in the order of their keys.
-/

namespace Glasshouse.Store

open Number Status Time Wire

/-- The value of a field. -/
inductive FieldValue where
  | timestamp (time : Instant)
  | number (value : Binary64)
  | bytes (content : Bytes)
  | text (content : String)
deriving DecidableEq, Repr

/-- The fields of a document by name. -/
abbrev Document := Std.ExtTreeMap String FieldValue

/-- The documents of a store by path. -/
abbrev Documents := Std.ExtTreeMap String Document

/-- The field that holds the time of a document's last write. -/
def timestampField : String := "timestamp"

/-- The field that holds the delivered bytes of a state document. -/
def dataField : String := "data"

/-- The document of a sample: its time and its ten values. -/
def Document.ofSample (sample : Sample) : Document :=
  sample.values.named.foldl (fun document (name, value) => document.insert name (.number value))
    ((∅ : Document).insert timestampField (.timestamp sample.time))

/-- A document after a state report: time and data are those of the report, and all other fields
are kept. -/
def Document.mergeReport (document : Document) (report : StateReport) : Document :=
  (document.insert timestampField (.timestamp report.time)).insert dataField (.bytes report.data)

end Glasshouse.Store
