import Glasshouse.Analytics.Identifier
import Glasshouse.Analytics.Row
import Glasshouse.Analytics.Template
import Glasshouse.Store.Call

/-!
# Statements of the analytics database

The analytics store is a column database. Five statements are sent to it: a probe, the dataset and
the table to be created if they do not exist, a question about the columns of a table, and rows to
be appended.
-/

namespace Glasshouse.Analytics

open Status Store

/-- The type of a column. -/
inductive ColumnType where
  | text
  | second
  | double
deriving DecidableEq, Repr

/-- The name of a type in statements. -/
def ColumnType.name : ColumnType → String
  | text => "String"
  | second => "DateTime('UTC')"
  | double => "Float64"

/-- The columns of the telemetry table with their types, in order. -/
def typedColumns : List (String × ColumnType) :=
  (deviceColumn, .text) :: (timeColumn, .second) :: valueColumns.map fun name => (name, .double)

/-- One statement to the database. -/
inductive Statement where
  | probe
  | createDataset (target : Target)
  | createTable (target : Target)
  /-- Asks for the columns of a table. -/
  | describe (target : Target)
  /-- Appends a row. -/
  | insert (target : Target) (row : Row)
deriving DecidableEq, Repr

/-- The definition of the telemetry table's columns. -/
def columnDefinitions : String :=
  ", ".intercalate (typedColumns.map fun (name, type) => name ++ " " ++ type.name)

/-- A table's name where the dataset is given apart: it is quoted, and what results is quoted once
more as a name. -/
def tableReference (target : Target) : String :=
  clientQuote (quote target.table)

namespace Statement

/-- The text of a statement. -/
def sql : Statement → String
  | probe => "SELECT 1"
  | createDataset target => "CREATE DATABASE IF NOT EXISTS " ++ quote target.dataset
  | createTable target =>
      "CREATE TABLE IF NOT EXISTS " ++ quote target.dataset ++ "." ++ quote target.table ++ " ( "
        ++ columnDefinitions ++ " ) ENGINE = MergeTree ORDER BY (device_id, time)"
  | describe target => "DESCRIBE TABLE " ++ tableReference target
  | insert target _ =>
      "INSERT INTO " ++ tableReference target ++ "(" ++ ",".intercalate (columns.map quote)
        ++ ") FORMAT RowBinaryWithNamesAndTypes"

/-- The text that is sent for a statement, or the placeholder for which it is not sent. The
statements of an insertion are put together by the client library, which takes the table's name for
a value and not for a template. -/
def sentText : Statement → Except Placeholder String
  | describe target => .ok (describe target).sql
  | insert target row => .ok (insert target row).sql
  | query => (Template.expand query.sql.toList).map String.ofList

/-- A statement without a question mark is sent as it is. -/
theorem sentText_of_notMem {statement : Statement} (h : '?' ∉ statement.sql.toList) :
    statement.sentText = .ok statement.sql := by
  have hexpand : (Template.expand statement.sql.toList).map String.ofList = .ok statement.sql := by
    rw [Template.expand_of_notMem h, Except.map, String.ofList_toList]
  cases statement with
  | probe => exact hexpand
  | createDataset target => exact hexpand
  | createTable target => exact hexpand
  | describe target => rfl
  | insert target row => rfl

/-- The dataset that a statement is sent for, where its text does not name one. -/
def dataset? : Statement → Option String
  | describe target | insert target _ => some target.dataset
  | _ => none

end Statement

end Glasshouse.Analytics
