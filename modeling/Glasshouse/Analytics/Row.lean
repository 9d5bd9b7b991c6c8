import Glasshouse.Status.Sample
import Glasshouse.Time.Calendar

/-!
# Telemetry rows

A sample becomes one row of the analytics table: the device, the second, and the ten values under
column names of the table's own. Seconds are kept in 32 bits; a time outside them has no row.
-/

namespace Glasshouse.Analytics

open Number Status Time

/-- One row of the telemetry table. -/
structure Row where
  device : String
  time : UInt32
  values : Measurements Binary64
deriving DecidableEq, Repr

/-- The column of the device. -/
def deviceColumn : String := "device_id"

/-- The column of the second. -/
def timeColumn : String := "time"

/-- The columns of the values, in the order of the measurements. -/
def valueColumns : List String :=
  ["temp_indoor", "temp_probe", "humidity", "pressure", "eca_value", "ecb_value", "pha_value",
    "phb_value", "tanka_value", "tankb_value"]

/-- All columns in order. -/
def columns : List String :=
  deviceColumn :: timeColumn :: valueColumns

/-- The text about a time that has no row. -/
def unrepresentable (time : Instant) : String :=
  time.text ++ " cannot be represented as DateTime"

/-- The row of a sample. -/
def Row.ofSample (sample : Sample) : Except String Row :=
  if 0 ≤ sample.second ∧ sample.second < Int.pow 2 32 then
    .ok ⟨sample.device, UInt32.ofNat sample.second.toNat, sample.values⟩
  else .error (unrepresentable sample.time)

end Glasshouse.Analytics
