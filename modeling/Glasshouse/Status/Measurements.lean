import Glasshouse.Number.Binary

/-!
# The ten measurements of a glasshouse

A telemetry report carries ten measurements. They come in single precision and are kept in double
precision, so the collection is a structure over the type of its values.
-/

namespace Glasshouse.Status

open Number

/-- One value for each measured quantity. -/
structure Measurements (α : Type) where
  tempIndoor : α
  tempProbe : α
  humidity : α
  pressure : α
  ecA : α
  ecB : α
  phA : α
  phB : α
  tankA : α
  tankB : α
deriving DecidableEq, Repr

namespace Measurements

variable {α β : Type}

/-- The same value for every quantity. -/
def replicate (value : α) : Measurements α :=
  ⟨value, value, value, value, value, value, value, value, value, value⟩

/-- Applies a function to every value. -/
def map (f : α → β) (m : Measurements α) : Measurements β :=
  ⟨f m.tempIndoor, f m.tempProbe, f m.humidity, f m.pressure, f m.ecA, f m.ecB, f m.phA, f m.phB,
    f m.tankA, f m.tankB⟩

/-- The values in their fixed order. -/
def toList (m : Measurements α) : List α :=
  [m.tempIndoor, m.tempProbe, m.humidity, m.pressure, m.ecA, m.ecB, m.phA, m.phB, m.tankA, m.tankB]

/-- The names of the quantities in the order of `toList`. -/
def names : List String :=
  ["temp_indoor", "temp_probe", "humidity", "pressure", "ec_a", "ec_b", "ph_a", "ph_b", "tank_a",
    "tank_b"]

/-- The values with their names, in order. -/
def named (m : Measurements α) : List (String × α) :=
  names.zip m.toList

end Measurements

/-- The measurements as a device reports them. -/
abbrev Reading := Measurements Binary32

end Glasshouse.Status
