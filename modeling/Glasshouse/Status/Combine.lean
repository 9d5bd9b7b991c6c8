import Glasshouse.Status.Message

/-!
# Combining states

What the wire format does to states: a negative zero is not written, so it is read back as the
positive one, and of two states that are written one after the other the second has the last word
on every value that it sets, while lists are joined.
-/

namespace Glasshouse.Status

open Number

/-! ## Positive zeros -/

/-- The reading with every negative zero replaced. -/
def Reading.positiveZeros (reading : Reading) : Reading :=
  reading.map Binary32.positiveZero

/-- The report with every negative zero replaced. -/
def Report.positiveZeros : Report → Report
  | .telemetry reading => .telemetry (Reading.positiveZeros reading)
  | report => report

/-- The state with every negative zero replaced. -/
def DeviceState.positiveZeros (state : DeviceState) : DeviceState :=
  { state with report := state.report.map Report.positiveZeros }

/-- The batch with every negative zero replaced. -/
def StateBatch.positiveZeros (batch : StateBatch) : StateBatch :=
  ⟨batch.states.map DeviceState.positiveZeros⟩

/-! ## One after the other -/

/-- The second value, unless it is the one that stands for an unset field. -/
def orElse {α : Type} (isUnset : α → Bool) (first second : α) : α :=
  if isUnset second then first else second

/-- Two readings, value by value. -/
def Reading.combine (first second : Reading) : Reading :=
  let pick := orElse Binary32.isZero
  ⟨pick first.tempIndoor second.tempIndoor, pick first.tempProbe second.tempProbe,
    pick first.humidity second.humidity, pick first.pressure second.pressure,
    pick first.ecA second.ecA, pick first.ecB second.ecB, pick first.phA second.phA,
    pick first.phB second.phB, pick first.tankA second.tankA, pick first.tankB second.tankB⟩

/-- Two figures of the free memory, value by value. -/
def Memory.combine (first second : Memory) : Memory :=
  ⟨orElse (· == 0) first.minFree second.minFree, orElse (· == 0) first.free second.free⟩

/-- Two reports: reports of one kind are combined, and a report of another kind replaces the one
before it. -/
def Report.combine : Report → Report → Report
  | .telemetry first, .telemetry second => .telemetry (first.combine second)
  | .tasks first, .tasks second => .tasks ⟨first.tasks ++ second.tasks⟩
  | .memory first, .memory second => .memory (first.combine second)
  | .outputs first, .outputs second => .outputs ⟨first.groups ++ second.groups⟩
  | _, second => second

/-- Two states. -/
def DeviceState.combine (first second : DeviceState) : DeviceState where
  timestamp := orElse (· == 0) first.timestamp second.timestamp
  report :=
    match first.report, second.report with
    | report, none => report
    | none, report => report
    | some first, some second => some (first.combine second)

/-! ## Combining with blank values and positive zeros -/

/-- A number is what it is when the first one is unset. -/
theorem orElse_zero {α : Type} [DecidableEq α] [OfNat α 0] (second : α) :
    orElse (· == 0) 0 second = second := by
  unfold orElse
  split
  · next h => exact (eq_of_beq h).symm
  · rfl

/-- A second negative zero is as unset as the positive one. -/
theorem orElse_positiveZero (first second : Binary32) :
    orElse Binary32.isZero first second.positiveZero = orElse Binary32.isZero first second := by
  unfold orElse Binary32.positiveZero
  by_cases hzero : second.isZero
  · rw [if_pos hzero, if_pos hzero]
    rfl
  · rw [if_neg hzero, if_neg hzero]

/-- A first negative zero can be replaced before or after. -/
theorem positiveZero_orElse (first second : Binary32) :
    orElse Binary32.isZero first.positiveZero second =
      (orElse Binary32.isZero first second).positiveZero := by
  unfold orElse
  split
  · rfl
  · next hzero => rw [Binary32.positiveZero, if_neg hzero]

/-- Negative zeros of the second reading make no difference. -/
@[simp] theorem Reading.combine_positiveZeros (first second : Reading) :
    first.combine second.positiveZeros = first.combine second := by
  simp only [combine, positiveZeros, Measurements.map, orElse_positiveZero]

/-- Negative zeros of the first reading can be replaced before or after. -/
theorem Reading.positiveZeros_combine (first second : Reading) :
    Reading.combine first.positiveZeros second = (first.combine second).positiveZeros := by
  simp only [combine, positiveZeros, Measurements.map, positiveZero_orElse]

/-- Figures of the memory are what they are behind unset ones. -/
theorem Memory.blank_combine (second : Memory) : Memory.combine ⟨0, 0⟩ second = second := by
  simp only [combine, orElse_zero]

/-- A state is what it is behind an unset one. -/
theorem DeviceState.blank_combine (second : DeviceState) :
    DeviceState.combine ⟨0, none⟩ second = second := by
  obtain ⟨timestamp, report⟩ := second
  cases report <;> simp only [combine, orElse_zero]

/-- Negative zeros of two states can be replaced before or after they are combined. -/
theorem DeviceState.positiveZeros_combine (first second : DeviceState) :
    first.positiveZeros.combine second.positiveZeros = (first.combine second).positiveZeros := by
  obtain ⟨timestamp, report⟩ := first
  obtain ⟨timestamp', report'⟩ := second
  cases report with
  | none => cases report' <;> rfl
  | some report =>
      cases report' with
      | none => rfl
      | some report' =>
          cases report <;> cases report' <;>
            simp [combine, positiveZeros, Report.combine, Report.positiveZeros,
              Reading.positiveZeros_combine]

end Glasshouse.Status
