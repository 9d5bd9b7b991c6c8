import Glasshouse.Status.Measurements
import Glasshouse.Wire.Message

/-!
# Status messages on the wire

The messages that devices send, described field by field. A batch has two descriptions with the
same layout: as nested states, and as entries whose bytes are left alone.
-/

namespace Glasshouse.Status

open Wire Number

/-- A task of the device's scheduler; its run state is an open set of numbers. -/
structure TaskEntry where
  name : String
  state : Int32
  priority : UInt32
  runtime : UInt64
  stats : UInt32
  highwater : UInt32
deriving DecidableEq, Repr

instance : Message TaskEntry where
  name := "StateTask"
  blank := ⟨"", 0, 0, 0, 0, 0⟩
  fields := [
    .single .text 1 "name" (·.name) fun v m => { m with name := v },
    .single .int32 2 "state" (·.state) fun v m => { m with state := v },
    .single .uint32 3 "priority" (·.priority) fun v m => { m with priority := v },
    .single .uint64 4 "runtime" (·.runtime) fun v m => { m with runtime := v },
    .single .uint32 5 "stats" (·.stats) fun v m => { m with stats := v },
    .single .uint32 6 "highwater" (·.highwater) fun v m => { m with highwater := v }]

/-- The tasks of a device. -/
structure TaskList where
  tasks : List TaskEntry
deriving DecidableEq, Repr

instance : Message TaskList where
  name := "StateTasks"
  blank := ⟨[]⟩
  fields := [.messages 1 "task" (·.tasks) fun v _ => ⟨v⟩]

/-- The free memory of a device. -/
structure Memory where
  minFree : UInt32
  free : UInt32
deriving DecidableEq, Repr

instance : Message Memory where
  name := "StateMemory"
  blank := ⟨0, 0⟩
  fields := [
    .single .uint32 1 "min_free" (·.minFree) fun v m => { m with minFree := v },
    .single .uint32 2 "free" (·.free) fun v m => { m with free := v }]

instance : Message (Measurements Binary32) where
  name := "StateTelemetry"
  blank := .replicate 0
  fields := [
    .single .float 1 "temp_indoor" (·.tempIndoor) fun v m => { m with tempIndoor := v },
    .single .float 2 "temp_probe" (·.tempProbe) fun v m => { m with tempProbe := v },
    .single .float 3 "humidity" (·.humidity) fun v m => { m with humidity := v },
    .single .float 4 "pressure" (·.pressure) fun v m => { m with pressure := v },
    .single .float 5 "ec_a" (·.ecA) fun v m => { m with ecA := v },
    .single .float 6 "ec_b" (·.ecB) fun v m => { m with ecB := v },
    .single .float 7 "ph_a" (·.phA) fun v m => { m with phA := v },
    .single .float 8 "ph_b" (·.phB) fun v m => { m with phB := v },
    .single .float 9 "tank_a" (·.tankA) fun v m => { m with tankA := v },
    .single .float 10 "tank_b" (·.tankB) fun v m => { m with tankB := v }]

/-- Outputs that are switched to the same state. -/
structure OutputGroup where
  outputs : List Int32
  state : Int32
deriving DecidableEq, Repr

instance : Message OutputGroup where
  name := "StateOutput"
  blank := ⟨[], 0⟩
  fields := [
    .packed .int32 1 "output" (·.outputs) fun v m => { m with outputs := v },
    .single .int32 2 "state" (·.state) fun v m => { m with state := v }]

/-- The output groups of a device. -/
structure OutputList where
  groups : List OutputGroup
deriving DecidableEq, Repr

instance : Message OutputList where
  name := "StateOutputs"
  blank := ⟨[]⟩
  fields := [.messages 1 "output" (·.groups) fun v _ => ⟨v⟩]

/-- A mark that the device was started anew. -/
structure Reboot where
deriving DecidableEq, Repr

instance : Message Reboot where
  name := "StateReboot"
  blank := {}
  fields := []

/-- What a device reports at one time. -/
inductive Report where
  | telemetry (reading : Reading)
  | tasks (tasks : TaskList)
  | memory (memory : Memory)
  | outputs (outputs : OutputList)
  | reboot (reboot : Reboot)
deriving DecidableEq, Repr

namespace Report

/-- The telemetry of the report, if it is that. -/
def telemetry? : Report → Option Reading
  | .telemetry reading => some reading
  | _ => none

/-- The task list of the report, if it is that. -/
def tasks? : Report → Option TaskList
  | .tasks list => some list
  | _ => none

/-- The memory figures of the report, if it is that. -/
def memory? : Report → Option Memory
  | .memory figures => some figures
  | _ => none

/-- The output list of the report, if it is that. -/
def outputs? : Report → Option OutputList
  | .outputs list => some list
  | _ => none

/-- The reboot mark of the report, if it is that. -/
def reboot? : Report → Option Reboot
  | .reboot mark => some mark
  | _ => none

end Report

/-- One state of a device: its own clock and, unless the sender knows a report that this library
does not, the report. -/
structure DeviceState where
  timestamp : UInt64
  report : Option Report
deriving DecidableEq, Repr

instance : Message DeviceState where
  name := "State"
  blank := ⟨0, none⟩
  fields := [
    .single .uint64 1 "timestamp" (·.timestamp) fun v m => { m with timestamp := v },
    .variant 2 "state" (·.report.bind Report.telemetry?)
      fun v m => { m with report := some (.telemetry v) },
    .variant 3 "state" (·.report.bind Report.tasks?)
      fun v m => { m with report := some (.tasks v) },
    .variant 4 "state" (·.report.bind Report.memory?)
      fun v m => { m with report := some (.memory v) },
    .variant 5 "state" (·.report.bind Report.outputs?)
      fun v m => { m with report := some (.outputs v) },
    .variant 6 "state" (·.report.bind Report.reboot?)
      fun v m => { m with report := some (.reboot v) }]

/-- A batch as nested states. -/
structure StateBatch where
  states : List DeviceState
deriving DecidableEq, Repr

instance : Message StateBatch where
  name := "States"
  blank := ⟨[]⟩
  fields := [.messages 1 "state" (·.states) fun v _ => ⟨v⟩]

/-- The same batch with every state left as the bytes it was delivered in. -/
structure RawBatch where
  entries : List Bytes
deriving DecidableEq, Repr

instance : Message RawBatch where
  name := "EncodedStates"
  blank := ⟨[]⟩
  fields := [.repeated .bytes 1 "state" (·.entries) fun v _ => ⟨v⟩]

end Glasshouse.Status
