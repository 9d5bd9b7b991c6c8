import Glasshouse.Status.Message

/-!
# Status records

A record is a report in the form in which it is dispatched: the run state of a task is a name or an
unknown number, and lists stand without their wrappers. The kind of a record decides where it is
kept.
-/

namespace Glasshouse.Status

/-- The kinds of reports. -/
inductive Kind where
  | telemetry
  | tasks
  | memory
  | outputs
  | reboot
deriving DecidableEq, Repr

namespace Kind

/-- The name of the kind in document paths. -/
def name : Kind → String
  | telemetry => "telemetry"
  | tasks => "tasks"
  | memory => "memory"
  | outputs => "outputs"
  | reboot => "reboot"

/-- All kinds. -/
def all : List Kind :=
  [telemetry, tasks, memory, outputs, reboot]

/-- Kinds have different names. -/
theorem name_injective {a b : Kind} (h : a.name = b.name) : a = b := by
  cases a <;> cases b <;> simp_all [name]

end Kind

/-- What a task is doing, as far as its number is known. -/
inductive RunState where
  | running
  | ready
  | blocked
  | suspended
  | deleted
  | unknown (code : Int32)
deriving DecidableEq, Repr

namespace RunState

/-- The run state that a number stands for; numbers past the known ones are kept. -/
def ofCode (code : Int32) : RunState :=
  if code = 0 then running
  else if code = 1 then ready
  else if code = 2 then blocked
  else if code = 3 then suspended
  else if code = 4 then deleted
  else unknown code

/-- The number that stands for a run state. -/
def code : RunState → Int32
  | running => 0
  | ready => 1
  | blocked => 2
  | suspended => 3
  | deleted => 4
  | unknown code => code

/-- No number is lost. -/
@[simp] theorem code_ofCode (n : Int32) : (ofCode n).code = n := by
  unfold ofCode
  repeat' split
  all_goals simp_all [code]

/-- The run state of a number, with unknown ones taken for the first. -/
def ofCodeOrFirst (n : Int32) : RunState :=
  match ofCode n with
  | unknown _ => running
  | known => known

end RunState

/-- A task of the device's scheduler. -/
structure Task where
  name : String
  state : RunState
  priority : UInt32
  runtime : UInt64
  stats : UInt32
  highwater : UInt32
deriving DecidableEq, Repr

/-- The task that an entry of a task list describes. -/
def Task.ofEntry (entry : TaskEntry) : Task :=
  { name := entry.name
    state := .ofCode entry.state
    priority := entry.priority
    runtime := entry.runtime
    stats := entry.stats
    highwater := entry.highwater }

/-- A report in the form in which it is dispatched. -/
inductive Record where
  | telemetry (reading : Reading)
  | tasks (tasks : List Task)
  | memory (memory : Memory)
  | outputs (groups : List OutputGroup)
  | reboot
deriving DecidableEq, Repr

namespace Record

/-- The record of a report. -/
def ofReport : Report → Record
  | .telemetry reading => telemetry reading
  | .tasks list => tasks (list.tasks.map .ofEntry)
  | .memory figures => memory figures
  | .outputs list => outputs list.groups
  | .reboot _ => reboot

/-- The kind of a record. -/
def kind : Record → Kind
  | telemetry _ => .telemetry
  | tasks _ => .tasks
  | memory _ => .memory
  | outputs _ => .outputs
  | reboot => .reboot

end Record

end Glasshouse.Status
