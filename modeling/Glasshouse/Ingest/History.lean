import Glasshouse.Ingest.Settlement
import Glasshouse.Store.Memory

/-!
# Histories

Everything that can happen to stores in memory, as a list of actions: single calls, fields that
another writer sets, switches, and programs that one dispatcher runs. A history leaves stores and a
list of effects, in order; the effects say what a field was last set to.
-/

namespace Glasshouse.Ingest

open Store

/-- One thing that happens to stores. -/
inductive Action where
  /-- A single call is made. -/
  | call (request : Call)
  /-- Another writer sets a field. -/
  | seed (path name : String) (value : FieldValue)
  /-- Merges are taken offline or brought back. -/
  | setMergesOffline (offline : Bool)
  /-- Rows are refused for a reason, or taken again. -/
  | setRefusal (reason : Option String)
  /-- An envelope is dispatched as a whole. -/
  | dispatch (envelope : Envelope)
  /-- An envelope is dispatched from an entry on. -/
  | dispatchFrom (envelope : Envelope) (start : Nat)
  /-- An envelope is ingested. -/
  | ingest (envelope : Envelope)
deriving DecidableEq, Repr

/-- What an action did to the stores. -/
inductive Effect where
  /-- A call was made and answered. -/
  | answered (call : Call) (answer : Answer)
  /-- A field was set by another writer. -/
  | seeded (path name : String) (value : FieldValue)

/-- The stores and the effects that a program leaves. -/
def Program.effects {α : Type} (program : Program α) (stores : Stores) : Stores × List Effect :=
  let run := program.run Stores.behaviour stores
  (run.state, run.calls.map fun (request, answer) => .answered request answer)

/-- The stores after an action, and its effects. -/
def Action.apply (settings : Settings) (stores : Stores) : Action → Stores × List Effect
  | call request => (Program.perform request).effects stores
  | seed path name value => (stores.seedField path name value, [.seeded path name value])
  | setMergesOffline offline => (stores.setMergesOffline offline, [])
  | setRefusal reason => (stores.setRefusal reason, [])
  | dispatch envelope => (Ingest.dispatch settings envelope).effects stores
  | dispatchFrom envelope start => (Ingest.dispatchFrom settings envelope start).effects stores
  | ingest envelope => (Ingest.ingest settings envelope).effects stores

namespace Action

/-- The action sets a switch. -/
def isSwitch : Action → Bool
  | setMergesOffline _ | setRefusal _ => true
  | _ => false

/-- The action runs a program of the dispatcher. -/
def isDispatch : Action → Bool
  | dispatch _ | dispatchFrom .. | ingest _ => true
  | _ => false

end Action

/-- Actions in the order in which they happen. -/
abbrev History := List Action

namespace History

/-- The stores after a history, and its effects in order. -/
def run (settings : Settings) (stores : Stores) : History → Stores × List Effect
  | [] => (stores, [])
  | action :: actions =>
      let (stores, effects) := action.apply settings stores
      let (stores, others) := run settings stores actions
      (stores, effects ++ others)

/-- What every action keeps, a history keeps. -/
theorem run_invariant (settings : Settings) (kept : Stores → Prop) {history : History}
    (hkept : ∀ action ∈ history, ∀ stores, kept stores → kept (action.apply settings stores).1)
    {stores : Stores} (h : kept stores) : kept (run settings stores history).1 := by
  induction history generalizing stores with
  | nil => exact h
  | cons action actions ih =>
    have first := hkept action List.mem_cons_self stores h
    exact ih (fun other member => hkept other (List.mem_cons_of_mem _ member)) first

end History

namespace Effect

/-- What an effect sets a field to, if it sets it: a merge that succeeded sets the time and the data
of its document. -/
def written? (path name : String) : Effect → Option FieldValue
  | seeded otherPath otherName value =>
      if otherPath = path ∧ otherName = name then some value else none
  | answered (.merge report) (.ok ()) =>
      if report.path = path then
        if name = timestampField then some (.timestamp report.time)
        else if name = dataField then some (.bytes report.data)
        else none
      else none
  | answered .. => none

/-- What the last of the effects that set a field sets it to. -/
def lastWritten? (effects : List Effect) (path name : String) : Option FieldValue :=
  effects.reverse.findSome? (written? path name)

end Effect

end Glasshouse.Ingest
