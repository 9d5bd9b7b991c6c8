import Glasshouse.Store.Memory

/-!
# Stores that fail on schedule

A script decides for each kind of call, in the order of the calls, whether the stores beneath are
asked and whether the call fails. A call past the end of its script passes.
-/

namespace Glasshouse.Store

/-- What is planned for one call. -/
inductive Plan where
  /-- The call reaches the store. -/
  | pass
  /-- The call fails and does not reach the store. -/
  | fail (failure : Failure)
  /-- The call reaches the store and fails all the same. -/
  | failAfter (failure : Failure)
deriving DecidableEq, Repr

/-- The plans for the calls to come. -/
structure Script where
  creates : List Plan
  merges : List Plan
  inserts : List Plan
deriving DecidableEq, Repr

namespace Script

/-- The script that lets every call pass. -/
def empty : Script :=
  ⟨[], [], []⟩

/-- One script after another. -/
def append (first second : Script) : Script :=
  ⟨first.creates ++ second.creates, first.merges ++ second.merges, first.inserts ++ second.inserts⟩

/-- The first plan, or to pass if there is none, and the plans after it. -/
def next : List Plan → Plan × List Plan
  | [] => (.pass, [])
  | plan :: plans => (plan, plans)

/-- The plan for a call and the script after it. -/
def take (script : Script) : Call → Plan × Script
  | .create _ =>
      let (plan, rest) := next script.creates
      (plan, { script with creates := rest })
  | .merge _ =>
      let (plan, rest) := next script.merges
      (plan, { script with merges := rest })
  | .insert .. =>
      let (plan, rest) := next script.inserts
      (plan, { script with inserts := rest })

end Script

/-- Stores together with the script for the calls to come. -/
structure Scripted (σ : Type) where
  stores : σ
  script : Script

/-- The behaviour of scripted stores. If a call that should fail afterwards fails by itself, that
failure is the answer. -/
def Scripted.behaviour {σ : Type} (inner : Behaviour σ) : Behaviour (Scripted σ) :=
  fun call ⟨stores, script⟩ =>
    match script.take call with
    | (.pass, script) =>
        let (answer, stores, events) := inner call stores
        (answer, ⟨stores, script⟩, events)
    | (.fail failure, script) => (.error failure, ⟨stores, script⟩, [])
    | (.failAfter failure, script) =>
        let (answer, stores, events) := inner call stores
        (answer.bind fun _ => .error failure, ⟨stores, script⟩, events)

end Glasshouse.Store
