import Glasshouse.Ingest.Schedule
import Glasshouse.Proofs.Memory

/-!
# Schedules on stores in memory

What a schedule does to stores in memory is what its calls do one after the other, whoever makes
them. And a program that has not ended can always make a call, so a schedule that cannot be
continued has run all programs to their ends.
-/

namespace Glasshouse.Ingest

open Store

/-- The calls of a schedule in their order. -/
def requestsOf (trace : List (Nat × Exchange)) : List Call :=
  trace.map fun (_, request, _) => request

variable {α σ : Type} {stores stores' : Stores}

namespace Program

variable {program program' : Program α} {request : Call} {answer : Answer} {exchange : Exchange}

/-- The answer that stores in memory give, and the stores after it. -/
theorem perform_of_behaviour {events : List LogEvent}
    (h : Stores.behaviour request stores = (answer, stores', events)) :
    stores.perform request = (answer, stores') := by
  rcases hperform : stores.perform request with ⟨given, after⟩
  simp only [Stores.behaviour, hperform, Prod.mk.injEq] at h
  rw [h.1, h.2.1]

/-- A step performs its call. -/
theorem Step.perform_eq
    (h : program.Step Stores.behaviour stores exchange program' stores') :
    stores.perform exchange.1 = (exchange.2, stores') := by
  induction h with
  | emit _ ih => exact ih
  | call hcall => exact perform_of_behaviour hcall
  | joinFirst hcall => exact perform_of_behaviour hcall
  | joinSecond hcall => exact perform_of_behaviour hcall

/-- A program that has not ended can make a call, whatever the stores. -/
theorem exists_step (stores : Behaviour σ) {program : Program α} (h : program.value? = none)
    (state : σ) :
    ∃ exchange program' state', program.Step stores state exchange program' state' := by
  induction program with
  | done value => cases h
  | emit event rest ih =>
      obtain ⟨exchange, rest', state', hrest⟩ := ih h
      exact ⟨exchange, rest', state', .emit hrest⟩
  | call request next => exact ⟨_, _, _, .call rfl⟩
  | join first second next => exact ⟨_, _, _, .joinFirst rfl⟩

end Program

/-- A schedule leaves the stores that its calls leave. -/
theorem Interleaving.stores_eq {pool pool' : List (Program α)} {trace : List (Nat × Exchange)}
    (h : Interleaving Stores.behaviour pool stores trace pool' stores') :
    stores' = stores.performEach (requestsOf trace) := by
  induction h with
  | refl => rfl
  | @step _ _ stores middle _ _ _ _ exchange trace _ hstep _ ih =>
      have hmiddle : (stores.perform exchange.1).2 = middle := congrArg Prod.snd hstep.perform_eq
      rw [ih, ← hmiddle]
      rfl

/-- The programs of a pool have all ended, or one of them has not. -/
theorem ended_or_unended {α : Type} (pool : List (Program α)) :
    (∃ values, pool.mapM Program.value? = some values) ∨
      ∃ (place : Nat) (program : Program α),
        pool[place]? = some program ∧ program.value? = none := by
  induction pool with
  | nil => exact Or.inl ⟨[], rfl⟩
  | cons program pool ih =>
      cases hvalue : program.value? with
      | none => exact Or.inr ⟨0, program, rfl, hvalue⟩
      | some value =>
          rcases ih with ⟨values, hvalues⟩ | ⟨place, other, hplace, hother⟩
          · exact Or.inl ⟨value :: values, by simp [List.mapM_cons, hvalue, hvalues]⟩
          · exact Or.inr ⟨place + 1, other, hplace, hother⟩

/-- Programs that have fewer calls left after each call can be run to their ends. -/
theorem exists_runsTogether_of_fewer {stores : Behaviour σ}
    {left : Nat → List (Program α) → σ → Prop}
    (hfewer : ∀ {n pool state place program exchange program' state'}, left n pool state →
      pool[place]? = some program → program.Step stores state exchange program' state' →
      ∃ m < n, left m (pool.set place program') state')
    {n : Nat} {pool : List (Program α)} {state : σ} (h : left n pool state) :
    ∃ trace values final, RunsTogether stores pool state trace values final := by
  induction n using Nat.strongRecOn generalizing pool state with
  | ind n ih =>
      rcases ended_or_unended pool with ⟨values, hvalues⟩ | ⟨place, program, hplace, hvalue⟩
      · exact ⟨[], values, state, pool, .refl, hvalues⟩
      · obtain ⟨exchange, program', middle, hstep⟩ := Program.exists_step stores hvalue state
        obtain ⟨m, hm, hnext⟩ := hfewer h hplace hstep
        obtain ⟨trace, values, final, ended, hrest, hvalues⟩ := ih m hm hnext
        exact ⟨_, values, final, ended, .step hplace hstep hrest, hvalues⟩

end Glasshouse.Ingest
