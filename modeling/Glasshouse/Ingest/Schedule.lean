import Glasshouse.Ingest.Program

/-!
# Schedules of store calls

Programs that run at the same time share their stores, and each call takes effect as a whole. A
schedule picks, step by step, the program whose call is next; of two joined calls either can be
picked. `Program.Step` is one such call, and `Interleaving` a finite number of them on a pool of
programs.
-/

namespace Glasshouse.Ingest

open Store

/-- A call together with its answer. -/
abbrev Exchange := Call × Answer

namespace Program

variable {α σ : Type}

/-- The value of a program that has no call left to make. -/
def value? : Program α → Option α
  | done value => some value
  | emit _ rest => rest.value?
  | call .. | join .. => none

/-- The next call of a program takes effect. Events on the way to it are passed over, and after one
of two joined calls the program waits for the other. -/
inductive Step (stores : Behaviour σ) :
    Program α → σ → Exchange → Program α → σ → Prop where
  | emit {event : LogEvent} {rest rest' : Program α} {state state' : σ} {exchange : Exchange}
      (hrest : Step stores rest state exchange rest' state') :
      Step stores (.emit event rest) state exchange rest' state'
  | call {request : Call} {next : Answer → Program α} {state state' : σ} {answer : Answer}
      {events : List LogEvent} (hcall : stores request state = (answer, state', events)) :
      Step stores (.call request next) state (request, answer) (next answer) state'
  | joinFirst {first second : Call} {next : Answer → Answer → Program α} {state state' : σ}
      {answer : Answer} {events : List LogEvent}
      (hcall : stores first state = (answer, state', events)) :
      Step stores (.join first second next) state (first, answer)
        (.call second fun other => next answer other) state'
  | joinSecond {first second : Call} {next : Answer → Answer → Program α} {state state' : σ}
      {other : Answer} {events : List LogEvent}
      (hcall : stores second state = (other, state', events)) :
      Step stores (.join first second next) state (second, other)
        (.call first fun answer => next answer other) state'

end Program

variable {α σ : Type}

/-- Finitely many calls by the programs of a pool, in the order in which they take effect, each with
the place of the program that makes it. -/
inductive Interleaving (stores : Behaviour σ) :
    List (Program α) → σ → List (Nat × Exchange) → List (Program α) → σ → Prop where
  | refl {pool : List (Program α)} {state : σ} : Interleaving stores pool state [] pool state
  | step {pool pool' : List (Program α)} {state middle state' : σ} {place : Nat}
      {program program' : Program α} {exchange : Exchange} {trace : List (Nat × Exchange)}
      (hplace : pool[place]? = some program)
      (hstep : program.Step stores state exchange program' middle)
      (hrest : Interleaving stores (pool.set place program') middle trace pool' state') :
      Interleaving stores pool state ((place, exchange) :: trace) pool' state'

/-- A run of all programs of a pool to their ends. -/
def RunsTogether (stores : Behaviour σ) (pool : List (Program α)) (state : σ)
    (trace : List (Nat × Exchange)) (values : List α) (state' : σ) : Prop :=
  ∃ ended, Interleaving stores pool state trace ended state' ∧
    ended.mapM Program.value? = some values

/-- Schedules can be put one after the other. -/
theorem Interleaving.trans {stores : Behaviour σ} {pool pool' pool'' : List (Program α)}
    {state state' state'' : σ} {trace trace' : List (Nat × Exchange)}
    (first : Interleaving stores pool state trace pool' state')
    (second : Interleaving stores pool' state' trace' pool'' state'') :
    Interleaving stores pool state (trace ++ trace') pool'' state'' := by
  induction first with
  | refl => exact second
  | step hplace hstep _ ih => exact .step hplace hstep (ih second)

/-- No program joins or leaves the pool. -/
theorem Interleaving.length_eq {stores : Behaviour σ} {pool pool' : List (Program α)}
    {state state' : σ} {trace : List (Nat × Exchange)}
    (h : Interleaving stores pool state trace pool' state') : pool'.length = pool.length := by
  induction h with
  | refl => rfl
  | step _ _ _ ih => rw [ih, List.length_set]

end Glasshouse.Ingest
