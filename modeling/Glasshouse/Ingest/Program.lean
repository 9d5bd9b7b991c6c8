import Glasshouse.Store.Call

/-!
# Programs over store calls

Ingestion is written as a program: a value that says which store call comes next and how to go on
with its answer. One program can so be run against stores in memory, scripted stores or stores
behind a network, alone or interleaved with others. Main statement: `run_bind`, a program that
goes on as another runs as the two one after the other.
-/

namespace Glasshouse.Ingest

open Store

/-- A program that ends with a value of type `α`. -/
inductive Program (α : Type) where
  /-- The program has ended. -/
  | done (value : α)
  /-- The program logs an event. -/
  | emit (event : LogEvent) (rest : Program α)
  /-- The program waits for the answer to a call. -/
  | call (request : Call) (next : Answer → Program α)
  /-- The program waits for the answers to two calls, of which either may take effect first. -/
  | join (first second : Call) (next : Answer → Answer → Program α)

namespace Program

variable {α β γ σ : Type}

/-- Goes on with another program when the first has ended. -/
def bind : Program α → (α → Program β) → Program β
  | done value, f => f value
  | emit event rest, f => emit event (rest.bind f)
  | call request next, f => call request fun answer => (next answer).bind f
  | join first second next, f =>
      join first second fun answer other => (next answer other).bind f

instance : Monad Program where
  pure := done
  bind := bind

/-- Logs an event. -/
def log (event : LogEvent) : Program Unit :=
  emit event (done ())

/-- Makes a call and ends with its answer. -/
def perform (request : Call) : Program Answer :=
  call request done

/-- Makes two calls, of which either may take effect first, and ends with both answers. -/
def performBoth (first second : Call) : Program (Answer × Answer) :=
  join first second fun answer other => done (answer, other)

/-- What a run of a program leaves: its value, the state of the stores, the calls with their
answers in the order in which they took effect, and the events. -/
structure Run (σ α : Type) where
  value : α
  state : σ
  calls : List (Call × Answer)
  log : List LogEvent

/-- The run with calls and events in front of it. -/
def Run.after (run : Run σ α) (calls : List (Call × Answer)) (log : List LogEvent) : Run σ α :=
  { run with calls := calls ++ run.calls, log := log ++ run.log }

/-- Runs a program alone; of two joined calls the first takes effect first. -/
def run (stores : Behaviour σ) : Program α → σ → Run σ α
  | done value, state => ⟨value, state, [], []⟩
  | emit event rest, state => (rest.run stores state).after [] [event]
  | call request next, state =>
      let (answer, state, events) := stores request state
      ((next answer).run stores state).after [(request, answer)] events
  | join first second next, state =>
      let (answer, state, events) := stores first state
      let (other, state, moreEvents) := stores second state
      ((next answer other).run stores state).after [(first, answer), (second, other)]
        (events ++ moreEvents)

/-- Putting calls and events in front twice puts them in front once. -/
theorem Run.after_after (run : Run σ α) (calls calls' : List (Call × Answer))
    (log log' : List LogEvent) :
    (run.after calls log).after calls' log' = run.after (calls' ++ calls) (log' ++ log) := by
  simp [Run.after]

/-- Nothing in front of a run changes nothing. -/
@[simp] theorem Run.after_nil (run : Run σ α) : run.after [] [] = run := rfl

/-- A program that goes on as another runs as the two one after the other. -/
theorem run_bind (stores : Behaviour σ) (program : Program α) (f : α → Program β) (state : σ) :
    (program.bind f).run stores state =
      let first := program.run stores state
      ((f first.value).run stores first.state).after first.calls first.log := by
  induction program generalizing state with
  | done value => rfl
  | emit event rest ih =>
    show ((rest.bind f).run stores state).after [] [event] = _
    rw [ih, Run.after_after]
    rfl
  | call request next ih =>
    rcases hcall : stores request state with ⟨answer, state', events⟩
    simp only [bind, run, hcall, ih, Run.after_after]
    rfl
  | join first second next ih =>
    rcases hfirst : stores first state with ⟨answer, state', events⟩
    rcases hsecond : stores second state' with ⟨other, state'', moreEvents⟩
    simp only [bind, run, hfirst, hsecond, ih, Run.after_after]
    rfl

/-- Going on twice is going on once with both. -/
theorem bind_assoc (program : Program α) (f : α → Program β) (g : β → Program γ) :
    (program.bind f).bind g = program.bind fun value => (f value).bind g := by
  induction program with
  | done value => rfl
  | emit event rest ih => simp only [bind, ih]
  | call request next ih => simp only [bind, ih]
  | join first second next ih => simp only [bind, ih]

end Program

end Glasshouse.Ingest
