import Glasshouse.Ingest.Settlement

/-!
# Programs without their events

Events are for operators: what a program does to stores and how it ends do not depend on them.
`silent` takes the events out of a program, and two programs with the same silent form make the
same calls, leave the same stores and end with the same value. Read `run_silent` first.
-/

namespace Glasshouse.Ingest

open Store

namespace Program

variable {α β σ : Type}

/-- The program without its events. -/
def silent : Program α → Program α
  | done value => done value
  | emit _ rest => rest.silent
  | call request next => call request fun answer => (next answer).silent
  | join first second next => join first second fun answer other => (next answer other).silent

/-! ## How programs are put together -/

/-- Sequencing is `bind`. -/
@[simp] theorem bind_eq (program : Program α) (f : α → Program β) :
    program >>= f = program.bind f := rfl

/-- Returning a value is a program that has ended. -/
@[simp] theorem pure_eq (value : α) : (pure value : Program α) = done value := rfl

/-- A program that has ended hands its value on. -/
@[simp] theorem done_bind (value : α) (f : α → Program β) : (done value).bind f = f value := rfl

/-- The silent form goes through sequencing. -/
@[simp] theorem silent_bind (program : Program α) (f : α → Program β) :
    (program.bind f).silent = program.silent.bind fun value => (f value).silent := by
  induction program with
  | done value => rfl
  | emit event rest ih => exact ih
  | call request next ih => simp only [bind, silent, ih]
  | join first second next ih => simp only [bind, silent, ih]

/-- A program that has ended is silent. -/
@[simp] theorem silent_done (value : α) : (done value).silent = done value := rfl

/-- Nothing is left of an event. -/
@[simp] theorem silent_log (event : LogEvent) : (log event).silent = done () := rfl

/-- Logging an event leaves the state alone and makes no call. -/
@[simp] theorem run_log (stores : Behaviour σ) (event : LogEvent) (state : σ) :
    (log event).run stores state = ⟨(), state, [], [event]⟩ := rfl

/-! ## What the silent form keeps -/

/-- The silent form ends with the same value, leaves the same stores and makes the same calls. -/
theorem run_silent (stores : Behaviour σ) (program : Program α) (state : σ) :
    (program.silent.run stores state).value = (program.run stores state).value ∧
      (program.silent.run stores state).state = (program.run stores state).state ∧
      (program.silent.run stores state).calls = (program.run stores state).calls := by
  induction program generalizing state with
  | done value => exact ⟨rfl, rfl, rfl⟩
  | emit event rest ih => exact ih state
  | call request next ih =>
      rcases hcall : stores request state with ⟨answer, middle, events⟩
      obtain ⟨hvalue, hstate, hcalls⟩ := ih answer middle
      simp only [silent, run, hcall, Run.after]
      exact ⟨hvalue, hstate, congrArg _ hcalls⟩
  | join first second next ih =>
      rcases hfirst : stores first state with ⟨answer, middle, events⟩
      rcases hsecond : stores second middle with ⟨other, last, moreEvents⟩
      obtain ⟨hvalue, hstate, hcalls⟩ := ih answer other last
      simp only [silent, run, hfirst, hsecond, Run.after]
      exact ⟨hvalue, hstate, congrArg _ hcalls⟩

/-- Programs with the same silent form cannot be told apart by what they do to stores. -/
theorem run_of_silent_eq {first second : Program α} (h : first.silent = second.silent)
    (stores : Behaviour σ) (state : σ) :
    (first.run stores state).value = (second.run stores state).value ∧
      (first.run stores state).state = (second.run stores state).state ∧
      (first.run stores state).calls = (second.run stores state).calls := by
  obtain ⟨hvalue, hstate, hcalls⟩ := run_silent stores first state
  obtain ⟨hvalue', hstate', hcalls'⟩ := run_silent stores second state
  rw [h] at hvalue hstate hcalls
  exact ⟨hvalue.symm.trans hvalue', hstate.symm.trans hstate', hcalls.symm.trans hcalls'⟩

end Program

/-- Events about refused rows leave no trace in the silent form. -/
@[simp] theorem silent_logAll (events : List LogEvent) :
    (logAll events).silent = .done () := by
  induction events with
  | nil => rfl
  | cons event events ih => exact ih

end Glasshouse.Ingest
