import Glasshouse.Proofs.BatchWrites
import Glasshouse.Proofs.Resumption
import Glasshouse.Proofs.Schedules
import Glasshouse.Proofs.Served

/-!
# Calls that a program owes

On healthy stores a program that ingests an envelope makes the calls of the batch, whatever the
other programs on the stores do: a document that exists already is passed over. `Owes` lists the
calls that a program still has to make and the value that it will end with. `Owes.step` says what
one call leaves of the list, and `owes_ingest` what ingestion owes at its start.
-/

namespace Glasshouse.Ingest

open Store Status

namespace Program

variable {α σ : Type}

/-- The program makes these calls and ends with this value if the stores answer as healthy ones do.
Of two joined calls the second appends a row. -/
inductive Owes (value : α) : Program α → List Call → Prop where
  | done : Owes value (.done value) []
  | emit {event : LogEvent} {rest : Program α} {calls : List Call}
      (hrest : Owes value rest calls) : Owes value (.emit event rest) calls
  | call {request : Call} {next : Answer → Program α} {calls : List Call}
      (hnext : ∀ answer, Stores.Admitted request answer → Owes value (next answer) calls) :
      Owes value (.call request next) (request :: calls)
  | join {first : Call} {target : Target} {sample : Sample} {next : Answer → Answer → Program α}
      {calls : List Call}
      (hnext : ∀ answer other, Stores.Admitted first answer →
        Stores.Admitted (.insert target sample) other → Owes value (next answer other) calls) :
      Owes value (.join first (.insert target sample) next)
        (first :: .insert target sample :: calls)

variable {value : α} {program program' : Program α} {request : Call} {answer : Answer}
  {calls left : List Call} {stores stores' : Stores}

/-! ## One call -/

/-- A call on healthy stores is one that is owed, and the rest stays owed. -/
theorem Owes.step (howes : Owes value program calls) (hhealthy : stores.Healthy)
    (hstep : program.Step Stores.behaviour stores (request, answer) program' stores') :
    stores' = (stores.perform request).2 ∧
      ∃ left, NextOf request calls left ∧ Owes value program' left := by
  -- An answer of healthy stores is admitted, so every program that waits for it goes on.
  have hanswered {request : Call} {answer : Answer} {after : Stores} {events : List LogEvent}
      (hcall : Stores.behaviour request stores = (answer, after, events)) :
      after = (stores.perform request).2 ∧ Stores.Admitted request answer := by
    have hadmitted := hhealthy.admitted request
    rw [perform_of_behaviour hcall] at hadmitted ⊢
    exact ⟨rfl, hadmitted⟩
  induction howes with
  | done => cases hstep
  | emit _ ih =>
      cases hstep with
      | emit hrest => exact ih hrest
  | call hnext =>
      cases hstep with
      | call hcall =>
          obtain ⟨hstores, hadmitted⟩ := hanswered hcall
          exact ⟨hstores, _, .head, hnext _ hadmitted⟩
  | join hnext =>
      cases hstep with
      | joinFirst hcall =>
          obtain ⟨hstores, hadmitted⟩ := hanswered hcall
          exact ⟨hstores, _, .head, .call fun other hother => hnext _ other hadmitted hother⟩
      | joinSecond hcall =>
          obtain ⟨hstores, hadmitted⟩ := hanswered hcall
          exact ⟨hstores, _, .row, .call fun answer hanswer => hnext answer _ hanswer hadmitted⟩

/-- A program has ended exactly if it owes nothing, and then with its value. -/
theorem Owes.value?_eq (h : Owes value program calls) :
    program.value? = if calls = [] then some value else none := by
  induction h with
  | done => rfl
  | emit _ ih => exact ih
  | call _ => rfl
  | join _ => rfl

/-- A program owes the calls that its silent form owes. -/
theorem owes_of_silent (h : Owes value program.silent calls) : Owes value program calls := by
  induction program generalizing calls with
  | done other => exact h
  | emit event rest ih => exact .emit (ih h)
  | call request next ih =>
      cases h with
      | call hnext => exact .call fun answer hanswer => ih _ (hnext answer hanswer)
  | join first second next ih =>
      cases h with
      | join hnext =>
          exact .join fun answer other hanswer hother =>
            ih _ _ (hnext answer other hanswer hother)

end Program

/-! ## What ingestion owes -/

/-- A pass over entries owes the calls of the batch and an acknowledgement. -/
theorem owes_passEntries (target : Target) (envelope : Envelope) (entries : List Entry) :
    Program.Owes .ack (passEntries target envelope entries).silent
      (batchCalls target envelope entries) := by
  induction entries with
  | nil => exact .done
  | cons entry entries ih =>
      rw [passEntries, Program.bind_eq, Program.silent_bind, silent_writeEntry, batchCalls,
        List.flatMap_cons, entryCalls_eq, ← batchCalls]
      cases sampleOf? envelope entry with
      | none =>
          refine .call fun answer hanswer => ?_
          obtain rfl : answer = .ok () := hanswer
          exact ih
      | some sample =>
          -- The pass goes on alike whether the document was created or was there.
          refine .join fun created inserted hcreated hinserted => ?_
          obtain rfl : inserted = .ok () := hinserted
          rcases hcreated with rfl | rfl
          · exact ih
          · exact ih

/-- Ingesting a good envelope owes the calls of its batch and an acknowledgement. -/
theorem owes_ingest {settings : Settings} {envelope : Envelope} {entries : List Entry}
    (hignored : envelope.isIgnored settings.ignoreSuffix = false)
    (hvalid : envelope.validate = .ok ()) (hdecode : decodeBatch envelope.payload = .ok entries) :
    (ingest settings envelope).Owes .ack (batchCalls settings.target envelope entries) := by
  apply Program.owes_of_silent
  rw [silent_ingest_of_decodes hignored hvalid hdecode]
  exact owes_passEntries settings.target envelope entries

end Glasshouse.Ingest
