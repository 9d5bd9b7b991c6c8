import Glasshouse.Proofs.Pass
import Glasshouse.Proofs.Resumption

/-!
# Ingestion is one pass

The program that ingests an envelope, run on stores in memory, against the single pass, which knows
neither programs nor walks. Main statement: `ingest_runs_singlePass`, they settle the envelope
alike, leave the same stores and make the same calls in the same order.
-/

namespace Glasshouse.Ingest

open Store Status

/-- What a program leaves of stores in memory is what its calls leave. -/
theorem Program.state_run {α : Type} (program : Program α) (stores : Stores) :
    (program.run Stores.behaviour stores).state =
      stores.performEach ((program.run Stores.behaviour stores).calls.map Prod.fst) := by
  induction program generalizing stores with
  | done value => rfl
  | emit event rest ih => exact ih stores
  | call request next ih => exact ih _ _
  | join first second next ih => exact ih _ _ _

variable (target : Target) (envelope : Envelope)

/-- The write of an entry performs its calls. -/
theorem run_writeEntry (entry : Entry) (stores : Stores) :
    let run := (writeEntry target envelope entry).run Stores.behaviour stores
    let written := performAll (entryCalls target envelope entry) stores
    run.value = written.1 ∧ run.state = written.2 ∧
      run.calls.map Prod.fst = entryCalls target envelope entry := by
  obtain ⟨hvalue, hstate, hcalls⟩ :=
    Program.run_silent Stores.behaviour (writeEntry target envelope entry) stores
  rw [silent_writeEntry] at hvalue hstate hcalls
  simp only [← hvalue, ← hstate, ← hcalls, entryCalls_eq]
  cases sampleOf? envelope entry with
  | none =>
      rcases hmerge : stores.perform (.merge (reportOf envelope entry)) with ⟨answer, merged⟩
      cases answer <;>
        simp [Program.run, Program.Run.after, Stores.behaviour, performAll, hmerge]
  | some sample =>
      rcases hcreate : stores.perform (.create sample) with ⟨created, middle⟩
      rcases hinsert : middle.perform (.insert target sample) with ⟨inserted, final⟩
      cases created <;> cases inserted <;>
        simp [Program.run, Program.Run.after, Stores.behaviour, performAll, hcreate, hinsert,
          Except.bind]

/-- Writing entries is passing over them. -/
theorem run_passEntries (entries : List Entry) (stores : Stores) :
    let run := (passEntries target envelope entries).run Stores.behaviour stores
    let pass := passOver target envelope entries stores
    run.value = pass.settlement ∧ run.state = pass.stores ∧
      run.calls.map Prod.fst = pass.calls := by
  induction entries generalizing stores with
  | nil => exact ⟨rfl, rfl, rfl⟩
  | cons entry entries ih =>
      -- Both sides write the entry first and then look at the same answer.
      obtain ⟨hvalue, hstate, hcalls⟩ := run_writeEntry target envelope entry stores
      rw [passEntries, Program.bind_eq, Program.run_bind, passOver]
      simp only [hvalue, hstate, Program.Run.after, List.map_append, hcalls]
      rcases performAll (entryCalls target envelope entry) stores with ⟨answer, written⟩
      obtain ⟨hrest, hstores, hmore⟩ := ih written
      cases answer with
      | ok _ => exact ⟨hrest, hstores, congrArg _ hmore⟩
      | error failure =>
          cases failure with
          | snapshotConflict path => exact ⟨hrest, hstores, congrArg _ hmore⟩
          | _ => exact ⟨rfl, rfl, List.append_nil _⟩

/-- The program of the single pass does what the single pass says. -/
theorem run_passProgram (settings : Settings) (stores : Stores) :
    let run := (passProgram settings envelope).run Stores.behaviour stores
    let pass := singlePass settings envelope stores
    run.value = pass.settlement ∧ run.state = pass.stores ∧
      run.calls.map Prod.fst = pass.calls := by
  unfold passProgram singlePass
  cases envelope.isIgnored settings.ignoreSuffix with
  | true => exact ⟨rfl, rfl, rfl⟩
  | false =>
      cases envelope.validate with
      | error failure => exact ⟨rfl, rfl, rfl⟩
      | ok _ =>
          cases decodeBatch envelope.payload with
          | error fault => exact ⟨rfl, rfl, rfl⟩
          | ok entries => exact run_passEntries settings.target envelope entries stores

/-- Ingesting an envelope, with a new walk after every conflict, settles it as the single pass
does, leaves the stores that the pass leaves and makes the calls of the pass in their order. -/
theorem ingest_runs_singlePass (settings : Settings) (envelope : Envelope) (stores : Stores) :
    let run := (ingest settings envelope).run Stores.behaviour stores
    let pass := singlePass settings envelope stores
    run.value = pass.settlement ∧ run.state = pass.stores ∧
      run.calls.map Prod.fst = pass.calls := by
  obtain ⟨hvalue, hstate, hcalls⟩ :=
    Program.run_of_silent_eq (silent_ingest settings envelope) Stores.behaviour stores
  obtain ⟨hsettled, hstores, hmade⟩ := run_passProgram envelope settings stores
  exact ⟨hvalue.trans hsettled, hstate.trans hstores, (congrArg _ hcalls).trans hmade⟩

/-! ## Envelopes whose batch is written -/

variable {envelope} {settings : Settings} {entries : List Entry}

/-- An envelope that names its device is valid. -/
theorem validate_of_ne (h : envelope.device ≠ "") : envelope.validate = .ok () := by
  simp [Envelope.validate, h]

/-- A valid envelope names its device. -/
theorem ne_of_validate (h : envelope.validate = .ok ()) : envelope.device ≠ "" := by
  rintro hempty
  rw [Envelope.validate, if_pos (by rw [hempty]; rfl)] at h
  cases h

/-- Ingesting a good envelope is a pass over its batch. -/
theorem run_ingest_of_decodes (hignored : envelope.isIgnored settings.ignoreSuffix = false)
    (hvalid : envelope.validate = .ok ()) (hdecode : decodeBatch envelope.payload = .ok entries)
    (stores : Stores) :
    let run := (ingest settings envelope).run Stores.behaviour stores
    let pass := passOver settings.target envelope entries stores
    run.value = pass.settlement ∧ run.state = pass.stores := by
  obtain ⟨hvalue, hstate, _⟩ := Program.run_of_silent_eq
    (silent_ingest_of_decodes hignored hvalid hdecode) Stores.behaviour stores
  obtain ⟨hsettled, hstores, _⟩ := run_passEntries settings.target envelope entries stores
  exact ⟨hvalue.trans hsettled, hstate.trans hstores⟩

/-- On healthy stores a good envelope is acknowledged and all calls of its batch are made. -/
theorem run_ingest_of_healthy (hignored : envelope.isIgnored settings.ignoreSuffix = false)
    (hvalid : envelope.validate = .ok ()) (hdecode : decodeBatch envelope.payload = .ok entries)
    {stores : Stores} (hhealthy : stores.Healthy) :
    let run := (ingest settings envelope).run Stores.behaviour stores
    run.value = .ack ∧
      run.state = stores.performEach (batchCalls settings.target envelope entries) := by
  obtain ⟨hvalue, hstate⟩ := run_ingest_of_decodes hignored hvalid hdecode stores
  constructor
  · exact hvalue.trans (passOver_settlement_of_healthy _ _ _ hhealthy)
  · exact hstate.trans (passOver_stores_of_healthy _ _ _ hhealthy)

/-- Only a good envelope is acknowledged, unless its device is ignored. -/
theorem decodes_of_ack (hignored : envelope.isIgnored settings.ignoreSuffix = false)
    {stores : Stores}
    (hack : ((ingest settings envelope).run Stores.behaviour stores).value = .ack) :
    envelope.validate = .ok () ∧ ∃ entries, decodeBatch envelope.payload = .ok entries := by
  obtain ⟨hvalue, _, _⟩ :=
    Program.run_of_silent_eq (silent_ingest settings envelope) Stores.behaviour stores
  rw [hack] at hvalue
  cases hvalid : envelope.validate with
  | error failure =>
      rw [passProgram, hignored, hvalid] at hvalue
      exact absurd hvalue.symm (settle_ne_ack failure)
  | ok _ =>
      cases hdecode : decodeBatch envelope.payload with
      | error fault =>
          rw [passProgram, hignored, hvalid, hdecode] at hvalue
          exact absurd hvalue.symm (settle_ne_ack fault.toFailure)
      | ok entries => exact ⟨rfl, entries, rfl⟩

end Glasshouse.Ingest
