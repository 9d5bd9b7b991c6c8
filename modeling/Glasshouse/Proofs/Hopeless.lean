import Glasshouse.Proofs.SinglePass

/-!
# Messages that are ended

A message is never to be delivered again exactly if its envelope can never be ingested: it does not
name its device, or its payload is not a batch, be it for its last entry only. That is found out
before the first call, so nothing is written on behalf of such a message, and it does not depend on
the stores. The other way round a failure of a store never ends a message. Main statement:
`ended_iff_hopeless`.
-/

namespace Glasshouse.Status

open Wire

/-- The bytes of an entry are not a state with a report. -/
def IsBadEntry (raw : Bytes) : Prop :=
  ∀ state : DeviceState, Message.decode raw = .ok state → state.report = none

/-- Decoding an entry fails, wherever it stands, exactly if it is bad. -/
theorem Entry.decode_error_iff (index : Nat) (raw : Bytes) :
    (∃ fault, Entry.decode index raw = .error fault) ↔ IsBadEntry raw := by
  unfold Entry.decode IsBadEntry
  cases Message.decode (μ := DeviceState) raw with
  | error error => simp
  | ok state => cases hreport : state.report <;> simp [hreport]

/-- Decoding entries fails exactly if one of them is bad. -/
theorem decodeEntries_error_iff (index : Nat) (raws : List Bytes) :
    (∃ fault, decodeEntries index raws = .error fault) ↔ ∃ raw ∈ raws, IsBadEntry raw := by
  induction raws generalizing index with
  | nil => simp [decodeEntries]
  | cons raw raws ih =>
      simp only [List.mem_cons, exists_eq_or_imp]
      rw [← Entry.decode_error_iff index raw, ← ih (index + 1), decodeEntries]
      cases Entry.decode index raw with
      | error fault => simp
      | ok entry => cases decodeEntries (index + 1) raws <;> simp

/-- A payload is not a batch exactly if it is empty, does not split, or has a bad entry. -/
theorem decodeBatch_error_iff (payload : Bytes) :
    (∃ fault, decodeBatch payload = .error fault) ↔
      payload = [] ∨ (∃ error, Message.decode (μ := RawBatch) payload = .error error) ∨
        ∃ batch : RawBatch, Message.decode payload = .ok batch ∧
          ∃ raw ∈ batch.entries, IsBadEntry raw := by
  rw [decodeBatch]
  cases payload with
  | nil => simp
  | cons byte bytes =>
      cases Message.decode (μ := RawBatch) (byte :: bytes) with
      | error error => simp
      | ok batch => simp [decodeEntries_error_iff]

end Glasshouse.Status

namespace Glasshouse.Ingest

open Store Status

/-! ## Failures of stores -/

/-- A failure with which a store in memory answers is not a permanent one. -/
theorem perform_not_permanent {stores : Stores} {call : Call} {failure : Failure}
    (h : (stores.perform call).1 = .error failure) : failure.isPermanent = false := by
  cases call with
  | create sample =>
      simp only [Stores.perform, SnapshotMemory.create] at h
      split at h <;> cases h
      rfl
  | merge report =>
      simp only [Stores.perform, SnapshotMemory.merge] at h
      split at h <;> cases h
      rfl
  | insert target sample =>
      simp only [Stores.perform, AnalyticsMemory.insert] at h
      split at h <;> cases h
      rfl

/-- A pass over entries never ends the message. -/
theorem passOver_ne_term (target : Target) (envelope : Envelope) (entries : List Entry)
    (stores : Stores) (reason : String) :
    (passOver target envelope entries stores).settlement ≠ .term reason := by
  induction entries generalizing stores with
  | nil => exact Settlement.noConfusion
  | cons entry entries ih =>
      rw [passOver]
      rcases hperform : performAll (entryCalls target envelope entry) stores with
        ⟨answer, written⟩
      cases answer with
      | ok _ => exact ih written
      | error failure =>
          obtain ⟨_, _, _, _, hanswer⟩ := performAll_error (congrArg Prod.fst hperform)
          have hsettle : settle failure ≠ .term reason := by
            simp [settle, perform_not_permanent hanswer]
          cases failure with
          | snapshotConflict path => exact ih written
          | _ => exact hsettle

/-! ## Envelopes that can never be ingested -/

/-- Why an envelope can never be ingested, whatever becomes of the stores. -/
def Envelope.defect? (envelope : Envelope) : Option Failure :=
  match envelope.validate with
  | .error failure => some failure
  | .ok () =>
      match decodeBatch envelope.payload with
      | .error fault => some fault.toFailure
      | .ok _ => none

variable {settings : Settings} {envelope : Envelope} {stores : Stores}

/-- An envelope has a defect exactly if it does not name its device or its payload is not a
batch. -/
theorem exists_defect_iff : (∃ failure, envelope.defect? = some failure) ↔
    envelope.device = "" ∨ ∃ fault, decodeBatch envelope.payload = .error fault := by
  by_cases hdevice : envelope.device = ""
  · simp [Envelope.defect?, Envelope.validate, hdevice]
  · rw [Envelope.defect?, validate_of_ne hdevice]
    cases decodeBatch envelope.payload <;> simp [hdevice]

/-- A defect is a permanent failure. -/
theorem isPermanent_of_defect {failure : Failure} (h : envelope.defect? = some failure) :
    failure.isPermanent = true := by
  unfold Envelope.defect? Envelope.validate at h
  split at h
  · next hvalid =>
      split at hvalid <;> cases hvalid
      cases h
      rfl
  · split at h
    · next fault _ =>
        cases h
        cases fault <;> rfl
    · cases h

/-- An envelope with a defect is settled by it, without a call. -/
theorem run_ingest_of_defect (hignored : envelope.isIgnored settings.ignoreSuffix = false)
    {failure : Failure} (h : envelope.defect? = some failure) (stores : Stores) :
    let run := (ingest settings envelope).run Stores.behaviour stores
    run.value = .term failure.message ∧ run.state = stores ∧ run.calls = [] := by
  obtain ⟨hvalue, hstate, hcalls⟩ := ingest_runs_singlePass settings envelope stores
  have hpass : singlePass settings envelope stores = ⟨settle failure, stores, []⟩ := by
    rw [singlePass, hignored, if_neg Bool.false_ne_true]
    unfold Envelope.defect? at h
    cases hvalid : envelope.validate with
    | error other =>
        rw [hvalid] at h
        cases h
        rfl
    | ok _ =>
        rw [hvalid] at h
        cases hdecode : decodeBatch envelope.payload with
        | error fault =>
            rw [hdecode] at h
            cases h
            rfl
        | ok entries =>
            rw [hdecode] at h
            cases h
  have hsettle : settle failure = .term failure.message := by
    simp [settle, isPermanent_of_defect h]
  rw [hpass] at hvalue hstate hcalls
  exact ⟨hvalue.trans hsettle, hstate, List.map_eq_nil_iff.mp hcalls⟩

/-- A message is ended exactly if its envelope is not ignored and has a defect, and for that. -/
theorem ingest_term_iff (settings : Settings) (envelope : Envelope) (stores : Stores)
    (reason : String) :
    ((ingest settings envelope).run Stores.behaviour stores).value = .term reason ↔
      envelope.isIgnored settings.ignoreSuffix = false ∧
        ∃ failure, envelope.defect? = some failure ∧ failure.message = reason := by
  constructor
  · intro hterm
    rw [(ingest_runs_singlePass settings envelope stores).1, singlePass] at hterm
    cases hignored : envelope.isIgnored settings.ignoreSuffix with
    | true =>
        rw [hignored] at hterm
        cases hterm
    | false =>
        refine ⟨rfl, ?_⟩
        cases hdefect : envelope.defect? with
        | some failure =>
            obtain ⟨hvalue, _⟩ := run_ingest_of_defect hignored hdefect stores
            rw [(ingest_runs_singlePass settings envelope stores).1, singlePass] at hvalue
            exact ⟨failure, rfl, Settlement.term.inj (hvalue.symm.trans hterm)⟩
        | none =>
            unfold Envelope.defect? at hdefect
            split at hdefect
            · cases hdefect
            · next hvalid =>
                split at hdefect
                · cases hdefect
                · next entries hdecode =>
                    simp only [hignored, hvalid, hdecode] at hterm
                    exact absurd hterm (passOver_ne_term _ _ _ _ _)
  · rintro ⟨hignored, failure, hdefect, rfl⟩
    exact (run_ingest_of_defect hignored hdefect stores).1

/-- Whether a message is ended, and why, is the same for any two states of the stores: it is ended
exactly if its envelope is not ignored and names no device or has no batch, which one bad entry is
enough for, wherever it stands. It is ended without a call and leaves the stores as they were; and a
message on whose behalf a call was made is acknowledged or to be delivered again. -/
theorem ended_iff_hopeless (settings : Settings) (envelope : Envelope) (stores other : Stores) :
    let run := (ingest settings envelope).run Stores.behaviour stores
    let elsewhere := (ingest settings envelope).run Stores.behaviour other
    (∀ reason, run.value = .term reason ↔ elsewhere.value = .term reason) ∧
      ((∃ reason, run.value = .term reason) ↔
        envelope.isIgnored settings.ignoreSuffix = false ∧
          (envelope.device = "" ∨ ∃ fault, decodeBatch envelope.payload = .error fault)) ∧
      (∀ (batch : RawBatch) (raw : Wire.Bytes), Wire.Message.decode envelope.payload = .ok batch →
        raw ∈ batch.entries → IsBadEntry raw →
        ∃ fault, decodeBatch envelope.payload = .error fault) ∧
      (∀ reason, run.value = .term reason → run.calls = [] ∧ run.state = stores) ∧
      (run.calls ≠ [] → run.value = .ack ∨ ∃ reason, run.value = .nak reason) := by
  intro run elsewhere
  have hclean (reason : String) (hterm : run.value = .term reason) :
      run.calls = [] ∧ run.state = stores := by
    obtain ⟨hignored, failure, hdefect, _⟩ := (ingest_term_iff settings envelope stores _).mp hterm
    obtain ⟨_, hstate, hcalls⟩ := run_ingest_of_defect hignored hdefect stores
    exact ⟨hcalls, hstate⟩
  refine ⟨fun reason => ?_, ?_, fun batch raw hsplit hmem hbad => ?_, hclean, fun hcalls => ?_⟩
  · exact (ingest_term_iff settings envelope stores reason).trans
      (ingest_term_iff settings envelope other reason).symm
  · rw [← exists_defect_iff]
    constructor
    · rintro ⟨reason, hterm⟩
      obtain ⟨hignored, failure, hdefect, _⟩ :=
        (ingest_term_iff settings envelope stores reason).mp hterm
      exact ⟨hignored, failure, hdefect⟩
    · rintro ⟨hignored, failure, hdefect⟩
      exact ⟨failure.message, (run_ingest_of_defect hignored hdefect stores).1⟩
  · exact (decodeBatch_error_iff envelope.payload).mpr
      (Or.inr (Or.inr ⟨batch, hsplit, raw, hmem, hbad⟩))
  · cases hvalue : run.value with
    | ack => exact Or.inl rfl
    | nak reason => exact Or.inr ⟨reason, rfl⟩
    | term reason => exact absurd (hclean reason hvalue).1 hcalls

/-- Telemetry and figures of the memory, and behind them a state without a report. -/
def spoiltDelivery : Envelope :=
  ⟨"grow-1", "greenhouse", .ofParts 1700000000 0, [10, 2, 18, 0, 10, 2, 34, 0, 10, 2, 8, 1]⟩

/-- The spoilt delivery is ended for its last entry while merges are offline and rows refused, and
the two good entries before it are not written. -/
theorem spoiltDelivery_ended :
    let faulty := (Stores.empty.setMergesOffline true).setRefusal (some "too many parts")
    let run := (ingest testSettings spoiltDelivery).run Stores.behaviour faulty
    run.value = .term "Malformed status batch: record 2: state has no report set" ∧
      run.calls = [] ∧ run.state = faulty := by
  intro faulty run
  obtain ⟨hsame, _, _, hclean, _⟩ :=
    ended_iff_hopeless testSettings spoiltDelivery faulty .empty
  have hterm : run.value = .term "Malformed status batch: record 2: state has no report set" :=
    (hsame _).mpr (by decide +kernel)
  exact ⟨hterm, hclean _ hterm⟩

end Glasshouse.Ingest
