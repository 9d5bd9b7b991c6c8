import Glasshouse.Ingest.SinglePass
import Glasshouse.Proofs.Silence

/-!
# Walks that start anew

Ingesting an envelope walks over its batch, and after a conflict decodes the payload again and
walks on from the entry behind it. One dispatch of this is `silent_ingestFrom_step`, and what holds
of all of them follows along `Outcome.resumption_induction`. `silent_ingest` says that they are one
pass: apart from events, the program is the one that writes every entry at most once and goes on
after a conflict. The program is compared before any store has answered, so the fact holds for every
store behaviour.
-/

namespace Glasshouse.Ingest

open Store Status

/-- Writes entries in order up to the first failure that is not a conflict. -/
def passEntries (target : Target) (envelope : Envelope) : List Entry → Program Settlement
  | [] => return .ack
  | entry :: entries => do
      match ← writeEntry target envelope entry with
      | .ok () => passEntries target envelope entries
      | .error (.snapshotConflict _) => passEntries target envelope entries
      | .error failure => return settle failure

/-- The single pass over an envelope as a program. -/
def passProgram (settings : Settings) (envelope : Envelope) : Program Settlement :=
  if envelope.isIgnored settings.ignoreSuffix then return .ack
  else match envelope.validate with
    | .error failure => return settle failure
    | .ok () =>
      match decodeBatch envelope.payload with
      | .error fault => return settle fault.toFailure
      | .ok entries => passEntries settings.target envelope entries

/-! ## One dispatch of an ingestion -/

namespace Outcome

variable {start total next : Nat} {outcome : Outcome start total}

/-- The entry at which an ingestion goes on after a dispatch: the one behind an entry that met a
conflict, if there is one. -/
def resumesAt? : Outcome start total → Option Nat
  | halted ⟨.snapshotConflict _, index, _⟩ =>
      if index + 1 < total then some (index + 1) else none
  | _ => none

/-- What an ingestion that ends with a dispatch settles the envelope with. -/
def settlement : Outcome start total → Settlement
  | ignored | processed | halted ⟨.snapshotConflict _, _, _⟩ => .ack
  | refused failure | halted ⟨failure, _, _⟩ => settle failure

/-- An ingestion goes on behind an entry that is not the last. -/
theorem halted_of_resumesAt? (h : outcome.resumesAt? = some next) :
    ∃ halt, outcome = .halted halt ∧ halt.remaining ≠ 0 ∧ next = halt.index + 1 := by
  unfold resumesAt? at h
  split at h
  · next index hstart =>
      split at h
      · next hmore =>
          obtain rfl := Option.some.inj h
          refine ⟨_, rfl, ?_, rfl⟩
          unfold Halt.remaining
          dsimp only
          omega
      · cases h
  · cases h

/-- Induction along dispatches, of which each starts later than the one before and none behind the
last entry. -/
theorem resumption_induction (total : Nat) {motive : Nat → Prop}
    (step : ∀ start, (∀ (outcome : Outcome start total) (next : Nat),
      outcome.resumesAt? = some next → motive next) → motive start) (start : Nat) :
    motive start := by
  induction hleft : total - start using Nat.strongRecOn generalizing start with
  | ind left ih =>
      refine step start fun outcome next hnext => ih _ ?_ next rfl
      obtain ⟨halt, -, -, rfl⟩ := halted_of_resumesAt? hnext
      have := halt.start_le
      have := halt.index.isLt
      omega

end Outcome

/-- One dispatch of an ingestion: if the outcome does not say where to go on it settles the
envelope, otherwise it stands before the attempts from there on. -/
theorem silent_ingestFrom_step (settings : Settings) (envelope : Envelope) (start : Nat) :
    (ingestFrom settings envelope start).silent =
      ((dispatchFrom settings envelope start).bind fun outcome =>
        match outcome.resumesAt? with
        | none => .done ⟨outcome.settlement, [⟨start, outcome⟩]⟩
        | some next => (ingestFrom settings envelope next).bind fun rest =>
            .done { rest with attempts := ⟨start, outcome⟩ :: rest.attempts }).silent := by
  rw [ingestFrom]
  simp only [Program.bind_eq, Program.silent_bind]
  congr 1
  funext outcome
  rcases outcome with _ | _ | failure | ⟨failure, index, hstart⟩
  · rfl
  · rfl
  · rfl
  · cases failure with
    | snapshotConflict path =>
        by_cases hmore : index + 1 < envelope.recordCount
        · have hremaining : envelope.recordCount - index - 1 ≠ 0 := by omega
          simp [Outcome.resumesAt?, Halt.remaining, hmore, hremaining]
        · have hremaining : envelope.recordCount - index - 1 = 0 := by omega
          simp [Outcome.resumesAt?, Outcome.settlement, Halt.remaining, hmore, hremaining]
    | _ => rfl

/-- The same step on stores: the calls of the dispatch come first, and what follows meets the
stores that it leaves. -/
theorem run_ingestFrom_step {σ : Type} (stores : Behaviour σ) (settings : Settings)
    (envelope : Envelope) (start : Nat) (state : σ) :
    let first := (dispatchFrom settings envelope start).run stores state
    let run := (ingestFrom settings envelope start).run stores state
    match first.value.resumesAt? with
    | none => run.value = ⟨first.value.settlement, [⟨start, first.value⟩]⟩ ∧
        run.calls = first.calls ∧ run.state = first.state
    | some next =>
        let rest := (ingestFrom settings envelope next).run stores first.state
        run.value = { rest.value with attempts := ⟨start, first.value⟩ :: rest.value.attempts } ∧
          run.calls = first.calls ++ rest.calls ∧ run.state = rest.state := by
  intro first run
  obtain ⟨hvalue, hstate, hcalls⟩ :=
    Program.run_of_silent_eq (silent_ingestFrom_step settings envelope start) stores state
  simp only [Program.run_bind, Program.Run.after] at hvalue hstate hcalls
  cases hnext : first.value.resumesAt? with
  | none =>
      simp only [first, hnext] at hvalue hstate hcalls
      exact ⟨hvalue, hcalls.trans (List.append_nil _), hstate⟩
  | some next =>
      simp only [first, hnext, Program.run_bind, Program.Run.after] at hvalue hstate hcalls
      exact ⟨hvalue, hcalls.trans (congrArg _ (List.append_nil _)), hstate⟩

/-! ## The walks of one delivery are one pass -/

variable {settings : Settings} {envelope : Envelope} {entries : List Entry}

/-- What follows a walk over a batch: the end of the batch acknowledges the envelope, a conflict
goes on behind the entry that met it, any other failure settles the envelope. -/
def afterWalk (target : Target) (envelope : Envelope) (batch : List Entry) {start total : Nat} :
    Option (Halt start total) → Program Settlement
  | none => .done .ack
  | some halt =>
      match halt.failure with
      | .snapshotConflict _ => (passEntries target envelope (batch.drop (halt.index + 1))).silent
      | failure => .done (settle failure)

/-- A walk from `start` that is resumed after a conflict is one pass over the entries from `start`
on. -/
theorem silent_walk_bind (target : Target) (envelope : Envelope) {batch : List Entry}
    {start total index : Nat}
    (h : index + entries.length = total) (hbatch : batch.drop index = entries) :
    (walk target envelope start total index entries h).silent.bind
        (afterWalk target envelope batch) =
      (passEntries target envelope (entries.drop (start - index))).silent := by
  induction entries generalizing index with
  | nil => simp [walk, passEntries, afterWalk]
  | cons entry rest ih =>
      have hrest : batch.drop (index + 1) = rest := by
        rw [← List.drop_drop, hbatch, List.drop_one, List.tail_cons]
      rw [walk]
      -- Entries before the start are passed over by the walk and dropped by the pass.
      by_cases hstart : index < start
      · rw [dif_pos hstart, ih _ hrest, show start - index = start - (index + 1) + 1 by omega,
          List.drop_succ_cons]
      · rw [dif_neg hstart, show start - index = 0 by omega, List.drop_zero, passEntries]
        simp only [Program.bind_eq, Program.silent_bind, Program.silent_log, Program.done_bind,
          Program.bind_assoc]
        congr 1
        funext answer
        cases answer with
        | ok _ =>
            have hdrop := ih (by rw [← h, List.length_cons]; omega) hrest
            rw [show start - (index + 1) = 0 by omega, List.drop_zero] at hdrop
            exact hdrop
        | error failure =>
            simp only [Program.silent_bind, Program.silent_log, Program.done_bind,
              Program.pure_eq, Program.silent_done, afterWalk, hrest]
            cases failure <;> rfl

/-- What follows a walk is what its outcome says: the settlement, or the pass from where an
ingestion goes on. -/
theorem afterWalk_eq (target : Target) (envelope : Envelope) {batch : List Entry}
    {start total : Nat} (h : batch.length = total) (halt : Option (Halt start total)) :
    let outcome : Outcome start total := halt.elim .processed .halted
    afterWalk target envelope batch halt =
      match outcome.resumesAt? with
      | none => .done outcome.settlement
      | some next => (passEntries target envelope (batch.drop next)).silent := by
  rcases halt with _ | ⟨failure, index, hstart⟩
  · rfl
  · cases failure with
    | snapshotConflict path =>
        by_cases hmore : index + 1 < total
        · simp [afterWalk, Outcome.resumesAt?, hmore]
        · have hend : batch.drop (index + 1) = [] := List.drop_of_length_le (by omega)
          simp [afterWalk, Outcome.resumesAt?, Outcome.settlement, hmore, hend, passEntries]
    | _ => rfl

/-- An envelope whose payload decodes has as many records as there are entries. -/
theorem recordCount_of_decodes (hdecode : decodeBatch envelope.payload = .ok entries) :
    envelope.recordCount = entries.length := by
  simp [Envelope.recordCount, hdecode]

/-- An envelope that is not ignored and whose payload decodes is walked over. -/
theorem silent_dispatchFrom (hignored : envelope.isIgnored settings.ignoreSuffix = false)
    (hvalid : envelope.validate = .ok ()) (hdecode : decodeBatch envelope.payload = .ok entries)
    (h : 0 + entries.length = envelope.recordCount) (start : Nat) :
    (dispatchFrom settings envelope start).silent =
      (walk settings.target envelope start envelope.recordCount 0 entries h).silent.bind
        fun halt => .done (halt.elim .processed .halted) := by
  unfold dispatchFrom
  rw [hignored, hvalid]
  simp only [Bool.false_eq_true, if_false]
  split
  · next hfault => rw [hdecode] at hfault; cases hfault
  · next decoded hok =>
      obtain rfl : entries = decoded := Except.ok.inj (hdecode.symm.trans hok)
      simp only [Program.bind_eq, Program.silent_bind, Program.silent_log, Program.done_bind]
      congr 1
      funext halt
      cases halt <;> rfl

/-- A dispatch of such an envelope comes out as its walk does and makes the calls of the walk. -/
theorem run_dispatchFrom {σ : Type} (hignored : envelope.isIgnored settings.ignoreSuffix = false)
    (hvalid : envelope.validate = .ok ()) (hdecode : decodeBatch envelope.payload = .ok entries)
    (h : 0 + entries.length = envelope.recordCount) (stores : Behaviour σ) (start : Nat)
    (state : σ) :
    let run := (dispatchFrom settings envelope start).run stores state
    let walked := (walk settings.target envelope start envelope.recordCount 0 entries h).run
      stores state
    run.value = walked.value.elim .processed .halted ∧ run.calls = walked.calls := by
  have hsilent : (dispatchFrom settings envelope start).silent =
      ((walk settings.target envelope start envelope.recordCount 0 entries h).bind
        fun halt => .done (halt.elim .processed .halted)).silent := by
    rw [silent_dispatchFrom hignored hvalid hdecode h, Program.silent_bind]
    rfl
  obtain ⟨hvalue, _, hcalls⟩ := Program.run_of_silent_eq hsilent stores state
  rw [Program.run_bind] at hvalue hcalls
  exact ⟨hvalue, hcalls.trans (List.append_nil _)⟩

/-- An envelope whose payload does not decode is refused before any of its entries is written. -/
theorem silent_dispatchFrom_of_fault (hignored : envelope.isIgnored settings.ignoreSuffix = false)
    (hvalid : envelope.validate = .ok ()) {fault : BatchFault}
    (hdecode : decodeBatch envelope.payload = .error fault) (start : Nat) :
    (dispatchFrom settings envelope start).silent = .done (.refused fault.toFailure) := by
  unfold dispatchFrom
  rw [hignored, hvalid]
  simp only [Bool.false_eq_true, if_false]
  split
  · next other hfault =>
      obtain rfl : fault = other := Except.error.inj (hdecode.symm.trans hfault)
      rfl
  · next hok => rw [hdecode] at hok; cases hok

/-- Ingesting from `start` on is one pass over the entries from `start` on. -/
theorem silent_ingestFrom (hignored : envelope.isIgnored settings.ignoreSuffix = false)
    (hvalid : envelope.validate = .ok ()) (hdecode : decodeBatch envelope.payload = .ok entries)
    (start : Nat) :
    ((ingestFrom settings envelope start).bind
        fun ingestion => .done ingestion.settlement).silent =
      (passEntries settings.target envelope (entries.drop start)).silent := by
  have hcount : 0 + entries.length = envelope.recordCount :=
    (Nat.zero_add _).trans (recordCount_of_decodes hdecode).symm
  induction start using Outcome.resumption_induction envelope.recordCount with
  | step start ih =>
      show _ = (passEntries settings.target envelope (entries.drop (start - 0))).silent
      rw [← silent_walk_bind settings.target envelope hcount List.drop_zero, Program.silent_bind,
        silent_ingestFrom_step]
      simp only [Program.silent_bind, silent_dispatchFrom hignored hvalid hdecode hcount,
        Program.bind_assoc, Program.done_bind]
      congr 1
      funext halt
      rw [afterWalk_eq settings.target envelope (by omega)]
      cases hnext : (halt.elim .processed .halted : Outcome start envelope.recordCount).resumesAt?
        with
      | none => rfl
      | some next =>
          refine Eq.trans ?_ (ih _ next hnext)
          simp only [Program.silent_bind, Program.bind_assoc, Program.done_bind,
            Program.silent_done]

/-- Apart from events, ingesting an envelope is the single pass over it. -/
theorem silent_ingest (settings : Settings) (envelope : Envelope) :
    (ingest settings envelope).silent = (passProgram settings envelope).silent := by
  rw [ingest, Program.bind_eq, passProgram]
  cases hignored : envelope.isIgnored settings.ignoreSuffix with
  | true =>
      rw [ingestFrom, dispatchFrom]
      simp [hignored]
  | false =>
      cases hvalid : envelope.validate with
      | error failure =>
          rw [ingestFrom, dispatchFrom]
          simp [hignored, hvalid]
      | ok _ =>
          cases hdecode : decodeBatch envelope.payload with
          | error fault =>
              rw [ingestFrom]
              simp [silent_dispatchFrom_of_fault hignored hvalid hdecode]
          | ok entries => simpa using silent_ingestFrom hignored hvalid hdecode 0

/-- Apart from events, ingesting a good envelope is a pass over its batch. -/
theorem silent_ingest_of_decodes (hignored : envelope.isIgnored settings.ignoreSuffix = false)
    (hvalid : envelope.validate = .ok ()) (hdecode : decodeBatch envelope.payload = .ok entries) :
    (ingest settings envelope).silent =
      (passEntries settings.target envelope entries).silent := by
  have hpass : passProgram settings envelope = passEntries settings.target envelope entries := by
    simp [passProgram, hignored, hvalid, hdecode]
  rw [silent_ingest, hpass]

end Glasshouse.Ingest
