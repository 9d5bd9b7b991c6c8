import Glasshouse.Proofs.Hopeless
import Glasshouse.Proofs.SuffixWalks

/-!
# How often an envelope is walked over

After a conflict an envelope is dispatched anew from behind the entry that met it. Each dispatch
starts later than the one before, and none starts behind the last entry, so there are at most as
many as there are entries, whatever the stores answer; and no entry is written by two of them. Main
statement: `walks_stay_within_batch`, for which no store has to behave in any way.
-/

namespace Glasshouse.Ingest

open Store Status

/-! ## Attempts that follow each other -/

/-- Attempts over a batch of `total` entries, of which the first starts at `start`: each but the
last stops at an entry with others behind it, and the next one starts behind this entry. -/
inductive Resumed {total : Nat} : Nat → List (Attempt total) → Prop
  | last {start : Nat} (outcome : Outcome start total) : Resumed start [⟨start, outcome⟩]
  | next {start : Nat} (halt : Halt start total) {attempts : List (Attempt total)}
      (hmore : halt.remaining ≠ 0) (hrest : Resumed (halt.index + 1) attempts) :
      Resumed start (⟨start, .halted halt⟩ :: attempts)

namespace Resumed

variable {start total : Nat} {attempts : List (Attempt total)}

/-- The first of the attempts starts where they start. -/
theorem starts_eq (h : Resumed start attempts) :
    attempts.map Attempt.start = start :: (attempts.map Attempt.start).tail := by
  cases h with
  | last outcome => rfl
  | next halt hmore hrest => rfl

/-- Every further attempt starts later, and at an entry of the batch. -/
theorem starts_tail (h : Resumed start attempts) :
    ∀ later ∈ (attempts.map Attempt.start).tail, start < later ∧ later < total := by
  induction h with
  | last outcome => simp
  | next halt hmore hrest ih =>
      intro later hlater
      have hstart := halt.start_le
      have hindex := halt.index.isLt
      -- The next attempt starts behind the entry, those after it start later still.
      rw [List.map_cons, List.tail_cons, hrest.starts_eq] at hlater
      rcases List.mem_cons.mp hlater with rfl | hlater
      · unfold Halt.remaining at hmore
        omega
      · have := ih later hlater
        omega

/-- The attempts start later and later. -/
theorem starts_increase (h : Resumed start attempts) :
    (attempts.map Attempt.start).Pairwise (· < ·) := by
  induction h with
  | last outcome => exact List.pairwise_singleton _ _
  | next halt hmore hrest ih =>
      refine List.pairwise_cons.mpr ⟨fun later hlater => ?_, ih⟩
      exact ((next halt hmore hrest).starts_tail later hlater).1

/-- There are no more attempts than entries, though one if there is no entry. -/
theorem length_le (h : Resumed start attempts) : attempts.length ≤ max 1 (total - start) := by
  induction h with
  | last outcome => exact Nat.le_max_left _ _
  | next halt hmore hrest ih =>
      have hstart := halt.start_le
      have hindex := halt.index.isLt
      unfold Halt.remaining at hmore
      rw [List.length_cons]
      omega

end Resumed

/-! ## Calls of a dispatch, whatever the stores answer -/

/-- The place behind the last entry that a dispatch set about writing. -/
def Outcome.reached {start total : Nat} : Outcome start total → Nat
  | .ignored | .refused _ => start
  | .processed => total
  | .halted halt => halt.index + 1

/-- A dispatch that starts in the batch reaches no place before its start and none behind the
batch. -/
theorem Outcome.reached_mem {start total : Nat} (h : start ≤ total)
    (outcome : Outcome start total) :
    start ≤ outcome.reached ∧ outcome.reached ≤ total := by
  cases outcome with
  | ignored => exact ⟨Nat.le_refl start, h⟩
  | refused failure => exact ⟨Nat.le_refl start, h⟩
  | processed => exact ⟨h, Nat.le_refl total⟩
  | halted halt => exact ⟨Nat.le_succ_of_le halt.start_le, halt.index.isLt⟩

variable {σ : Type} {settings : Settings} {envelope : Envelope} {entries : List Entry}

/-- A walk makes the calls of the entries from its start on, each entry's once and in order, up to
those of the entry at which it stops. -/
theorem calls_walk (stores : Behaviour σ) (target : Target) (envelope : Envelope) (start : Nat)
    {total index : Nat} (h : index + entries.length = total) (state : σ) :
    let run := (walk target envelope start total index entries h).run stores state
    let reached := Outcome.reached (run.value.elim .processed .halted)
    index ≤ reached ∧ run.calls.map Prod.fst =
      batchCalls target envelope
        ((entries.drop (start - index)).take (reached - max start index)) := by
  induction entries generalizing index state with
  | nil =>
      refine ⟨?_, by simp [walk, Program.run, batchCalls]⟩
      exact Nat.le.intro h
  | cons entry entries ih =>
      have hmore : index + 1 + entries.length = total := by
        rw [← h, List.length_cons]
        omega
      by_cases hstart : index < start
      · -- Entries before the start are passed over without a call.
        obtain ⟨hreached, hcalls⟩ := ih hmore state
        rw [walk_cons_of_lt target envelope hstart h hmore,
          show start - index = start - (index + 1) + 1 by omega, List.drop_succ_cons,
          show max start index = max start (index + 1) by omega]
        exact ⟨Nat.le_of_succ_le hreached, hcalls⟩
      · have hmade := calls_writeEntry stores target envelope entry state
        have hstep := run_walk_cons stores target envelope (Nat.le_of_not_lt hstart) h hmore state
        rw [show start - index = 0 by omega, List.drop_zero, show max start index = index by omega]
        dsimp only
        cases hanswer : ((writeEntry target envelope entry).run stores state).value with
        | error failure =>
            simp only [hanswer] at hstep
            obtain ⟨⟨halt, hvalue, _, hindex⟩, hcalls⟩ := hstep
            rw [hvalue, hcalls, hmade]
            refine ⟨by simp [Outcome.reached, hindex], ?_⟩
            simp [Outcome.reached, hindex, batchCalls]
        | ok _ =>
            simp only [hanswer] at hstep
            obtain ⟨hreached, hcalls⟩ :=
              ih hmore ((writeEntry target envelope entry).run stores state).state
            rw [show start - (index + 1) = 0 by omega, List.drop_zero,
              show max start (index + 1) = index + 1 by omega] at hcalls
            rw [hstep.1, hstep.2, List.map_append, hmade, hcalls]
            refine ⟨Nat.le_of_succ_le hreached, ?_⟩
            -- The calls of this entry come in front, and one more entry has been reached.
            obtain ⟨more, hmore⟩ := Nat.exists_eq_add_of_le hreached
            rw [hmore, show index + 1 + more - (index + 1) = more by omega,
              show index + 1 + more - index = more + 1 by omega, List.take_succ_cons]
            rfl

/-- So does a dispatch of an envelope whose payload decodes; one that is ignored or refused makes no
call. -/
theorem calls_dispatchFrom (stores : Behaviour σ) (settings : Settings)
    (hdecode : decodeBatch envelope.payload = .ok entries) (start : Nat) (state : σ) :
    let run := (dispatchFrom settings envelope start).run stores state
    run.calls.map Prod.fst = batchCalls settings.target envelope
      ((entries.drop start).take (run.value.reached - start)) := by
  have hcount : 0 + entries.length = envelope.recordCount :=
    (Nat.zero_add _).trans (recordCount_of_decodes hdecode).symm
  cases hignored : envelope.isIgnored settings.ignoreSuffix with
  | true =>
      unfold dispatchFrom
      simp [hignored, Program.run_bind, Program.Run.after, Program.run, Outcome.reached, batchCalls]
  | false =>
      cases hvalid : envelope.validate with
      | error failure =>
          unfold dispatchFrom
          simp [hignored, hvalid, Program.run, Outcome.reached, batchCalls]
      | ok _ =>
          obtain ⟨hvalue, hcalls⟩ :=
            run_dispatchFrom hignored hvalid hdecode hcount stores start state
          obtain ⟨_, hwalked⟩ := calls_walk stores settings.target envelope start hcount state
          dsimp only
          rw [hvalue, hcalls, hwalked, Nat.sub_zero, Nat.max_zero]

/-! ## Dispatches one after the other -/

/-- Dispatches an envelope from each of several entries on, one dispatch after the other. -/
def dispatchEach (settings : Settings) (envelope : Envelope) :
    List Nat → Program (List (Attempt envelope.recordCount))
  | [] => return []
  | start :: starts => do
      let outcome ← dispatchFrom settings envelope start
      return ⟨start, outcome⟩ :: (← dispatchEach settings envelope starts)

/-- What the first of several dispatches came to and called stands before the others. -/
theorem run_dispatchEach_cons (stores : Behaviour σ) (settings : Settings) (envelope : Envelope)
    (start : Nat) (starts : List Nat) (state : σ) :
    let first := (dispatchFrom settings envelope start).run stores state
    let others := (dispatchEach settings envelope starts).run stores first.state
    let run := (dispatchEach settings envelope (start :: starts)).run stores state
    run.value = ⟨start, first.value⟩ :: others.value ∧ run.calls = first.calls ++ others.calls ∧
      run.state = others.state := by
  intro first others run
  simp [run, dispatchEach, Program.run_bind, Program.Run.after, Program.run, first, others]

/-- Ingesting from an entry on is dispatching from there and then from behind each entry that meets
a conflict. -/
theorem run_ingestFrom (stores : Behaviour σ) (settings : Settings) (envelope : Envelope)
    (start : Nat) (state : σ) :
    let run := (ingestFrom settings envelope start).run stores state
    let attempts := run.value.attempts
    let dispatches := (dispatchEach settings envelope (attempts.map Attempt.start)).run stores state
    Resumed start attempts ∧ dispatches.value = attempts ∧ dispatches.calls = run.calls ∧
      dispatches.state = run.state := by
  induction start using Outcome.resumption_induction envelope.recordCount generalizing state with
  | step start ih =>
      have hstep := run_ingestFrom_step stores settings envelope start state
      have hdispatches := fun starts =>
        run_dispatchEach_cons stores settings envelope start starts state
      dsimp only at hstep hdispatches ⊢
      generalize (dispatchFrom settings envelope start).run stores state = first
        at hstep hdispatches
      cases hnext : first.value.resumesAt? with
      | none =>
          rw [hnext] at hstep
          obtain ⟨hattempts, hmade, hleaves⟩ := hstep
          obtain ⟨hvalue, hcalls, hstate⟩ := hdispatches []
          rw [hattempts, hmade, hleaves]
          exact ⟨.last _, hvalue, hcalls.trans (List.append_nil _), hstate⟩
      | some next =>
          rw [hnext] at hstep
          obtain ⟨hattempts, hmade, hleaves⟩ := hstep
          obtain ⟨hresumed, hothers, hothersMade, hothersLeave⟩ := ih _ _ hnext first.state
          generalize (ingestFrom settings envelope next).run stores first.state = rest at *
          obtain ⟨hvalue, hcalls, hstate⟩ := hdispatches (rest.value.attempts.map Attempt.start)
          rw [hattempts, hmade, hleaves]
          refine ⟨?_, ?_, ?_, hstate.trans hothersLeave⟩
          · obtain ⟨halt, hhalted, hmore, rfl⟩ := Outcome.halted_of_resumesAt? hnext
            rw [hhalted]
            exact .next halt hmore hresumed
          · exact hvalue.trans (congrArg _ hothers)
          · exact hcalls.trans (congrArg _ hothersMade)

/-- Dispatches that resume one after the other make the calls of the entries from the first start
on, each entry's once and in order. -/
theorem calls_dispatchEach (stores : Behaviour σ) (settings : Settings)
    (hdecode : decodeBatch envelope.payload = .ok entries) {start : Nat}
    {attempts : List (Attempt envelope.recordCount)} (h : Resumed start attempts)
    (hstart : start ≤ entries.length) (state : σ) :
    let run := (dispatchEach settings envelope (attempts.map Attempt.start)).run stores state
    run.value = attempts → ∃ count, start ≤ count ∧ count ≤ entries.length ∧
      run.calls.map Prod.fst = batchCalls settings.target envelope
        ((entries.drop start).take (count - start)) := by
  have hcount := recordCount_of_decodes hdecode
  induction h generalizing state with
  | @last start outcome =>
      intro run hattempts
      obtain ⟨hvalue, hcalls, _⟩ := run_dispatchEach_cons stores settings envelope start [] state
      have hdispatched := calls_dispatchFrom stores settings hdecode start state
      obtain ⟨hfirst, _⟩ := List.cons.inj (hvalue.symm.trans hattempts)
      obtain rfl : _ = outcome := eq_of_heq (Attempt.mk.inj hfirst).2
      obtain ⟨hfrom, hto⟩ := Outcome.reached_mem (hcount ▸ hstart)
        ((dispatchFrom settings envelope start).run stores state).value
      refine ⟨_, hfrom, hcount ▸ hto, ?_⟩
      have hrun : run.calls = _ := hcalls.trans (List.append_nil _)
      rw [hrun, ← hdispatched]
  | @next start halt attempts hmore hrest ih =>
      intro run hattempts
      obtain ⟨hvalue, hcalls, _⟩ := run_dispatchEach_cons stores settings envelope start
        (attempts.map Attempt.start) state
      have hdispatched := calls_dispatchFrom stores settings hdecode start state
      obtain ⟨hfirst, hothers⟩ := List.cons.inj (hvalue.symm.trans hattempts)
      have hhalted := eq_of_heq (Attempt.mk.inj hfirst).2
      dsimp only at hdispatched
      rw [hhalted] at hdispatched
      have hindex := halt.index.isLt
      obtain ⟨count, hfrom, hto, hmade⟩ := ih (by omega) _ hothers
      have hbefore := halt.start_le
      refine ⟨count, by omega, hto, ?_⟩
      have hrun : run.calls = _ := hcalls
      rw [hrun, List.map_append, hdispatched, hmade, ← batchCalls_append]
      -- The entries up to the conflict, and those behind it.
      rw [show (Outcome.halted halt).reached = halt.index + 1 from rfl,
        show count - start = halt.index + 1 - start + (count - (halt.index + 1)) by omega,
        List.take_add, List.drop_drop, Nat.add_sub_of_le (by omega)]

/-! ## All dispatches of an envelope -/

/-- A dispatch that fails at a record reports one from its start on, and the number of records
behind it. -/
theorem record_of_report {start total : Nat} {outcome : Outcome start total} {failure : Failure}
    {record remaining : Nat}
    (h : outcome.report = .error ⟨failure, some record, remaining⟩) :
    start ≤ record ∧ record < total ∧ remaining = total - 1 - record := by
  cases outcome with
  | ignored => cases h
  | processed => cases h
  | refused other => cases h
  | halted halt =>
      cases h
      refine ⟨halt.start_le, halt.index.isLt, ?_⟩
      unfold Halt.remaining
      omega

/-- An envelope with a defect is refused for it before any record. -/
theorem dispatchFrom_of_defect (hignored : envelope.isIgnored settings.ignoreSuffix = false)
    {failure : Failure} (h : envelope.defect? = some failure) (start : Nat) :
    dispatchFrom settings envelope start = .done (.refused failure) := by
  unfold Envelope.defect? at h
  unfold dispatchFrom
  rw [hignored, if_neg Bool.false_ne_true]
  cases hvalid : envelope.validate with
  | error other =>
      rw [hvalid] at h
      cases h
      rfl
  | ok _ =>
      rw [hvalid] at h
      dsimp only at h ⊢
      split
      · next fault hfault =>
          rw [hfault] at h
          cases h
          rfl
      · next entries hdecode =>
          rw [hdecode] at h
          cases h

/-- Whatever the stores answer to any call, ingesting an envelope is a sequence of dispatches: it
makes their calls and leaves the stores that they leave. If the payload decodes there are at most as
many dispatches as entries, or one if there is no entry; the first starts at the first entry, each
further one later than the one before and at an entry. Each record reported as failed is one of the
batch from the dispatch's start on, and the number of records behind it is reported with it, which
is none exactly for the last. The calls made are those of the entries up to some place, each entry's
once. An envelope that fails before its records is dispatched once. -/
theorem walks_stay_within_batch (stores : Behaviour σ) (settings : Settings) (envelope : Envelope)
    (state : σ) :
    let run := (ingest settings envelope).run stores state
    let attempts := ((ingestFrom settings envelope 0).run stores state).value.attempts
    let starts := attempts.map Attempt.start
    let dispatches := (dispatchEach settings envelope starts).run stores state
    (dispatches.value = attempts ∧ dispatches.calls = run.calls ∧ dispatches.state = run.state) ∧
    (∀ entries, decodeBatch envelope.payload = .ok entries →
      attempts.length ≤ max 1 entries.length ∧
      (∃ later, starts = 0 :: later ∧ ∀ start ∈ later, start < entries.length) ∧
      starts.Pairwise (· < ·) ∧
      (∀ attempt ∈ attempts, ∀ failure record remaining,
        attempt.outcome.report = .error ⟨failure, some record, remaining⟩ →
          attempt.start ≤ record ∧ record < entries.length ∧
            remaining = entries.length - 1 - record ∧
            (remaining = 0 ↔ record + 1 = entries.length)) ∧
      ∃ count ≤ entries.length,
        run.calls.map Prod.fst = batchCalls settings.target envelope (entries.take count)) ∧
    ∀ failure, envelope.isIgnored settings.ignoreSuffix = false →
      envelope.defect? = some failure → attempts = [⟨0, .refused failure⟩] := by
  intro run attempts starts dispatches
  obtain ⟨hresumed, hvalue, hcalls, hstate⟩ := run_ingestFrom stores settings envelope 0 state
  -- The settlement is all that is left of an ingestion, and it makes no further call.
  have hrun : run.calls = ((ingestFrom settings envelope 0).run stores state).calls ∧
      run.state = ((ingestFrom settings envelope 0).run stores state).state := by
    simp [run, ingest, Program.run_bind, Program.Run.after, Program.run]
  refine ⟨⟨hvalue, hcalls.trans hrun.1.symm, hstate.trans hrun.2.symm⟩, ?_, ?_⟩
  · intro entries hdecode
    have hcount := recordCount_of_decodes hdecode
    refine ⟨?_, ?_, hresumed.starts_increase, ?_, ?_⟩
    · exact hcount ▸ hresumed.length_le
    · exact ⟨starts.tail, hresumed.starts_eq, fun start hlater =>
        hcount ▸ (hresumed.starts_tail start hlater).2⟩
    · intro attempt _ failure record remaining hreport
      obtain ⟨hfrom, hto, hbehind⟩ := record_of_report hreport
      rw [hcount] at hto hbehind
      exact ⟨hfrom, hto, hbehind, by omega⟩
    · obtain ⟨count, _, hto, hmade⟩ := calls_dispatchEach stores settings hdecode hresumed
        (Nat.zero_le _) state hvalue
      refine ⟨count, hto, ?_⟩
      rw [hrun.1, ← hcalls, hmade, List.drop_zero, Nat.sub_zero]
  · intro failure hignored hdefect
    show ((ingestFrom settings envelope 0).run stores state).value.attempts = _
    rw [ingestFrom, dispatchFrom_of_defect hignored hdefect]
    rfl

/-- Stores that answer every call with a conflict. -/
def conflicting : Behaviour Unit :=
  fun _ state => (.error (.snapshotConflict "taken"), state, [])

/-- On such stores the mixed delivery is dispatched from each of its three entries, and the second
dispatch reports its first record and one behind it; the spoilt delivery is dispatched once. -/
theorem mixedDelivery_dispatched_thrice :
    let attempts := ((ingestFrom testSettings mixedDelivery 0).run conflicting ()).value.attempts
    let spoilt := ((ingestFrom testSettings spoiltDelivery 0).run conflicting ()).value.attempts
    (attempts.length ≤ 3 ∧ attempts.map Attempt.start = [0, 1, 2] ∧
      (attempts.map Attempt.start).Pairwise (· < ·)) ∧
    (∃ attempt ∈ attempts,
      attempt.outcome.report = .error ⟨.snapshotConflict "taken", some 1, 1⟩ ∧
        attempt.start ≤ 1 ∧ 1 < mixedEntries.length ∧ 1 = mixedEntries.length - 1 - 1) ∧
    spoilt = [⟨0, .refused (.malformedBatch "record 2: state has no report set")⟩] := by
  intro attempts spoilt
  obtain ⟨_, hbatch, _⟩ := walks_stay_within_batch conflicting testSettings mixedDelivery ()
  obtain ⟨_, _, hrefused⟩ := walks_stay_within_batch conflicting testSettings spoiltDelivery ()
  obtain ⟨hlength, _, hincrease, hrecords, _⟩ := hbatch mixedEntries decodeBatch_mixedDelivery
  have hsecond : ∃ attempt ∈ attempts,
      attempt.outcome.report = .error ⟨.snapshotConflict "taken", some 1, 1⟩ := by
    decide +kernel
  obtain ⟨attempt, hmem, hreport⟩ := hsecond
  obtain ⟨hfrom, hto, hbehind, _⟩ := hrecords attempt hmem _ _ _ hreport
  refine ⟨⟨hlength, by decide +kernel, hincrease⟩,
    ⟨attempt, hmem, hreport, hfrom, hto, hbehind⟩, ?_⟩
  exact hrefused _ (by decide +kernel) (by decide +kernel)

end Glasshouse.Ingest
