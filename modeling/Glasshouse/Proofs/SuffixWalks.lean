import Glasshouse.Proofs.Walks

/-!
# Walks over the end of a batch

A dispatch that starts at an entry writes this one and those behind it, up to the first whose write
fails, and reports where that was. Main statement: `dispatchFrom_walks_suffix`.
-/

namespace Glasshouse.Ingest

open Store Status

/-- What a dispatch that failed reports: why, at which record if it came so far, and how many
records behind that one were not attempted. -/
structure Breakdown where
  failure : Failure
  record : Option Nat
  remaining : Nat
deriving DecidableEq, Repr

/-- What the caller of a dispatch is told. -/
def Outcome.report {start total : Nat} : Outcome start total → Except Breakdown Dispatched
  | .ignored => .ok .ignored
  | .processed => .ok (.processed total)
  | .refused failure => .error ⟨failure, none, 0⟩
  | .halted halt => .error ⟨halt.failure, some halt.index, halt.remaining⟩

variable {settings : Settings} {envelope : Envelope} {entries : List Entry}

/-- What a dispatch from an entry on reports and which calls it makes. -/
theorem report_dispatchFrom (hignored : envelope.isIgnored settings.ignoreSuffix = false)
    (hvalid : envelope.validate = .ok ()) (hdecode : decodeBatch envelope.payload = .ok entries)
    (start : Nat) (stores : Stores) :
    let rest := entries.drop start
    let run := (dispatchFrom settings envelope start).run Stores.behaviour stores
    (SucceedUpTo settings.target envelope rest stores rest.length →
      run.value.report = .ok (.processed entries.length) ∧
        run.calls.map Prod.fst = batchCalls settings.target envelope rest) ∧
    ∀ place failure, SucceedUpTo settings.target envelope rest stores place →
      FailsAt settings.target envelope rest stores place failure →
      run.value.report =
          .error ⟨failure, some (start + place), entries.length - 1 - (start + place)⟩ ∧
        run.calls.map Prod.fst = batchCalls settings.target envelope (rest.take (place + 1)) := by
  have hcount := recordCount_of_decodes hdecode
  obtain ⟨hvalue, hcalls⟩ :=
    run_dispatchFrom hignored hvalid hdecode (by omega) Stores.behaviour start stores
  obtain ⟨hends, hstops⟩ := run_walk settings.target envelope start
    (show 0 + entries.length = envelope.recordCount by omega) stores
  refine ⟨fun hall => ?_, fun place failure hbefore hfails => ?_⟩
  · obtain ⟨hnone, hmade⟩ := hends hall
    rw [hvalue, hcalls, hnone]
    exact ⟨by simp [Outcome.report, hcount], hmade⟩
  · obtain ⟨⟨halt, hsome, hfailure, hindex⟩, hmade⟩ := hstops place failure hbefore hfails
    rw [Nat.max_zero] at hindex
    have hremaining : halt.remaining = entries.length - 1 - (start + place) := by
      unfold Halt.remaining
      omega
    rw [hvalue, hcalls, hsome]
    exact ⟨by simp [Outcome.report, hfailure, hindex, hremaining], hmade⟩

/-- A dispatch from an entry on of a good envelope, whatever the stores hold and how their switches
are set. If every write from there on succeeds it reports the whole batch as processed and has made
the calls of these entries, in order. Otherwise it reports the failure of the first write that
fails, the place of its entry in the batch and the number of entries behind, and has made the calls
up to those of this entry. In both cases the stores are those after the calls made. And when the
entries up to a later one succeed, it comes out as if they were written by themselves and a second
dispatch started at the later one. -/
theorem dispatchFrom_walks_suffix (settings : Settings) (envelope : Envelope)
    (entries : List Entry) (stores : Stores) (start : Nat)
    (hignored : envelope.isIgnored settings.ignoreSuffix = false) (hdevice : envelope.device ≠ "")
    (hdecode : decodeBatch envelope.payload = .ok entries) :
    let rest := entries.drop start
    let calls := batchCalls settings.target envelope
    let run := (dispatchFrom settings envelope start).run Stores.behaviour stores
    (SucceedUpTo settings.target envelope rest stores rest.length →
      run.value.report = .ok (.processed entries.length) ∧
        run.calls.map Prod.fst = calls rest ∧ run.state = stores.performEach (calls rest)) ∧
    (∀ place failure, SucceedUpTo settings.target envelope rest stores place →
      FailsAt settings.target envelope rest stores place failure →
      run.value.report =
          .error ⟨failure, some (start + place), entries.length - 1 - (start + place)⟩ ∧
        run.calls.map Prod.fst = calls (rest.take (place + 1)) ∧
        run.state = stores.performEach (calls (rest.take (place + 1)))) ∧
    ∀ next, start ≤ next → next ≤ entries.length →
      SucceedUpTo settings.target envelope rest stores (next - start) →
      let written := stores.performEach (calls (rest.take (next - start)))
      let resumed := (dispatchFrom settings envelope next).run Stores.behaviour written
      run.value.report = resumed.value.report ∧ run.state = resumed.state ∧
        run.calls.map Prod.fst =
          calls (rest.take (next - start)) ++ resumed.calls.map Prod.fst := by
  intro rest calls run
  have hvalid := validate_of_ne hdevice
  have hstate := (dispatchFrom settings envelope start).state_run stores
  obtain ⟨hends, hstops⟩ := report_dispatchFrom hignored hvalid hdecode start stores
  refine ⟨fun hall => ?_, fun place failure hbefore hfails => ?_, ?_⟩
  · obtain ⟨hreport, hmade⟩ := hends hall
    exact ⟨hreport, hmade, hstate.trans (congrArg stores.performEach hmade)⟩
  · obtain ⟨hreport, hmade⟩ := hstops place failure hbefore hfails
    exact ⟨hreport, hmade, hstate.trans (congrArg stores.performEach hmade)⟩
  · intro next hnext hlast hfront written resumed
    have hrest : entries.drop next = rest.drop (next - start) := by
      rw [List.drop_drop, Nat.add_sub_of_le hnext]
    obtain ⟨hresumedEnds, hresumedStops⟩ :=
      report_dispatchFrom hignored hvalid hdecode next written
    -- It is enough to compare the calls, since they leave the stores.
    suffices hsame : run.value.report = resumed.value.report ∧ run.calls.map Prod.fst =
        calls (rest.take (next - start)) ++ resumed.calls.map Prod.fst by
      refine ⟨hsame.1, ?_, hsame.2⟩
      rw [hstate, hsame.2, Stores.performEach_append]
      exact ((dispatchFrom settings envelope next).state_run written).symm
    rcases succeed_or_fail settings.target envelope (entries.drop next) written with
      hall | ⟨place, failure, hbefore, hfails⟩
    · obtain ⟨hreport, hmade⟩ := hresumedEnds hall
      rw [hrest] at hall hmade
      have hlength : next - start + (rest.drop (next - start)).length = rest.length := by
        simp only [rest, List.length_drop]
        omega
      obtain ⟨hwhole, hmadeWhole⟩ := hends (hlength ▸ succeedUpTo_add hfront hall)
      refine ⟨hwhole.trans hreport.symm, ?_⟩
      rw [hmadeWhole, hmade, ← batchCalls_append, List.take_append_drop]
    · obtain ⟨hreport, hmade⟩ := hresumedStops place failure hbefore hfails
      rw [hrest] at hbefore hfails hmade
      obtain ⟨hwhole, hmadeWhole⟩ :=
        hstops _ failure (succeedUpTo_add hfront hbefore) (failsAt_drop.mp hfails)
      rw [← Nat.add_assoc, Nat.add_sub_of_le hnext] at hwhole
      refine ⟨hwhole.trans hreport.symm, ?_⟩
      rw [hmadeWhole, hmade, ← batchCalls_append, Nat.add_assoc, ← List.take_add]

/-- The mixed delivery is dispatched from its second record on while rows are refused: the figures
of the memory are written and stay, the reading behind them is reported as the third record, with
none behind it, and a dispatch from there on would have reported the same. -/
theorem mixedDelivery_breaks_down :
    let refusing := Stores.empty.setRefusal (some "too many parts")
    let run := (dispatchFrom testSettings mixedDelivery 1).run Stores.behaviour refusing
    let written := refusing.performEach
      (batchCalls testSettings.target mixedDelivery [⟨.memory ⟨0, 0⟩, 0, [34, 0]⟩])
    let resumed := (dispatchFrom testSettings mixedDelivery 2).run Stores.behaviour written
    (∃ failure, failure.message =
        "Analytics store rejected insert into hydroponics.telemetry: too many parts" ∧
      run.value.report = .error ⟨failure, some 2, 0⟩) ∧
    statePath "grow-1" .memory ∈ run.state.snapshots.documents ∧
    resumed.value.report = run.value.report := by
  intro refusing run written resumed
  obtain ⟨_, hstops, hresumes⟩ := dispatchFrom_walks_suffix testSettings mixedDelivery mixedEntries
    refusing 1 (by decide +kernel) (by decide) decodeBatch_mixedDelivery
  have hmerged : SucceedUpTo testSettings.target mixedDelivery (mixedEntries.drop 1) refusing 1 :=
    succeedUpTo_cons_succ.mpr
      ⟨by decide +kernel, fun place hplace => absurd hplace (Nat.not_lt_zero place)⟩
  obtain ⟨failure, hfails, hmessage⟩ : ∃ failure,
      FailsAt testSettings.target mixedDelivery (mixedEntries.drop 1) refusing 1 failure ∧
        failure.message =
          "Analytics store rejected insert into hydroponics.telemetry: too many parts" :=
    ⟨_, ⟨_, rfl, rfl⟩, by decide +kernel⟩
  obtain ⟨hreport, _, hstate⟩ := hstops 1 failure hmerged hfails
  refine ⟨⟨failure, hmessage, hreport⟩, ?_, ?_⟩
  · rw [hstate]
    decide +kernel
  · exact (hresumes 2 (by decide) (by decide) hmerged).1.symm

end Glasshouse.Ingest
