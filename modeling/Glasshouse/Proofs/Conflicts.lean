import Glasshouse.Ingest.History
import Glasshouse.Proofs.BatchPaths
import Glasshouse.Proofs.Walks
import Glasshouse.Proofs.WellFormed

/-!
# What a conflict meets

A telemetry record is passed over when its document exists. What the document holds is the first
sample that was ever put forward for its device and second, by an earlier envelope or by an earlier
entry of the same batch, and that need not be the record's own. `conflicts_meet_first_sample` says
when it is, and `conflict_meets_other_reading` is a batch for which it is not.
-/

namespace Glasshouse.Ingest

open Store Status

/-! ## A document tells its sample -/

/-- Measurements are told by their values in order. -/
theorem toList_injective {values values' : Measurements Number.Binary64}
    (h : values.toList = values'.toList) : values = values' := by
  cases values
  cases values'
  simpa [Measurements.toList] using h

/-- Samples of one path with the same document are the same. -/
theorem eq_of_ofSample_eq {sample other : Sample} (hpath : samplePath sample = samplePath other)
    (h : Document.ofSample sample = .ofSample other) : sample = other := by
  obtain ⟨hdevice, _⟩ := telemetryPath_inj.mp hpath
  have htime : sample.time = other.time := by
    have hfield := getElem?_ofSample_timestampField sample
    rw [h, getElem?_ofSample_timestampField, Option.some_inj] at hfield
    exact (FieldValue.timestamp.inj hfield).symm
  have hvalues : sample.values = other.values := by
    apply toList_injective
    refine List.ext_getElem rfl fun i hi hi' => ?_
    -- The same name stands before both values, and the document has one field of that name.
    have hnamed (values : Measurements Number.Binary64) (hi : i < values.toList.length) :
        (Measurements.names.get ⟨i, hi⟩, values.toList[i]) ∈ values.named :=
      List.mem_iff_getElem.mpr ⟨i, hi, List.getElem_zip⟩
    have hfield := getElem?_ofSample_of_mem (hnamed sample.values hi)
    rw [h, getElem?_ofSample_of_mem (hnamed other.values hi'), Option.some_inj] at hfield
    exact (FieldValue.number.inj hfield).symm
  cases sample
  cases other
  simp_all

/-! ## Samples of a history -/

/-- The sample that an effect puts forward for a path, whether or not a document is there. -/
def Effect.sampleAt? (path : String) : Effect → Option Sample
  | answered call _ => Store.sampleAt? path call
  | seeded .. => none

variable {settings : Settings} {history : History} {stores : Stores}

/-- A program leaves the telemetry document that it finds, or else that of the first sample that it
puts forward. -/
theorem telemetryDocument_effects {α : Type} (program : Program α) (device : String)
    (second : Int) :
    let left := program.effects stores
    left.1.snapshots.documents[telemetryPath device second]? =
      stores.snapshots.documents[telemetryPath device second]?.or
        ((left.2.filterMap (Effect.sampleAt? (telemetryPath device second))).head?.map
          .ofSample) := by
  intro left
  show (program.run Stores.behaviour stores).state.snapshots.documents[_]? = _
  rw [Program.state_run, Stores.getElem?_performEach_telemetryPath, List.filterMap_map]
  -- A call and its effect put the same sample forward.
  have hsamples : left.2.filterMap (Effect.sampleAt? (telemetryPath device second)) =
      (program.run Stores.behaviour stores).calls.filterMap
        (sampleAt? (telemetryPath device second) ∘ Prod.fst) := by
    simp only [left, Program.effects, List.filterMap_map]
    rfl
  rw [hsamples]

/-- So does an action, unless it is another writer's. -/
theorem telemetryDocument_apply (settings : Settings) (stores : Stores) {action : Action}
    (hown : ∀ path name value, action ≠ .seed path name value) (device : String) (second : Int) :
    let left := action.apply settings stores
    left.1.snapshots.documents[telemetryPath device second]? =
      stores.snapshots.documents[telemetryPath device second]?.or
        ((left.2.filterMap (Effect.sampleAt? (telemetryPath device second))).head?.map
          .ofSample) := by
  cases action with
  | seed path name value => exact absurd rfl (hown path name value)
  | setMergesOffline _ | setRefusal _ => exact (Option.or_none).symm
  | call request => exact telemetryDocument_effects _ device second
  | dispatch envelope => exact telemetryDocument_effects _ device second
  | dispatchFrom envelope start => exact telemetryDocument_effects _ device second
  | ingest envelope => exact telemetryDocument_effects _ device second

/-- So does a history without other writers. -/
theorem telemetryDocument_history (settings : Settings) (stores : Stores)
    (hown : ∀ path name value, .seed path name value ∉ history) (device : String) (second : Int) :
    let left := History.run settings stores history
    left.1.snapshots.documents[telemetryPath device second]? =
      stores.snapshots.documents[telemetryPath device second]?.or
        ((left.2.filterMap (Effect.sampleAt? (telemetryPath device second))).head?.map
          .ofSample) := by
  induction history generalizing stores with
  | nil => exact (Option.or_none).symm
  | cons action actions ih =>
      have haction (path name : String) (value : FieldValue) : action ≠ .seed path name value := by
        rintro rfl
        exact hown path name value List.mem_cons_self
      have hfirst := telemetryDocument_apply settings stores haction device second
      have hrest := ih (action.apply settings stores).1
        fun path name value h => hown path name value (List.mem_cons_of_mem _ h)
      simp only [History.run] at hfirst hrest ⊢
      rw [hrest, hfirst, List.filterMap_append, List.head?_append, Option.map_or, Option.or_assoc]

/-! ## Entries at which a walk stops -/

variable {envelope : Envelope} {batch entries : List Entry}

/-- A dispatch from an entry on stops as its walk does. -/
theorem dispatchFrom_halted (hignored : envelope.isIgnored settings.ignoreSuffix = false)
    (hvalid : envelope.validate = .ok ()) (hdecode : decodeBatch envelope.payload = .ok entries)
    (origin : Stores) (start : Nat) :
    let done := batchCalls settings.target envelope (entries.take start)
    let run := (dispatchFrom settings envelope start).run Stores.behaviour
      (origin.performEach done)
    ∀ halt, run.value = .halted halt →
      done ++ run.calls.map Prod.fst =
          batchCalls settings.target envelope (entries.take (halt.index + 1)) ∧
        FailsAt settings.target envelope entries origin halt.index halt.failure := by
  have hcount : 0 + entries.length = envelope.recordCount :=
    (Nat.zero_add _).trans (recordCount_of_decodes hdecode).symm
  intro done run halt hhalted
  obtain ⟨hvalue, hcalls⟩ := run_dispatchFrom hignored hvalid hdecode hcount Stores.behaviour start
    (origin.performEach done)
  obtain ⟨hends, hstops⟩ := run_walk settings.target envelope start hcount
    (origin.performEach done)
  replace hvalue := hhalted.symm.trans hvalue
  have hrun : run.calls = _ := hcalls
  rw [hrun]
  rcases succeed_or_fail settings.target envelope (entries.drop start)
    (origin.performEach done) with hall | ⟨place, failure, hbefore, hfails⟩
  · rw [(hends hall).1] at hvalue
    cases hvalue
  · obtain ⟨⟨other, hsome, rfl, hindex⟩, hmade⟩ := hstops place failure hbefore hfails
    rw [hsome] at hvalue
    obtain rfl : halt = other := Outcome.halted.inj hvalue
    rw [Nat.max_zero] at hindex
    rw [hindex]
    refine ⟨?_, failsAt_drop.mp hfails⟩
    rw [hmade, Nat.sub_zero, ← batchCalls_append, ← List.take_add, ← Nat.add_assoc]

/-- Every walk of an ingestion that stops at an entry does so when this entry fails after all before
it. -/
theorem ingestFrom_halted (hignored : envelope.isIgnored settings.ignoreSuffix = false)
    (hvalid : envelope.validate = .ok ()) (hdecode : decodeBatch envelope.payload = .ok entries)
    (origin : Stores) (start : Nat) :
    let done := batchCalls settings.target envelope (entries.take start)
    let run := (ingestFrom settings envelope start).run Stores.behaviour
      (origin.performEach done)
    ∀ attempt ∈ run.value.attempts, ∀ halt, attempt.outcome = .halted halt →
      batchCalls settings.target envelope (entries.take (halt.index + 1)) <+:
          done ++ run.calls.map Prod.fst ∧
        FailsAt settings.target envelope entries origin halt.index halt.failure := by
  induction start using Outcome.resumption_induction envelope.recordCount with
  | step start ih =>
      have hstopped := dispatchFrom_halted hignored hvalid hdecode origin start
      dsimp only at hstopped ⊢
      generalize batchCalls settings.target envelope (entries.take start) = done at hstopped ⊢
      have hstep := run_ingestFrom_step Stores.behaviour settings envelope start
        (origin.performEach done)
      have hleaves := (dispatchFrom settings envelope start).state_run (origin.performEach done)
      rw [← Stores.performEach_append] at hleaves
      dsimp only at hstep
      generalize (dispatchFrom settings envelope start).run Stores.behaviour
        (origin.performEach done) = first at hstopped hstep hleaves
      generalize (ingestFrom settings envelope start).run Stores.behaviour
        (origin.performEach done) = run at hstep ⊢
      intro attempt hattempt halt hhalted
      have hown (h : attempt = ⟨start, first.value⟩) (hfront : first.calls <+: run.calls) :
          batchCalls settings.target envelope (entries.take (halt.index + 1)) <+:
              done ++ run.calls.map Prod.fst ∧
            FailsAt settings.target envelope entries origin halt.index halt.failure := by
        subst h
        obtain ⟨hdone, hfails⟩ := hstopped halt hhalted
        exact ⟨hdone ▸ (List.prefix_append_right_inj done).mpr (hfront.map Prod.fst), hfails⟩
      cases hnext : first.value.resumesAt? with
      | none =>
          rw [hnext] at hstep
          obtain ⟨hvalue, hcalls, -⟩ := hstep
          rw [hvalue] at hattempt
          exact hown (List.mem_singleton.mp hattempt) (hcalls ▸ List.prefix_refl _)
      | some next =>
          rw [hnext] at hstep
          obtain ⟨hvalue, hcalls, -⟩ := hstep
          rw [hvalue] at hattempt
          rcases List.mem_cons.mp hattempt with hfirst | hlater
          · exact hown hfirst (hcalls ▸ List.prefix_append _ _)
          · -- The further dispatches meet the stores that the calls up to the conflict leave.
            obtain ⟨stop, hstop, -, rfl⟩ := Outcome.halted_of_resumesAt? hnext
            have hrest := ih _ _ hnext
            rw [hleaves, (hstopped stop hstop).1] at hlater hcalls
            rw [hcalls, List.map_append, ← List.append_assoc, (hstopped stop hstop).1]
            exact hrest attempt hlater halt hhalted

/-- Stores answer with a conflict to a create where a document exists, and to nothing else. -/
theorem perform_conflict {call : Call} {path : String}
    (h : (stores.perform call).1 = .error (.snapshotConflict path)) :
    ∃ sample, call = .create sample ∧ samplePath sample = path ∧
      path ∈ stores.snapshots.documents := by
  cases call with
  | create sample =>
      simp only [Stores.perform, SnapshotMemory.create] at h
      split at h
      · next hmem =>
          cases h
          exact ⟨sample, rfl, rfl, hmem⟩
      · cases h
  | merge report =>
      simp only [Stores.perform, SnapshotMemory.merge] at h
      split at h <;> cases h
  | insert target sample =>
      simp only [Stores.perform, AnalyticsMemory.insert] at h
      split at h <;> cases h

/-- A conflict is reported for an entry of telemetry whose document exists. -/
theorem FailsAt.conflict {target : Target} {origin : Stores} {place : Nat} {path : String}
    (h : FailsAt target envelope batch origin place (.snapshotConflict path)) :
    ∃ entry sample, batch[place]? = some entry ∧ sampleOf? envelope entry = some sample ∧
      samplePath sample = path ∧
      path ∈ (origin.performEach
        (batchCalls target envelope (batch.take place))).snapshots.documents := by
  obtain ⟨entry, hentry, hfails⟩ := h
  obtain ⟨front, call, rest, hcalls, hanswer⟩ := performAll_error hfails
  obtain ⟨sample, rfl, hpath, hmem⟩ := perform_conflict hanswer
  rw [entryCalls_eq] at hcalls
  cases hsample : sampleOf? envelope entry with
  | none =>
      simp only [hsample] at hcalls
      have hcreate : Call.create sample ∈ [Call.merge (reportOf envelope entry)] :=
        hcalls ▸ List.mem_append_right front List.mem_cons_self
      cases List.mem_singleton.mp hcreate
  | some own =>
      simp only [hsample] at hcalls
      -- The create comes before the insert, so nothing of the entry was written before it.
      cases front with
      | nil =>
          obtain ⟨hcreate, _⟩ := List.cons.inj hcalls
          cases hcreate
          exact ⟨entry, _, hentry, hsample, hpath, hmem⟩
      | cons first front =>
          have hcreate : Call.create sample ∈ [Call.insert target own] :=
            (List.cons.inj hcalls).2 ▸ List.mem_append_right front List.mem_cons_self
          cases List.mem_singleton.mp hcreate

/-- Only an envelope with a batch is walked over. -/
theorem decodes_of_halted {start : Nat} {attempt : Attempt envelope.recordCount}
    (hattempt : attempt ∈
      ((ingestFrom settings envelope start).run Stores.behaviour stores).value.attempts)
    {halt : Halt attempt.start envelope.recordCount} (hhalted : attempt.outcome = .halted halt) :
    envelope.isIgnored settings.ignoreSuffix = false ∧ envelope.validate = .ok () ∧
      ∃ entries, decodeBatch envelope.payload = .ok entries := by
  rw [ingestFrom] at hattempt
  cases hignored : envelope.isIgnored settings.ignoreSuffix with
  | true =>
      rw [dispatchFrom, hignored] at hattempt
      obtain rfl := List.mem_singleton.mp hattempt
      cases hhalted
  | false =>
      cases hvalid : envelope.validate with
      | error failure =>
          rw [dispatchFrom, hignored, hvalid] at hattempt
          obtain rfl := List.mem_singleton.mp hattempt
          cases hhalted
      | ok _ =>
          cases hdecode : decodeBatch envelope.payload with
          | ok entries => exact ⟨rfl, rfl, entries, rfl⟩
          | error fault =>
              have hindex := halt.index.isLt
              simp [Envelope.recordCount, hdecode] at hindex

/-! ## What a conflict meets -/

/-- The samples put forward for the telemetry document of an envelope, by the effects of a history
and then by entries of its batch. -/
def putForward (envelope : Envelope) (effects : List Effect) (entries : List Entry) : List Sample :=
  effects.filterMap
      (Effect.sampleAt? (telemetryPath envelope.device envelope.ingestedAt.seconds)) ++
    entries.filterMap (sampleOf? envelope)

/-- All samples put forward for a document have its path. -/
theorem samplePath_of_putForward {effects : List Effect} {sample : Sample}
    (h : sample ∈ putForward envelope effects entries) :
    samplePath sample = telemetryPath envelope.device envelope.ingestedAt.seconds := by
  rcases List.mem_append.mp h with heffects | hentries
  · obtain ⟨effect, _, heffect⟩ := List.mem_filterMap.mp heffects
    cases effect with
    | seeded _ _ _ => cases heffect
    | answered call answer =>
        cases call with
        | create other =>
            obtain ⟨hpath, hsample⟩ := Option.ite_none_right_eq_some.mp heffect
            exact Option.some.inj hsample ▸ hpath
        | merge _ | insert _ _ => cases heffect
  · obtain ⟨entry, _, hentry⟩ := List.mem_filterMap.mp hentries
    exact samplePath_of_sampleOf? envelope hentry

/-- After a history from empty stores and entries of a batch, the telemetry document of the envelope
is that of the first sample put forward. -/
theorem telemetryDocument_putForward (settings : Settings)
    (hown : ∀ path name value, Action.seed path name value ∉ history) (target : Target)
    (envelope : Envelope) (entries : List Entry) :
    ((History.run settings .empty history).1.performEach
        (batchCalls target envelope entries)).snapshots.documents[
          telemetryPath envelope.device envelope.ingestedAt.seconds]? =
      (putForward envelope (History.run settings .empty history).2 entries).head?.map
        .ofSample := by
  have hhistory := telemetryDocument_history settings .empty hown envelope.device
    envelope.ingestedAt.seconds
  rw [Stores.getElem?_performEach_telemetryPath, filterMap_sampleAt?_batchCalls, if_pos rfl,
    putForward, List.head?_append, Option.map_or, hhistory]
  rfl

/-- The place of the record that an attempt passed over, with the path of its document. -/
def Attempt.passedOver? {total : Nat} (attempt : Attempt total) : Option (Nat × String) :=
  match attempt.outcome with
  | .halted halt =>
      match halt.failure with
      | .snapshotConflict path => some (halt.index, path)
      | _ => none
  | _ => none

/-- The records that an ingestion passed over. -/
def Ingestion.passedOver {total : Nat} (ingestion : Ingestion total) : List (Nat × String) :=
  ingestion.attempts.filterMap Attempt.passedOver?

/-- A record is passed over where a walk stops with a conflict. -/
theorem exists_halt_of_passedOver {total place : Nat} {ingestion : Ingestion total} {path : String}
    (h : (place, path) ∈ ingestion.passedOver) :
    ∃ attempt ∈ ingestion.attempts, ∃ halt, attempt.outcome = .halted halt ∧
      halt.index = place ∧ halt.failure = .snapshotConflict path := by
  obtain ⟨attempt, hattempt, hpassed⟩ := List.mem_filterMap.mp h
  refine ⟨attempt, hattempt, ?_⟩
  unfold Attempt.passedOver? at hpassed
  split at hpassed
  · next halt hhalted =>
      split at hpassed
      · next other hfailure =>
          cases hpassed
          exact ⟨halt, hhalted, rfl, hfailure⟩
      · cases hpassed
  · cases hpassed

/-- A record is passed over because a document exists; what it holds is the first sample that was
put forward for its path, before the envelope or by an entry of the batch before the record. It is
the record's own exactly if that first sample is. -/
theorem conflicts_meet_first_sample (settings : Settings) (history : History)
    (hown : ∀ path name value, Action.seed path name value ∉ history) (envelope : Envelope) :
    let reached := History.run settings .empty history
    let run := (ingestFrom settings envelope 0).run Stores.behaviour reached.1
    ∀ place path, (place, path) ∈ run.value.passedOver →
      ∃ entries entry sample first, decodeBatch envelope.payload = .ok entries ∧
        entries[place]? = some entry ∧ sampleOf? envelope entry = some sample ∧
        samplePath sample = path ∧
        (putForward envelope reached.2 (entries.take place)).head? = some first ∧
        let done := batchCalls settings.target envelope (entries.take place)
        let held := (reached.1.performEach done).snapshots.documents[path]?
        done ++ entryCalls settings.target envelope entry <+: run.calls.map Prod.fst ∧
        held = some (.ofSample first) ∧ (held = some (.ofSample sample) ↔ first = sample) := by
  intro reached run place path hpassed
  obtain ⟨attempt, hattempt, halt, hhalted, rfl, hfailure⟩ := exists_halt_of_passedOver hpassed
  obtain ⟨hignored, hvalid, entries, hdecode⟩ := decodes_of_halted hattempt hhalted
  obtain ⟨hcalls, hfails⟩ :=
    ingestFrom_halted hignored hvalid hdecode reached.1 0 attempt hattempt halt hhalted
  rw [hfailure] at hfails
  obtain ⟨entry, sample, hentry, hsample, rfl, hmem⟩ := hfails.conflict
  rw [batchCalls_take_succ settings.target envelope hentry] at hcalls
  have hpath := samplePath_of_sampleOf? envelope hsample
  have hheld := telemetryDocument_putForward settings hown settings.target envelope
    (entries.take halt.index)
  -- There is a document, so some sample was put forward.
  rw [hpath, Std.ExtTreeMap.mem_iff_isSome_getElem?, hheld, Option.isSome_map,
    Option.isSome_iff_exists] at hmem
  obtain ⟨first, hfirst⟩ := hmem
  have hsame : samplePath first = samplePath sample :=
    (samplePath_of_putForward (List.mem_of_head? hfirst)).trans hpath.symm
  rw [hfirst, Option.map_some, ← hpath] at hheld
  refine ⟨entries, entry, sample, first, hdecode, hentry, hsample, rfl, hfirst, hcalls, hheld, ?_⟩
  rw [hheld, Option.some_inj]
  exact ⟨eq_of_ofSample_eq hsame, congrArg _⟩

/-- The mixed delivery comes again: its first record is passed over and its document holds the
record's own sample. -/
theorem redelivered_reading_is_held :
    let reached := History.run testSettings .empty [.ingest mixedDelivery]
    let run := (ingestFrom testSettings mixedDelivery 0).run Stores.behaviour reached.1
    let sample := Sample.ofReading mixedDelivery.device mixedDelivery.ingestedAt (.replicate 0)
    (0, samplePath sample) ∈ run.value.passedOver ∧
      reached.1.snapshots.documents[samplePath sample]? = some (.ofSample sample) := by
  intro reached run sample
  have hpassed : (0, samplePath sample) ∈ run.value.passedOver := by decide +kernel
  obtain ⟨entries, entry, own, first, hdecode, hentry, hsample, _, hfirst, _, _, hiff⟩ :=
    conflicts_meet_first_sample testSettings [.ingest mixedDelivery] (by simp) mixedDelivery 0
      (samplePath sample) hpassed
  obtain rfl := Except.ok.inj (decodeBatch_mixedDelivery.symm.trans hdecode)
  cases hentry
  cases hsample
  have hput : (putForward mixedDelivery reached.2 (mixedEntries.take 0)).head? = some sample := by
    decide +kernel
  exact ⟨hpassed, hiff.mpr (Option.some.inj (hfirst.symm.trans hput))⟩

/-- In the mixed delivery the third record is passed over and the envelope acknowledged, though the
document holds the sample of the first record and not that of the third. -/
theorem conflict_meets_other_reading :
    let run := (ingestFrom testSettings mixedDelivery 0).run Stores.behaviour .empty
    let before := Stores.empty.performEach
      (batchCalls testSettings.target mixedDelivery (mixedEntries.take 2))
    decodeBatch mixedDelivery.payload = .ok mixedEntries ∧ run.value.settlement = .ack ∧
      ∃ sample, mixedEntries[2]?.bind (sampleOf? mixedDelivery) = some sample ∧
        (2, samplePath sample) ∈ run.value.passedOver ∧
        before.snapshots.documents[samplePath sample]? ≠ some (.ofSample sample) ∧
        run.state.snapshots.documents[samplePath sample]? ≠ some (.ofSample sample) := by
  intro run before
  refine ⟨decodeBatch_mixedDelivery, by decide +kernel, _, rfl, by decide +kernel, ?_, ?_⟩
  · intro hheld
    have htemperature := congrArg (·.bind (·["temp_indoor"]?)) hheld
    revert htemperature
    decide +kernel
  · intro hheld
    have htemperature := congrArg (·.bind (·["temp_indoor"]?)) hheld
    revert htemperature
    decide +kernel

end Glasshouse.Ingest
