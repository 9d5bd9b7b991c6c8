import Glasshouse.Proofs.Replay
import Glasshouse.Proofs.SuffixWalks

/-!
# What state documents hold

The state document of a device and kind holds in every field what was last written to it, be it by
a report that was merged or by another writer, and it is there exactly if something was written.
Nothing else reaches it: no telemetry, no report that could not be merged, and nothing that is done
for another device or kind. Main statement: `state_documents_keep_last_writes`.
-/

namespace Glasshouse.Store

/-- A field of a document, if both are there. -/
def Documents.field? (documents : Documents) (path name : String) : Option FieldValue :=
  documents[path]?.bind (·[name]?)

end Glasshouse.Store

namespace Glasshouse.Ingest

open Store Status

/-- An effect writes to the state document of a device and kind: a field of it is set, or a report
is merged into it. -/
def Effect.WritesState (device : String) (kind : Kind) : Effect → Prop
  | seeded path _ _ => path = statePath device kind
  | answered (.merge report) (.ok _) => report.device = device ∧ report.kind = kind
  | answered .. => False

/-- Whether an effect writes to a state document can be decided. -/
instance (device : String) (kind : Kind) :
    (effect : Effect) → Decidable (effect.WritesState device kind)
  | .seeded path _ _ => inferInstanceAs (Decidable (path = statePath device kind))
  | .answered (.merge report) (.ok _) =>
      inferInstanceAs (Decidable (report.device = device ∧ report.kind = kind))
  | .answered (.merge _) (.error _) | .answered (.create _) _ | .answered (.insert ..) _ =>
      inferInstanceAs (Decidable False)

/-- An action is about the state document of a device and kind: it sets a field of the document,
merges a report into it, or dispatches a batch of the device that has an entry of the kind. -/
def Action.ReachesState (device : String) (kind : Kind) : Action → Prop
  | call (.merge report) => report.device = device ∧ report.kind = kind
  | call _ | setMergesOffline _ | setRefusal _ => False
  | seed path _ _ => path = statePath device kind
  | dispatch envelope | dispatchFrom envelope _ | ingest envelope =>
      envelope.device = device ∧ ∃ entries, decodeBatch envelope.payload = .ok entries ∧
        ∃ entry ∈ entries, entry.record.kind = kind

variable {device name : String} {kind : Kind} {documents : Documents} {effect : Effect}
  {effects : List Effect}

/-! ## One effect -/

/-- What an effect is to a state document: another writer sets a field of it, a report of its device
and kind is merged into it, or the document stays as it is. -/
theorem effect_cases (device : String) (kind : Kind) (effect : Effect) :
    (∃ name value, effect = .seeded (statePath device kind) name value) ∨
      (∃ report, effect = .answered (.merge report) (.ok ()) ∧ report.device = device ∧
        report.kind = kind) ∨
      (¬ effect.WritesState device kind ∧
        (∀ name, effect.written? (statePath device kind) name = none) ∧
        ∀ documents : Documents, (effect.change documents)[statePath device kind]? =
          documents[statePath device kind]?) := by
  cases effect with
  | seeded path name value =>
      by_cases hpath : path = statePath device kind
      · exact Or.inl ⟨name, value, by rw [hpath]⟩
      · refine Or.inr (Or.inr ⟨hpath, fun other => ?_, fun documents => ?_⟩)
        · simp [Effect.written?, hpath]
        · simp [Effect.change, Std.ExtTreeMap.getElem?_insert, hpath]
  | answered call answer =>
      cases answer with
      | error failure =>
          refine Or.inr (Or.inr ⟨?_, fun _ => ?_, fun _ => rfl⟩)
          · cases call <;> exact id
          · cases call <;> rfl
      | ok _ =>
          cases call with
          | insert target sample => exact Or.inr (Or.inr ⟨id, fun _ => rfl, fun _ => rfl⟩)
          | create sample =>
              have hpath : samplePath sample ≠ statePath device kind :=
                telemetryPath_ne_statePath _ _ _ _
              refine Or.inr (Or.inr ⟨id, fun _ => rfl, fun documents => ?_⟩)
              simp only [Effect.change, Documents.after]
              split <;> simp [Std.ExtTreeMap.getElem?_insert, hpath]
          | merge report =>
              by_cases howner : report.device = device ∧ report.kind = kind
              · exact Or.inr (Or.inl ⟨report, rfl, howner⟩)
              · have hpath : report.path ≠ statePath device kind := mt statePath_inj.mp howner
                refine Or.inr (Or.inr ⟨howner, fun other => ?_, fun documents => ?_⟩)
                · simp [Effect.written?, hpath]
                · simp [Effect.change, Documents.after, Std.ExtTreeMap.getElem?_insert, hpath]

/-- What sets a field of a state document, and to what. -/
theorem written?_statePath_eq_some_iff {value : FieldValue} :
    effect.written? (statePath device kind) name = some value ↔
      effect = .seeded (statePath device kind) name value ∨
        ∃ report, effect = .answered (.merge report) (.ok ()) ∧ report.device = device ∧
          report.kind = kind ∧ (name = timestampField ∧ value = .timestamp report.time ∨
            name = dataField ∧ value = .bytes report.data) := by
  have hfields : timestampField ≠ dataField := by decide
  rcases effect_cases device kind effect with
    ⟨other, written, rfl⟩ | ⟨report, rfl, rfl, rfl⟩ | ⟨hnot, hwritten, _⟩
  · simp [Effect.written?]
  · simp only [Effect.written?, show report.path = statePath report.device report.kind from rfl,
      if_true]
    by_cases htime : name = timestampField
    · subst htime
      simp [hfields, eq_comm]
    · by_cases hdata : name = dataField
      · subst hdata
        simp [htime, eq_comm]
      · simp [htime, hdata]
  · rw [hwritten]
    refine iff_of_false (nomatch ·) ?_
    rintro (rfl | ⟨report, rfl, hdevice, hkind, _⟩)
    · exact hnot rfl
    · exact hnot ⟨hdevice, hkind⟩

/-- A state document is there after an effect if it was there or the effect writes to it. -/
theorem statePath_mem_change :
    statePath device kind ∈ effect.change documents ↔
      effect.WritesState device kind ∨ statePath device kind ∈ documents := by
  rcases effect_cases device kind effect with
    ⟨other, written, rfl⟩ | ⟨report, rfl, rfl, rfl⟩ | ⟨hnot, _, hchange⟩
  · exact iff_of_true Std.ExtTreeMap.mem_insert_self (Or.inl rfl)
  · exact iff_of_true Std.ExtTreeMap.mem_insert_self (Or.inl ⟨rfl, rfl⟩)
  · simp only [Std.ExtTreeMap.mem_iff_isSome_getElem?, hchange, hnot, false_or]

/-- A field of a state document after an effect is what the effect sets it to, or else what it
was. -/
theorem field?_change :
    (effect.change documents).field? (statePath device kind) name =
      (effect.written? (statePath device kind) name).or
        (documents.field? (statePath device kind) name) := by
  have hfields : dataField ≠ timestampField := by decide
  rcases effect_cases device kind effect with
    ⟨other, written, rfl⟩ | ⟨report, rfl, rfl, rfl⟩ | ⟨_, hwritten, hchange⟩
  · simp only [Documents.field?, Effect.change, Effect.written?,
      Std.ExtTreeMap.getElem?_insert_self, Option.bind_some, Std.ExtTreeMap.getElem?_insert,
      Std.compare_eq_iff_eq, true_and]
    split
    · rfl
    · cases documents[statePath device kind]? <;> rfl
  · have hkept : (documents[report.path]?.getD ∅)[name]? = documents.field? report.path name := by
      cases hthere : documents[report.path]? <;> simp [Documents.field?, hthere]
    have hmerged : (Effect.change documents (.answered (.merge report) (.ok ()))).field?
        report.path name = ((documents[report.path]?.getD ∅).mergeReport report)[name]? := by
      simp [Documents.field?, Effect.change, Documents.after]
    refine hmerged.trans ?_
    rw [getElem?_mergeReport, hkept]
    show _ = (if report.path = report.path then _ else none : Option FieldValue).or _
    rw [if_pos rfl]
    by_cases hdata : name = dataField
    · rw [if_pos hdata, if_neg (hdata ▸ hfields), if_pos hdata]
      rfl
    · rw [if_neg hdata, if_neg hdata]
      split <;> rfl
  · rw [Documents.field?, hchange, hwritten]
    rfl

/-! ## Many effects -/

/-- After effects a state document is there if it was there or one of them writes to it. -/
theorem statePath_mem_foldl_change :
    statePath device kind ∈ effects.foldl Effect.change documents ↔
      (∃ effect ∈ effects, effect.WritesState device kind) ∨
        statePath device kind ∈ documents := by
  induction effects generalizing documents with
  | nil => simp
  | cons effect effects ih =>
      rw [List.foldl_cons, ih, statePath_mem_change, ← or_assoc]
      simp only [List.mem_cons, exists_eq_or_imp, or_comm]

/-- Effects that do not write to a state document leave it alone. -/
theorem getElem?_foldl_change_of_not_writesState
    (h : ∀ effect ∈ effects, ¬ effect.WritesState device kind) :
    (effects.foldl Effect.change documents)[statePath device kind]? =
      documents[statePath device kind]? := by
  induction effects generalizing documents with
  | nil => rfl
  | cons effect effects ih =>
      obtain ⟨hfirst, hothers⟩ := List.forall_mem_cons.mp h
      rw [List.foldl_cons, ih hothers]
      rcases effect_cases device kind effect with
        ⟨_, _, rfl⟩ | ⟨_, rfl, hreport⟩ | ⟨_, _, hchange⟩
      · exact absurd rfl hfirst
      · exact absurd hreport hfirst
      · exact hchange documents

/-- A field of a state document after effects is what the last of them that sets it sets it to, or
else what it was. -/
theorem field?_foldl_change :
    (effects.foldl Effect.change documents).field? (statePath device kind) name =
      (Effect.lastWritten? effects (statePath device kind) name).or
        (documents.field? (statePath device kind) name) := by
  -- From the end, since the last effect hides the earlier ones.
  induction effects using List.reverseRecOn with
  | nil => rfl
  | append_singleton effects effect ih =>
      rw [List.foldl_append, List.foldl_cons, List.foldl_nil, field?_change, ih, ← Option.or_assoc]
      congr 1
      simp only [Effect.lastWritten?, List.reverse_append, List.reverse_singleton,
        List.singleton_append, List.findSome?_cons]
      cases effect.written? (statePath device kind) name <;> rfl

/-! ## The effects of an action -/

/-- A call is one of those for the batch of an envelope, which has one. -/
def IsBatchCall (target : Target) (envelope : Envelope) (call : Call) : Prop :=
  ∃ entries, decodeBatch envelope.payload = .ok entries ∧ call ∈ batchCalls target envelope entries

section Calls

variable {settings : Settings} {target : Target} {envelope : Envelope} {entries : List Entry}
  {stores : Stores} {call : Call}

/-- A pass over entries makes calls of these only. -/
theorem mem_batchCalls_of_mem_passOver
    (h : call ∈ (passOver target envelope entries stores).calls) :
    call ∈ batchCalls target envelope entries := by
  induction entries generalizing stores with
  | nil => cases h
  | cons entry entries ih =>
      rw [batchCalls, List.flatMap_cons, List.mem_append]
      rw [passOver] at h
      rcases hperform : performAll (entryCalls target envelope entry) stores with
        ⟨answer, written⟩
      rw [hperform] at h
      have hgoesOn (hmade : call ∈ entryCalls target envelope entry ++
          (passOver target envelope entries written).calls) :
          call ∈ entryCalls target envelope entry ∨ call ∈ batchCalls target envelope entries :=
        (List.mem_append.mp hmade).imp_right ih
      cases answer with
      | ok _ => exact hgoesOn h
      | error failure =>
          cases failure with
          | snapshotConflict path => exact hgoesOn h
          | _ => exact Or.inl h

/-- Ingesting an envelope makes calls for its batch only. -/
theorem isBatchCall_of_ingest
    (h : call ∈ ((ingest settings envelope).run Stores.behaviour stores).calls.map Prod.fst) :
    IsBatchCall settings.target envelope call := by
  obtain ⟨_, _, hcalls⟩ :=
    Program.run_of_silent_eq (silent_ingest settings envelope) Stores.behaviour stores
  rw [hcalls, (run_passProgram envelope settings stores).2.2, singlePass] at h
  split at h
  · cases h
  · split at h
    · cases h
    · split at h
      · cases h
      · next entries hdecode => exact ⟨entries, hdecode, mem_batchCalls_of_mem_passOver h⟩

/-- A dispatch from an entry on makes calls for its batch only. -/
theorem isBatchCall_of_dispatchFrom {start : Nat}
    (h : call ∈ ((dispatchFrom settings envelope start).run Stores.behaviour stores).calls.map
      Prod.fst) :
    IsBatchCall settings.target envelope call := by
  have hpart {part entries : List Entry} (hpart : part ⊆ entries)
      (hmade : call ∈ batchCalls settings.target envelope part) :
      call ∈ batchCalls settings.target envelope entries := by
    obtain ⟨entry, hentry, hcall⟩ := List.mem_flatMap.mp hmade
    exact List.mem_flatMap.mpr ⟨entry, hpart hentry, hcall⟩
  cases hignored : envelope.isIgnored settings.ignoreSuffix with
  | true =>
      simp [dispatchFrom, hignored, Program.run_bind, Program.run, Program.Run.after] at h
  | false =>
      cases hvalid : envelope.validate with
      | error failure => simp [dispatchFrom, hignored, hvalid, Program.run] at h
      | ok _ =>
          cases hdecode : decodeBatch envelope.payload with
          | error fault =>
              have hsilent : (dispatchFrom settings envelope start).silent =
                  (Program.done (.refused fault.toFailure)).silent :=
                silent_dispatchFrom_of_fault hignored hvalid hdecode start
              rw [(Program.run_of_silent_eq hsilent Stores.behaviour stores).2.2] at h
              cases h
          | ok entries =>
              refine ⟨entries, hdecode, ?_⟩
              obtain ⟨hends, hstops⟩ := report_dispatchFrom hignored hvalid hdecode start stores
              have hrest : entries.drop start ⊆ entries := List.drop_subset start entries
              rcases succeed_or_fail settings.target envelope (entries.drop start) stores with
                hall | ⟨place, failure, hbefore, hfails⟩
              · rw [(hends hall).2] at h
                exact hpart hrest h
              · rw [(hstops place failure hbefore hfails).2] at h
                exact hpart (List.Subset.trans (List.take_subset _ _) hrest) h

/-- Dispatching a whole envelope makes calls for its batch only. -/
theorem isBatchCall_of_dispatch
    (h : call ∈ ((dispatch settings envelope).run Stores.behaviour stores).calls.map Prod.fst) :
    IsBatchCall settings.target envelope call := by
  rw [dispatch, Program.bind_eq, Program.run_bind] at h
  rcases hrun : (dispatchFrom settings envelope 0).run Stores.behaviour stores with
    ⟨outcome, written, calls, events⟩
  have hcalls : call ∈ calls.map Prod.fst := by
    rw [hrun] at h
    cases outcome <;> simpa [Program.run, Program.Run.after] using h
  exact isBatchCall_of_dispatchFrom (by rwa [hrun])

variable {device : String} {kind : Kind} {effect : Effect} {report : StateReport}

/-- A report that is merged for a batch is of the envelope's device and of an entry's kind. -/
theorem IsBatchCall.reaches (h : IsBatchCall target envelope (.merge report))
    (howner : report.device = device ∧ report.kind = kind) :
    envelope.device = device ∧ ∃ entries, decodeBatch envelope.payload = .ok entries ∧
      ∃ entry ∈ entries, entry.record.kind = kind := by
  obtain ⟨entries, hdecode, hmem⟩ := h
  obtain ⟨entry, hentry, hcall⟩ := List.mem_flatMap.mp hmem
  rw [entryCalls_eq] at hcall
  split at hcall
  · simp at hcall
  · obtain rfl := Call.merge.inj (List.mem_singleton.mp hcall)
    exact ⟨howner.1, entries, hdecode, entry, hentry, howner.2⟩

/-- A program that has an effect on a state document merges a report into it. -/
theorem exists_merge_of_writesState {α : Type} {program : Program α}
    (heffect : effect ∈ (program.effects stores).2) (hwrites : effect.WritesState device kind) :
    ∃ report, .merge report ∈ (program.run Stores.behaviour stores).calls.map Prod.fst ∧
      report.device = device ∧ report.kind = kind := by
  obtain ⟨⟨call, answer⟩, hcall, rfl⟩ := List.mem_map.mp heffect
  rcases effect_cases device kind (.answered call answer) with
    ⟨_, _, h⟩ | ⟨report, h, howner⟩ | ⟨hnot, _⟩
  · cases h
  · cases h
    exact ⟨report, List.mem_map_of_mem hcall, howner⟩
  · exact absurd hwrites hnot

/-- An action that has an effect on a state document is about it. -/
theorem reachesState_of_writesState {action : Action}
    (heffect : effect ∈ (action.apply settings stores).2)
    (hwrites : effect.WritesState device kind) : action.ReachesState device kind := by
  cases action with
  | setMergesOffline _ | setRefusal _ => cases heffect
  | seed path name value =>
      obtain rfl := List.mem_singleton.mp heffect
      exact hwrites
  | call request =>
      obtain ⟨report, hcall, howner⟩ := exists_merge_of_writesState heffect hwrites
      obtain rfl : Call.merge report = request := List.mem_singleton.mp hcall
      exact howner
  | dispatch envelope =>
      obtain ⟨report, hcall, howner⟩ := exists_merge_of_writesState heffect hwrites
      exact (isBatchCall_of_dispatch hcall).reaches howner
  | dispatchFrom envelope start =>
      obtain ⟨report, hcall, howner⟩ := exists_merge_of_writesState heffect hwrites
      exact (isBatchCall_of_dispatchFrom hcall).reaches howner
  | ingest envelope =>
      obtain ⟨report, hcall, howner⟩ := exists_merge_of_writesState heffect hwrites
      exact (isBatchCall_of_ingest hcall).reaches howner

/-- An effect of a history on a state document is that of an action about it. -/
theorem exists_action_of_writesState {history : History}
    (heffect : effect ∈ (history.run settings stores).2)
    (hwrites : effect.WritesState device kind) :
    ∃ action ∈ history, action.ReachesState device kind := by
  induction history generalizing stores with
  | nil => cases heffect
  | cons action actions ih =>
      rcases List.mem_append.mp heffect with hfirst | hlater
      · exact ⟨action, List.mem_cons_self, reachesState_of_writesState hfirst hwrites⟩
      · obtain ⟨other, hother, hreaches⟩ := ih hlater
        exact ⟨other, List.mem_cons_of_mem _ hother, hreaches⟩

end Calls

/-! ## Histories -/

/-- After any history of stores that were empty, and for any device and kind. Every field of the
state document is what the last effect that sets it set it to, which was another writer, or a
report of this device and kind that was merged, if the field is the time or the data. The document
is there exactly if there was such an effect. And a further history leaves the document alone if it
has no such effect, in particular if none of its actions is about the document. -/
theorem state_documents_keep_last_writes (settings : Settings) (history later : History)
    (device : String) (kind : Kind) :
    let path := statePath device kind
    let before := history.run settings .empty
    let after := later.run settings before.1
    (∀ name, before.1.snapshots.documents.field? path name =
      Effect.lastWritten? before.2 path name) ∧
    (∀ (effect : Effect) name value, effect.written? path name = some value ↔
      effect = .seeded path name value ∨
        ∃ report, effect = .answered (.merge report) (.ok ()) ∧ report.device = device ∧
          report.kind = kind ∧ (name = timestampField ∧ value = .timestamp report.time ∨
            name = dataField ∧ value = .bytes report.data)) ∧
    (path ∈ before.1.snapshots.documents ↔
      ∃ effect ∈ before.2, effect.WritesState device kind) ∧
    ((∀ effect ∈ after.2, ¬ effect.WritesState device kind) →
      after.1.snapshots.documents[path]? = before.1.snapshots.documents[path]?) ∧
    ((∀ action ∈ later, ¬ action.ReachesState device kind) →
      after.1.snapshots.documents[path]? = before.1.snapshots.documents[path]?) := by
  intro path before after
  have hbefore := (history.replays settings .empty).documents
  have hafter := (later.replays settings before.1).documents
  have hframe (hnone : ∀ effect ∈ after.2, ¬ effect.WritesState device kind) :
      after.1.snapshots.documents[path]? = before.1.snapshots.documents[path]? := by
    rw [hafter]
    exact getElem?_foldl_change_of_not_writesState hnone
  refine ⟨fun name => ?_, fun _ _ _ => written?_statePath_eq_some_iff, ?_, hframe, fun hnone => ?_⟩
  · rw [hbefore, field?_foldl_change]
    exact Option.or_none
  · rw [hbefore, statePath_mem_foldl_change]
    exact or_iff_left Std.ExtTreeMap.not_mem_empty
  · refine hframe fun effect heffect hwrites => ?_
    obtain ⟨action, haction, hreaches⟩ := exists_action_of_writesState heffect hwrites
    exact hnone action haction hreaches

/-- Another writer leaves a note in the document for the figures of the memory, and then the mixed
delivery is ingested: the document has the note and the bytes of the figures. The delivery coming
again while merges are offline, and the same from another device, leave it alone. -/
theorem memory_figures_with_note :
    let path := statePath "grow-1" .memory
    let history : History := [.seed path "note" (.text "spare board"), .ingest mixedDelivery]
    let later : History := [.setMergesOffline true, .ingest mixedDelivery,
      .setMergesOffline false, .ingest { mixedDelivery with device := "grow-2" }]
    let before := history.run testSettings .empty
    let after := later.run testSettings before.1
    before.1.snapshots.documents.field? path "note" = some (.text "spare board") ∧
      before.1.snapshots.documents.field? path dataField = some (.bytes [34, 0]) ∧
      path ∈ before.1.snapshots.documents ∧
      after.1.snapshots.documents[path]? = before.1.snapshots.documents[path]? := by
  intro path history later before after
  obtain ⟨hfields, _, hthere, hframe, _⟩ :=
    state_documents_keep_last_writes testSettings history later "grow-1" .memory
  have hwritten : ∃ effect ∈ before.2, effect.WritesState "grow-1" .memory := by decide +kernel
  have hnone : ∀ effect ∈ after.2, ¬ effect.WritesState "grow-1" .memory := by decide +kernel
  refine ⟨(hfields "note").trans ?_, (hfields dataField).trans ?_, hthere.mpr hwritten,
    hframe hnone⟩
  · show Effect.lastWritten? before.2 path "note" = _
    decide +kernel
  · show Effect.lastWritten? before.2 path dataField = _
    decide +kernel

end Glasshouse.Ingest
