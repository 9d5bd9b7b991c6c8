import Glasshouse.Ingest.History
import Glasshouse.Proofs.SinglePass

/-!
# Rows of acknowledged envelopes

Rows are only ever appended, so a row that is there when an envelope is acknowledged stays. It
need not be there: while rows are refused, an entry whose telemetry document exists already meets
two failures, and the conflict, which is the one reported, is passed over.
`acknowledged_rows_iff` says when every row of an acknowledged batch is there, and
`acknowledged_row_missing` is a delivery whose row is not.
-/

namespace Glasshouse.Ingest

open Store Status

/-! ## Rows stay -/

/-- A program leaves the rows that it finds. -/
theorem rows_prefix_run {α : Type} (program : Program α) (stores : Stores) :
    stores.analytics.rows <+: (program.run Stores.behaviour stores).state.analytics.rows := by
  rw [program.state_run]
  exact stores.rows_prefix_performEach _

/-- A history leaves the rows that it finds. -/
theorem rows_prefix_history (settings : Settings) (history : History) (stores : Stores) :
    stores.analytics.rows <+: (History.run settings stores history).1.analytics.rows := by
  apply History.run_invariant settings (fun later => stores.analytics.rows <+: later.analytics.rows)
  · intro action _ later hlater
    refine hlater.trans ?_
    cases action with
    | seed _ _ _ | setMergesOffline _ | setRefusal _ => exact List.prefix_rfl
    | call request => exact rows_prefix_run (.perform request) later
    | dispatch envelope => exact rows_prefix_run (Ingest.dispatch settings envelope) later
    | dispatchFrom envelope start =>
        exact rows_prefix_run (Ingest.dispatchFrom settings envelope start) later
    | ingest envelope => exact rows_prefix_run (Ingest.ingest settings envelope) later
  · exact List.prefix_rfl

/-! ## Rows that are there -/

/-- An acknowledged pass appends the rows of its batch, unless rows are refused. -/
theorem passOver_rows_of_ack (target : Target) (envelope : Envelope) (entries : List Entry)
    (stores : Stores) (hack : (passOver target envelope entries stores).settlement = .ack) :
    (passOver target envelope entries stores).stores.analytics.rows =
      stores.analytics.rows ++
        if stores.analytics.refusal = none then batchRows target envelope entries else [] := by
  obtain ⟨front, _, hstores, hfront⟩ := passOver_front target envelope entries stores
  rw [hstores, hfront hack, Stores.rows_performEach, filterMap_rowOf?_batchCalls]

/-- When an envelope is acknowledged its rows are all there exactly if rows were being taken or
had all been there before; and the rows that are there stay, whatever happens later. -/
theorem acknowledged_rows_iff (settings : Settings) (envelope : Envelope) (stores : Stores)
    (hignored : envelope.isIgnored settings.ignoreSuffix = false)
    (hack : ((ingest settings envelope).run Stores.behaviour stores).value = .ack) :
    let after := ((ingest settings envelope).run Stores.behaviour stores).state
    ∃ entries, decodeBatch envelope.payload = .ok entries ∧
      ((∀ row ∈ batchRows settings.target envelope entries, row ∈ after.analytics.rows) ↔
        stores.analytics.refusal = none ∨
          ∀ row ∈ batchRows settings.target envelope entries, row ∈ stores.analytics.rows) ∧
      ∀ later : History,
        after.analytics.rows <+: (History.run settings after later).1.analytics.rows := by
  obtain ⟨hvalid, entries, hdecode⟩ := decodes_of_ack hignored hack
  obtain ⟨hvalue, hstate⟩ := run_ingest_of_decodes hignored hvalid hdecode stores
  refine ⟨entries, hdecode, ?_, fun later => rows_prefix_history settings later _⟩
  rw [hstate, passOver_rows_of_ack _ _ _ _ (hvalue.symm.trans hack)]
  -- While rows are refused the pass leaves the rows as they were.
  cases stores.analytics.refusal with
  | none => simp +contextual
  | some reason => simp

/-- A delivery of telemetry, memory and telemetry to empty stores is acknowledged and its two rows
are there. -/
theorem acknowledged_rows_of_mixedDelivery :
    let after := ((ingest testSettings mixedDelivery).run Stores.behaviour .empty).state
    ∃ entries, decodeBatch mixedDelivery.payload = .ok entries ∧
      ∀ row ∈ batchRows testSettings.target mixedDelivery entries, row ∈ after.analytics.rows := by
  obtain ⟨entries, hdecode, hiff, _⟩ := acknowledged_rows_iff testSettings mixedDelivery .empty
    (by decide +kernel) (by decide +kernel)
  exact ⟨entries, hdecode, hiff.mpr (Or.inl rfl)⟩

/-- One reading of telemetry. -/
def telemetryDelivery : Envelope :=
  ⟨"grow-1", "greenhouse", .ofParts 1700000000 0, [10, 2, 18, 0]⟩

/-- Two deliveries while rows are refused: the first creates the document and fails on the row, the
second fails on both, reports the conflict alone and is acknowledged without the row. -/
theorem acknowledged_row_missing :
    let refused := (History.run testSettings .empty
      [.setRefusal (some "too many parts"), .ingest telemetryDelivery]).1
    let again := (ingest testSettings telemetryDelivery).run Stores.behaviour refused
    telemetryDelivery.isIgnored testSettings.ignoreSuffix = false ∧ again.value = .ack ∧
      ∃ entries, decodeBatch telemetryDelivery.payload = .ok entries ∧
        ∃ row ∈ batchRows testSettings.target telemetryDelivery entries,
          row ∉ again.state.analytics.rows := by
  intro refused again
  have hrows : again.state.analytics.rows = [] := by decide +kernel
  have hany : (decodeBatch telemetryDelivery.payload).toOption.any
      (batchRows testSettings.target telemetryDelivery · != []) = true := by decide +kernel
  obtain ⟨entries, hdecode, htelemetry⟩ := exists_entries_of_any hany
  obtain ⟨row, hrow⟩ := List.exists_mem_of_ne_nil _ (bne_iff_ne.mp htelemetry)
  refine ⟨by decide +kernel, by decide +kernel, entries, hdecode, row, hrow, ?_⟩
  rw [hrows]
  exact List.not_mem_nil

end Glasshouse.Ingest
