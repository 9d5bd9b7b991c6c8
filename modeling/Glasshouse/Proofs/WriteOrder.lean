import Glasshouse.Proofs.DifferentDevices
import Glasshouse.Proofs.ReachableStores

/-!
# The order of the two writes of a sample

A sample is written to both stores at the same time, and either call may take effect first.
`Program.inOrder` settles that for every pair of calls of a program, and the orders are all the
schedules that a program which runs alone can have (`runsTogether_singleton_iff`). For what a
dispatcher runs no order matters, and no call of a pair is left out whatever becomes of the other.
Main statement: `write_order_immaterial`.
-/

namespace Glasshouse.Ingest

open Store Status

/-- For every pair of joined calls, counted from zero, whether the first takes effect first. -/
abbrev WriteOrder := Nat → Bool

/-- The order for the pairs behind the first. -/
def WriteOrder.later (order : WriteOrder) : WriteOrder :=
  fun pair => order (pair + 1)

/-- The order that begins with the given choice. -/
def WriteOrder.after (firstFirst : Bool) (order : WriteOrder) : WriteOrder
  | 0 => firstFirst
  | pair + 1 => order pair

namespace Program

variable {α β σ : Type}

/-- The program with every pair of joined calls made one after the other as an order says. -/
def inOrder : Program α → WriteOrder → Program α
  | done value, _ => done value
  | emit event rest, order => emit event (rest.inOrder order)
  | call request next, order => call request fun answer => (next answer).inOrder order
  | join first second next, order =>
      if order 0 then
        call first fun answer => call second fun other => (next answer other).inOrder order.later
      else
        call second fun other => call first fun answer => (next answer other).inOrder order.later

/-- Events have no part in the order. -/
theorem silent_inOrder (program : Program α) (order : WriteOrder) :
    (program.inOrder order).silent = program.silent.inOrder order := by
  induction program generalizing order with
  | done value => rfl
  | emit event rest ih => exact ih order
  | call request next ih => simp only [inOrder, silent, ih]
  | join first second next ih =>
      simp only [inOrder, silent]
      split <;> simp only [silent, ih]

end Program

/-! ## Orders are schedules -/

section Schedules

variable {α σ : Type} {stores : Behaviour σ} {program : Program α} {state final : σ}
  {trace : List (Nat × Exchange)} {values : List α}

/-- A program that runs alone has ended, or makes a call and goes on. -/
theorem runsTogether_singleton_cases :
    RunsTogether stores [program] state trace values final ↔
      (∃ value, program.value? = some value ∧ trace = [] ∧ values = [value] ∧ final = state) ∨
        ∃ exchange program' middle rest, trace = (0, exchange) :: rest ∧
          program.Step stores state exchange program' middle ∧
          RunsTogether stores [program'] middle rest values final := by
  constructor
  · rintro ⟨ended, hrun, hvalues⟩
    cases hrun with
    | refl =>
        cases hvalue : program.value? with
        | none => simp [hvalue] at hvalues
        | some value =>
            have hsingle : values = [value] := by simpa [hvalue, eq_comm] using hvalues
            exact Or.inl ⟨value, rfl, rfl, hsingle, rfl⟩
    | @step _ _ _ _ _ place maker maker' exchange rest hplace hstep hrest =>
        obtain ⟨hlength, hget⟩ := List.getElem?_eq_some_iff.mp hplace
        obtain rfl : place = 0 := by simpa using hlength
        obtain rfl : program = maker := hget
        exact Or.inr ⟨exchange, maker', _, rest, rfl, hstep, ended, hrest, hvalues⟩
  · rintro (⟨value, hvalue, rfl, rfl, rfl⟩ | ⟨exchange, program', middle, rest, rfl, hstep, hrest⟩)
    · exact ⟨[program], .refl, by simp [hvalue]⟩
    · obtain ⟨ended, hinterleaving, hvalues⟩ := hrest
      exact ⟨ended, .step rfl hstep hinterleaving, hvalues⟩

/-- A program that has ended makes no call. -/
theorem runsTogether_done {value : α} :
    RunsTogether stores [.done value] state trace values final ↔
      trace = [] ∧ values = [value] ∧ final = state := by
  rw [runsTogether_singleton_cases]
  constructor
  · rintro (⟨other, hother, h⟩ | ⟨_, _, _, _, _, hstep, _⟩)
    · cases hother
      exact h
    · cases hstep
  · exact fun h => Or.inl ⟨value, rfl, h⟩

/-- Events are passed over. -/
theorem runsTogether_emit {event : LogEvent} :
    RunsTogether stores [.emit event program] state trace values final ↔
      RunsTogether stores [program] state trace values final := by
  rw [runsTogether_singleton_cases, runsTogether_singleton_cases]
  refine or_congr Iff.rfl ⟨?_, ?_⟩
  · rintro ⟨exchange, program', middle, rest, htrace, hstep, hrest⟩
    cases hstep with
    | emit hstep => exact ⟨exchange, program', middle, rest, htrace, hstep, hrest⟩
  · rintro ⟨exchange, program', middle, rest, htrace, hstep, hrest⟩
    exact ⟨exchange, program', middle, rest, htrace, .emit hstep, hrest⟩

/-- A call that a program waits for is made, and the program goes on with its answer. -/
theorem runsTogether_call {request : Call} {next : Answer → Program α} :
    RunsTogether stores [.call request next] state trace values final ↔
      ∃ rest, trace = (0, request, (stores request state).1) :: rest ∧
        RunsTogether stores [next (stores request state).1] (stores request state).2.1 rest values
          final := by
  rw [runsTogether_singleton_cases]
  constructor
  · rintro (⟨_, hvalue, _⟩ | ⟨exchange, program', middle, rest, htrace, hstep, hrest⟩)
    · cases hvalue
    · cases hstep with
      | call hcall =>
          rw [hcall]
          exact ⟨rest, htrace, hrest⟩
  · rintro ⟨rest, htrace, hrest⟩
    exact Or.inr ⟨_, _, _, rest, htrace, .call rfl, hrest⟩

/-- Two joined calls are made one after the other, in one order or in the other. -/
theorem runsTogether_join {first second : Call} {next : Answer → Answer → Program α} :
    RunsTogether stores [.join first second next] state trace values final ↔
      RunsTogether stores [.call first fun answer => .call second fun other => next answer other]
          state trace values final ∨
        RunsTogether stores [.call second fun other => .call first fun answer => next answer other]
          state trace values final := by
  rw [runsTogether_singleton_cases]
  constructor
  · rintro (⟨_, hvalue, _⟩ | ⟨exchange, program', middle, rest, htrace, hstep, hrest⟩)
    · cases hvalue
    · cases hstep with
      | joinFirst hcall =>
          refine Or.inl (runsTogether_call.mpr ⟨rest, ?_⟩)
          rw [hcall]
          exact ⟨htrace, hrest⟩
      | joinSecond hcall =>
          refine Or.inr (runsTogether_call.mpr ⟨rest, ?_⟩)
          rw [hcall]
          exact ⟨htrace, hrest⟩
  · rintro (hfirst | hsecond)
    · obtain ⟨rest, htrace, hrest⟩ := runsTogether_call.mp hfirst
      exact Or.inr ⟨_, _, _, rest, htrace, .joinFirst rfl, hrest⟩
    · obtain ⟨rest, htrace, hrest⟩ := runsTogether_call.mp hsecond
      exact Or.inr ⟨_, _, _, rest, htrace, .joinSecond rfl, hrest⟩

/-- The schedules of a program that runs alone are its orders. -/
theorem runsTogether_singleton_iff :
    RunsTogether stores [program] state trace values final ↔
      ∃ order : WriteOrder, let run := (program.inOrder order).run stores state
        trace = run.calls.map (0, ·) ∧ values = [run.value] ∧ final = run.state := by
  induction program generalizing state trace with
  | done value =>
      rw [runsTogether_done]
      exact ⟨fun h => ⟨fun _ => true, h⟩, fun ⟨_, h⟩ => h⟩
  | emit event rest ih => exact runsTogether_emit.trans ih
  | call request next ih =>
      simp only [runsTogether_call, ih]
      constructor
      · rintro ⟨_, rfl, order, rfl, rfl, rfl⟩
        exact ⟨order, rfl, rfl, rfl⟩
      · rintro ⟨order, rfl, rfl, rfl⟩
        exact ⟨_, rfl, order, rfl, rfl, rfl⟩
  | join first second next ih =>
      -- The choice at this pair goes in front of the order of what follows, and comes off again.
      simp only [runsTogether_join, runsTogether_call, ih]
      constructor
      · rintro (⟨_, rfl, _, rfl, order, rfl, rfl, rfl⟩ | ⟨_, rfl, _, rfl, order, rfl, rfl, rfl⟩)
        · exact ⟨order.after true, rfl, rfl, rfl⟩
        · exact ⟨order.after false, rfl, rfl, rfl⟩
      · rintro ⟨order, rfl, rfl, rfl⟩
        rw [Program.inOrder]
        split
        · exact Or.inl ⟨_, rfl, _, rfl, order.later, rfl, rfl, rfl⟩
        · exact Or.inr ⟨_, rfl, _, rfl, order.later, rfl, rfl, rfl⟩

end Schedules

/-! ## What a dispatcher runs -/

/-- The sample whose document a call creates. -/
def createdSample? : Call → Option Sample
  | .create sample => some sample
  | _ => none

/-- The sample whose row a call appends. -/
def insertedSample? : Call → Option Sample
  | .insert _ sample => some sample
  | _ => none

/-- The documents to be created are those of the samples whose rows are to be appended, one by one
and in the same order. -/
def Paired (calls : List Call) : Prop :=
  calls.filterMap createdSample? = calls.filterMap insertedSample?

/-- Calls that are paired stay so behind others that are. -/
theorem Paired.append {calls others : List Call} (h : Paired calls) (hothers : Paired others) :
    Paired (calls ++ others) := by
  unfold Paired at *
  rw [List.filterMap_append, List.filterMap_append, h, hothers]

namespace Program

variable {α : Type} {settings : Settings} {program : Program α}

/-- Whichever of two joined calls of a dispatcher takes effect first, it comes to the same value,
leaves the same stores, and makes the same calls with the same answers. -/
theorem Orderly.run_inOrder (h : program.Orderly settings) (order : WriteOrder)
    (stores : Stores) :
    let run := program.run Stores.behaviour stores
    let ordered := (program.inOrder order).run Stores.behaviour stores
    ordered.value = run.value ∧ ordered.state = run.state ∧ ordered.calls.Perm run.calls := by
  induction h generalizing order stores with
  | done => exact ⟨rfl, rfl, .refl _⟩
  | emit _ ih => exact ih order stores
  | @merge report _ _ _ ih =>
      obtain ⟨hvalue, hstate, hcalls⟩ := ih (stores.perform (.merge report)).1 order
        (stores.perform (.merge report)).2
      exact ⟨hvalue, hstate, hcalls.cons _⟩
  | @write sample next _ _ ih =>
      let created := stores.perform (.create sample)
      let inserted := created.2.perform (.insert settings.target sample)
      obtain ⟨hvalue, hstate, hcalls⟩ := ih created.1 inserted.1 order.later inserted.2
      rw [inOrder]
      split
      · exact ⟨hvalue, hstate, hcalls.append_left [(_, created.1), (_, inserted.1)]⟩
      · -- The calls are to different stores, so each is answered as in the other order.
        have hswap : List.Perm
            [(Call.insert settings.target sample, inserted.1), (Call.create sample, created.1)]
            [(Call.create sample, created.1), (Call.insert settings.target sample, inserted.1)] :=
          .swap _ _ _
        exact ⟨hvalue, hstate, hswap.append hcalls⟩

/-- Whatever the stores answer, and in whichever order the writes of a sample take effect, a
dispatcher makes both or none. -/
theorem Orderly.paired {σ : Type} (h : program.Orderly settings) (stores : Behaviour σ)
    (order : WriteOrder) (state : σ) :
    Paired (((program.inOrder order).run stores state).calls.map Prod.fst) := by
  induction h generalizing order state with
  | done => rfl
  | emit _ ih => exact ih order state
  | @merge report _ _ _ ih =>
      have hmerge : Paired [.merge report] := rfl
      exact hmerge.append (ih _ _ _)
  | @write sample _ _ _ ih =>
      rw [inOrder]
      split
      · have hpair : Paired [.create sample, .insert settings.target sample] := rfl
        exact hpair.append (ih _ _ _ _)
      · have hpair : Paired [.insert settings.target sample, .create sample] := rfl
        exact hpair.append (ih _ _ _ _)

end Program

/-- The write of a sample makes both calls, in the given order, and reports the failure of the
snapshot store, or else what the analytics store answers. -/
theorem run_fanOut_inOrder {σ : Type} (stores : Behaviour σ) (target : Target) (sample : Sample)
    (order : WriteOrder) (state : σ) :
    let run := ((fanOut target sample).inOrder order).run stores state
    ∃ created inserted, run.calls =
        (if order 0 then [(.create sample, created), (.insert target sample, inserted)]
          else [(.insert target sample, inserted), (.create sample, created)]) ∧
      run.value = created.bind fun _ => inserted := by
  have hsilent : ((fanOut target sample).inOrder order).silent =
      ((Program.join (.create sample) (.insert target sample) fun created inserted =>
        .done (created.bind fun _ => inserted)).inOrder order).silent := by
    rw [Program.silent_inOrder, Program.silent_inOrder, silent_fanOut]
    rfl
  obtain ⟨hvalue, _, hcalls⟩ := Program.run_of_silent_eq hsilent stores state
  intro run
  rw [hvalue, hcalls, Program.inOrder]
  split
  · exact ⟨_, _, rfl, rfl⟩
  · exact ⟨_, _, rfl, rfl⟩

/-! ## Histories -/

/-- The stores after an action, and its effects, when the writes of samples take effect in an
order. -/
def Action.applyInOrder (settings : Settings) (order : WriteOrder) (stores : Stores) :
    Action → Stores × List Effect
  | dispatch envelope => ((Ingest.dispatch settings envelope).inOrder order).effects stores
  | dispatchFrom envelope start =>
      ((Ingest.dispatchFrom settings envelope start).inOrder order).effects stores
  | ingest envelope => ((Ingest.ingest settings envelope).inOrder order).effects stores
  | action => action.apply settings stores

/-- The stores after a history, and its effects, when the writes of samples take effect in an order
for each action. -/
def History.runInOrder (settings : Settings) : (orders : Nat → WriteOrder) → Stores → History →
    Stores × List Effect
  | _, stores, [] => (stores, [])
  | orders, stores, action :: actions =>
      let (stores, effects) := action.applyInOrder settings (orders 0) stores
      let (stores, others) := runInOrder settings (fun place => orders (place + 1)) stores actions
      (stores, effects ++ others)

/-- The call of an effect, if it is one. -/
def Effect.call? : Effect → Option Call
  | answered call _ => some call
  | seeded .. => none

variable {settings : Settings}

/-- A dispatcher's effects on stores in memory are paired as its calls are. -/
theorem Program.Orderly.paired_effects {α : Type} {program : Program α}
    (h : program.Orderly settings) (order : WriteOrder) (stores : Stores) :
    Paired (((program.inOrder order).effects stores).2.filterMap Effect.call?) := by
  have hcalls : ((program.inOrder order).effects stores).2.filterMap Effect.call? =
      ((program.inOrder order).run Stores.behaviour stores).calls.map Prod.fst := by
    rw [Program.effects, List.filterMap_map, ← List.filterMap_eq_map]
    rfl
  rw [hcalls]
  exact h.paired Stores.behaviour order stores

/-- An action leaves the same stores in every order. -/
theorem Action.applyInOrder_stores (settings : Settings) (action : Action) (order : WriteOrder)
    (stores : Stores) :
    (action.applyInOrder settings order stores).1 = (action.apply settings stores).1 := by
  cases action with
  | dispatch envelope =>
      exact ((orderly_dispatch settings envelope).run_inOrder order stores).2.1
  | dispatchFrom envelope start =>
      exact ((orderly_dispatchFrom settings envelope start).run_inOrder order stores).2.1
  | ingest envelope => exact ((orderly_ingest settings envelope).run_inOrder order stores).2.1
  | call _ | seed _ _ _ | setMergesOffline _ | setRefusal _ => rfl

/-- An action that is not a single call writes samples to both stores. -/
theorem Action.paired {action : Action} (haction : ∀ call, action ≠ .call call)
    (order : WriteOrder) (stores : Stores) :
    Paired ((action.applyInOrder settings order stores).2.filterMap Effect.call?) := by
  cases action with
  | call request => exact absurd rfl (haction request)
  | seed _ _ _ | setMergesOffline _ | setRefusal _ => rfl
  | dispatch envelope => exact (orderly_dispatch settings envelope).paired_effects order stores
  | dispatchFrom envelope start =>
      exact (orderly_dispatchFrom settings envelope start).paired_effects order stores
  | ingest envelope => exact (orderly_ingest settings envelope).paired_effects order stores

/-- A history leaves the same stores in every order. -/
theorem History.runInOrder_stores (settings : Settings) (history : History)
    (orders : Nat → WriteOrder) (stores : Stores) :
    (history.runInOrder settings orders stores).1 = (history.run settings stores).1 := by
  induction history generalizing orders stores with
  | nil => rfl
  | cons action actions ih =>
      have hfirst := action.applyInOrder_stores settings (orders 0) stores
      exact (ih _ _).trans (congrArg (fun middle => (History.run settings middle actions).1) hfirst)

/-- A history without single calls writes samples to both stores. -/
theorem History.paired {history : History} (hhistory : ∀ call, .call call ∉ history)
    (orders : Nat → WriteOrder) (stores : Stores) :
    Paired ((history.runInOrder settings orders stores).2.filterMap Effect.call?) := by
  induction history generalizing orders stores with
  | nil => rfl
  | cons action actions ih =>
      have haction (call : Call) : action ≠ .call call := by
        rintro rfl
        exact hhistory call List.mem_cons_self
      rw [History.runInOrder, List.filterMap_append]
      exact (Action.paired haction _ _).append
        (ih (fun call hmem => hhistory call (List.mem_cons_of_mem _ hmem)) _ _)

/-- In whichever order the two writes of each sample take effect. Ingesting an envelope settles it
alike, leaves the same stores and makes the same calls with the same answers; its calls have a
schedule, and every schedule of them comes to this. A history of any length leaves the same stores,
and if none of its actions is a single call, the samples whose documents were to be created are
those whose rows were to be appended, in the same order; for the ingestion of an envelope this holds
whatever the stores answer. And of two failures that of the snapshot store is reported. -/
theorem write_order_immaterial (settings : Settings) :
    (∀ envelope stores order,
      let run := (ingest settings envelope).run Stores.behaviour stores
      let ordered := ((ingest settings envelope).inOrder order).run Stores.behaviour stores
      ordered.value = run.value ∧ ordered.state = run.state ∧ ordered.calls.Perm run.calls) ∧
    (∀ envelope stores,
      let run := (ingest settings envelope).run Stores.behaviour stores
      let schedules := RunsTogether Stores.behaviour [ingest settings envelope] stores
      (∃ trace, schedules trace [run.value] run.state) ∧
        ∀ trace values final, schedules trace values final →
          values = [run.value] ∧ final = run.state) ∧
    (∀ (history : History) orders stores,
      let ordered := history.runInOrder settings orders stores
      ordered.1 = (history.run settings stores).1 ∧
        ((∀ call, .call call ∉ history) → Paired (ordered.2.filterMap Effect.call?))) ∧
    (∀ (σ : Type) (stores : Behaviour σ) envelope order state,
      Paired ((((ingest settings envelope).inOrder order).run stores state).calls.map Prod.fst)) ∧
    ∀ (σ : Type) (stores : Behaviour σ) sample order state,
      let run := ((fanOut settings.target sample).inOrder order).run stores state
      ∃ created inserted,
        run.calls.Perm [(.create sample, created), (.insert settings.target sample, inserted)] ∧
        (∀ failure, created = .error failure → run.value = .error failure) ∧
        (created = .ok () → run.value = inserted) := by
  have hingest (envelope : Envelope) := orderly_ingest settings envelope
  refine ⟨fun envelope stores order => (hingest envelope).run_inOrder order stores, ?_, ?_,
    fun σ stores envelope order state => (hingest envelope).paired stores order state, ?_⟩
  · intro envelope stores run schedules
    have hordered (order : WriteOrder) := (hingest envelope).run_inOrder order stores
    constructor
    · obtain ⟨hvalue, hstate, _⟩ := hordered fun _ => true
      exact ⟨_, runsTogether_singleton_iff.mpr
        ⟨_, rfl, congrArg (fun value => [value]) hvalue.symm, hstate.symm⟩⟩
    · intro trace values final hrun
      obtain ⟨order, _, hvalues, hfinal⟩ := runsTogether_singleton_iff.mp hrun
      obtain ⟨hvalue, hstate, _⟩ := hordered order
      exact ⟨hvalues.trans (congrArg (fun value => [value]) hvalue), hfinal.trans hstate⟩
  · intro history orders stores
    refine ⟨history.runInOrder_stores settings orders stores, fun hnone => ?_⟩
    exact History.paired hnone orders stores
  · intro σ stores sample order state
    obtain ⟨created, inserted, hcalls, hvalue⟩ :=
      run_fanOut_inOrder stores settings.target sample order state
    refine ⟨created, inserted, ?_, ?_, ?_⟩
    · rw [hcalls]
      split
      · exact .refl _
      · exact .swap _ _ _
    · rintro failure rfl
      exact hvalue
    · rintro rfl
      exact hvalue

/-- The mixed delivery comes again while rows are refused, and the rows come first: both calls of
the first reading fail, the conflict is what counts, and the delivery is acknowledged as in the
other order. -/
theorem mixedDelivery_rows_first :
    let history : History := [.ingest mixedDelivery, .setRefusal (some "too many parts")]
    let stores := (history.run testSettings .empty).1
    let sample := Sample.ofReading mixedDelivery.device mixedDelivery.ingestedAt (.replicate 0)
    let rowsFirst : WriteOrder := fun _ => false
    let ordered := ((ingest testSettings mixedDelivery).inOrder rowsFirst).run
      Stores.behaviour stores
    ordered.value = .ack ∧
      ordered.calls.head?.map Prod.fst = some (.insert testSettings.target sample) ∧
      Paired (ordered.calls.map Prod.fst) ∧
      Paired ((history.runInOrder testSettings (fun _ => rowsFirst) .empty).2.filterMap
        Effect.call?) := by
  intro history stores sample rowsFirst ordered
  obtain ⟨hsame, _, hhistory, hpaired, _⟩ := write_order_immaterial testSettings
  have hacknowledged : ((ingest testSettings mixedDelivery).run Stores.behaviour stores).value =
      .ack := by
    decide +kernel
  refine ⟨(hsame mixedDelivery stores rowsFirst).1.trans hacknowledged, by decide +kernel,
    hpaired _ Stores.behaviour mixedDelivery rowsFirst stores, ?_⟩
  exact (hhistory history (fun _ => rowsFirst) .empty).2 (by simp [history])

end Glasshouse.Ingest
