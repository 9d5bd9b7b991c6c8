import Mathlib.Data.List.Basic
import Glasshouse.Delivery.Consumer
import Glasshouse.Ingest.Schedule
import Glasshouse.Proofs.BatchWrites
import Glasshouse.Store.Memory

/-!
# Messages that are settled once

The messages of a batch are ingested in turn, and every message gets exactly one verdict: the one
that its own ingestion gives, on the stores that the messages before it left. Settling the batch
sends one settlement for each verdict, and if the processor fails every message is to be delivered
again. Main statement: `every_message_settled_once`.
-/

namespace Glasshouse.Delivery

open Ingest Store

/-! ## Verdicts -/

namespace Verdicts

/-- The places of all verdicts, as they are settled. -/
def places (verdicts : Verdicts) : List Nat :=
  verdicts.ack ++ verdicts.nak.map Prod.fst ++ verdicts.term.map Prod.fst

/-- The verdict on the message at a place is this settlement, with its reason. -/
def Says (verdicts : Verdicts) (place : Nat) : Settlement → Prop
  | .ack => place ∈ verdicts.ack
  | .nak reason => (place, some reason) ∈ verdicts.nak
  | .term reason => (place, some reason) ∈ verdicts.term

/-- Each list names its messages in the order in which they were delivered. -/
structure Increasing (verdicts : Verdicts) : Prop where
  ack : verdicts.ack.Pairwise (· < ·)
  nak : (verdicts.nak.map Prod.fst).Pairwise (· < ·)
  term : (verdicts.term.map Prod.fst).Pairwise (· < ·)

/-- The verdicts that settlements in order stand for, the first of which is at `place`. -/
def ofSettlements : (place : Nat) → List Settlement → Verdicts
  | _, [] => none
  | place, settlement :: settlements =>
      (ofSettlements (place + 1) settlements).cons place settlement

variable {verdicts : Verdicts} {place : Nat} {settlement : Settlement}
  {settlements : List Settlement}

/-- One more settlement adds its place. -/
theorem places_cons_perm :
    (verdicts.cons place settlement).places.Perm (place :: verdicts.places) := by
  cases settlement with
  | ack => exact .refl _
  | nak reason =>
      simp only [cons, places, List.map_cons, List.append_assoc, List.cons_append]
      exact List.perm_middle
  | term reason =>
      simp only [cons, places, List.map_cons]
      exact List.perm_middle

/-- One more settlement is the verdict at its place. -/
theorem says_cons_self : (verdicts.cons place settlement).Says place settlement := by
  cases settlement <;> exact List.mem_cons_self

/-- One more settlement leaves the other verdicts. -/
theorem Says.cons {other : Nat} {said : Settlement} (h : verdicts.Says other said) :
    (verdicts.cons place settlement).Says other said := by
  cases settlement <;> cases said <;> first | exact h | exact List.mem_cons_of_mem _ h

/-- A settlement in front of later ones keeps the lists increasing. -/
theorem Increasing.cons (h : verdicts.Increasing)
    (hlater : ∀ other ∈ verdicts.places, place < other) :
    (verdicts.cons place settlement).Increasing := by
  simp only [places, List.mem_append] at hlater
  cases settlement with
  | ack => exact ⟨h.ack.cons fun other hmem => hlater other (Or.inl (Or.inl hmem)), h.nak, h.term⟩
  | nak reason =>
      exact ⟨h.ack, h.nak.cons fun other hmem => hlater other (Or.inl (Or.inr hmem)), h.term⟩
  | term reason =>
      exact ⟨h.ack, h.nak, h.term.cons fun other hmem => hlater other (Or.inr hmem)⟩

/-- Every settlement has one place, and the places are consecutive. -/
theorem places_ofSettlements (place : Nat) (settlements : List Settlement) :
    (ofSettlements place settlements).places.Perm (List.range' place settlements.length) := by
  induction settlements generalizing place with
  | nil => exact .nil
  | cons settlement settlements ih => exact places_cons_perm.trans ((ih (place + 1)).cons place)

/-- Settlements in order give increasing lists. -/
theorem increasing_ofSettlements (place : Nat) (settlements : List Settlement) :
    (ofSettlements place settlements).Increasing := by
  induction settlements generalizing place with
  | nil => exact ⟨.nil, .nil, .nil⟩
  | cons settlement settlements ih =>
      refine (ih (place + 1)).cons fun other hmem => ?_
      have hrange := (places_ofSettlements (place + 1) settlements).mem_iff.mp hmem
      exact (List.mem_range'_1.mp hrange).1

/-- The verdict at a place is the settlement there. -/
theorem says_ofSettlements {index : Nat} (h : settlements[index]? = some settlement)
    (place : Nat) : (ofSettlements place settlements).Says (place + index) settlement := by
  induction settlements generalizing place index with
  | nil => cases h
  | cons first settlements ih =>
      cases index with
      | zero =>
          obtain rfl := Option.some.inj h
          exact says_cons_self
      | succ index =>
          have hlater := ih (show settlements[index]? = some settlement from h) (place + 1)
          rw [Nat.add_right_comm] at hlater
          exact hlater.cons

end Verdicts

/-! ## Messages in turn -/

/-- What the turn of one message leaves. -/
structure Turn where
  settlement : Settlement
  stores : Stores
  calls : List Exchange

/-- The turn of one message: without an envelope it is ended and no store is called, otherwise its
envelope is ingested. -/
def turn (settings : Settings) (message : Message) (stores : Stores) : Turn :=
  match message.envelope with
  | .error fault => ⟨.term fault.text, stores, []⟩
  | .ok envelope =>
      let run := (ingest settings envelope).run Stores.behaviour stores
      ⟨run.value, run.state, run.calls⟩

/-- The turns of messages, each on the stores that the one before it left. -/
def turns (settings : Settings) : List Message → Stores → List Turn
  | [], _ => []
  | message :: messages, stores =>
      turn settings message stores :: turns settings messages (turn settings message stores).stores

variable (settings : Settings)

/-- Handling a message is its turn. -/
theorem run_handle (message : Message) (stores : Stores) :
    let run := (handle settings message).run Stores.behaviour stores
    let turn := turn settings message stores
    run.value = turn.settlement ∧ run.state = turn.stores ∧ run.calls = turn.calls := by
  simp only [handle, turn]
  cases message.envelope with
  | error fault => exact ⟨rfl, rfl, rfl⟩
  | ok envelope =>
      -- The event about the settlement comes after all calls.
      have hlog (settlement : Settlement) (state : Stores) :
          ((logSettlement envelope.device settlement).bind fun _ => .done settlement).run
            Stores.behaviour state =
          ⟨settlement, state, [], ((logSettlement envelope.device settlement).run
            Stores.behaviour state).log⟩ := by
        cases settlement <;> rfl
      simp only [Program.bind_eq, Program.pure_eq, Program.run_bind, hlog]
      exact ⟨rfl, rfl, List.append_nil _⟩

/-- Processing messages gives the verdicts of their turns. -/
theorem run_processFrom (place : Nat) (messages : List Message) (stores : Stores) :
    let run := (processFrom settings place messages).run Stores.behaviour stores
    let turns := turns settings messages stores
    run.value = Verdicts.ofSettlements place (turns.map (·.settlement)) ∧
      run.state = (turns.map (·.stores)).getLastD stores ∧
      run.calls = turns.flatMap (·.calls) := by
  induction messages generalizing place stores with
  | nil => exact ⟨rfl, rfl, rfl⟩
  | cons message messages ih =>
      obtain ⟨hvalue, hstate, hcalls⟩ := run_handle settings message stores
      obtain ⟨hverdicts, hlast, hothers⟩ := ih (place + 1) (turn settings message stores).stores
      rw [processFrom, Program.bind_eq, Program.run_bind]
      simp only [Program.bind_eq, Program.pure_eq, Program.run_bind, Program.run, hvalue, hstate,
        hcalls, hverdicts, hlast, hothers, turns, Program.Run.after]
      refine ⟨rfl, ?_, ?_⟩
      · rw [List.map_cons, List.getLastD_cons]
      · rw [List.append_nil, List.flatMap_cons]

/-- Every message has its turn. -/
theorem length_turns (messages : List Message) (stores : Stores) :
    (turns settings messages stores).length = messages.length := by
  induction messages generalizing stores with
  | nil => rfl
  | cons message messages ih => exact congrArg (· + 1) (ih _)

/-! ## Settling -/

/-- Settlements are sent for the places of all verdicts. -/
theorem map_fst_signals (verdicts : Verdicts) :
    verdicts.signals.map Prod.fst = verdicts.places := by
  simp [Verdicts.signals, Verdicts.places, Function.comp_def]

/-- The messages at all places in order are all messages. -/
theorem filterMap_range_getElem? {α β : Type} (list : List α) (f : α → Option β) :
    (List.range list.length).filterMap (fun place => list[place]?.bind f) = list.filterMap f := by
  induction list with
  | nil => rfl
  | cons head tail ih =>
      rw [List.length_cons, List.range_succ_eq_map, List.filterMap_cons, List.filterMap_map,
        List.filterMap_cons, ← ih]
      rfl

/-- When every place has one verdict, every message that can be settled gets one settlement. -/
theorem replies_settlements_perm {messages : List Message} {verdicts : Verdicts}
    (h : verdicts.places.Perm (List.range messages.length)) :
    ((settlements messages verdicts).map (·.reply)).Perm (messages.filterMap (·.reply)) := by
  have hreplies : (settlements messages verdicts).map (·.reply) =
      verdicts.places.filterMap fun place => messages[place]?.bind (·.reply) := by
    rw [settlements, List.map_filterMap, ← map_fst_signals, List.filterMap_map]
    congr 1
    funext ⟨place, signal⟩
    simp [settledAt?, Function.comp_def]
  rw [hreplies, ← filterMap_range_getElem? messages]
  exact h.filterMap _

/-- Verdicts that bring all messages back ask for another delivery of each in turn. -/
theorem settlements_nakAll (messages : List Message) (reason : Option String) :
    settlements messages (.nakAll messages.length reason) =
      messages.filterMap fun message => message.reply.map (⟨·, .nak⟩) := by
  rw [← filterMap_range_getElem?, settlements]
  simp only [Verdicts.signals, Verdicts.nakAll, List.map_nil, List.nil_append, List.map_map,
    List.append_nil, List.filterMap_map]
  congr 1
  funext place
  simp only [settledAt?, Function.comp_def]
  cases messages[place]? <;> rfl

/-- The verdicts on a batch after its processor: its own, or if it failed those that bring all
messages back. -/
def decided (messages : List Message) : Except String Verdicts → Verdicts
  | .ok verdicts => verdicts
  | .error error => .nakAll messages.length (some error)

/-- Logging leaves the stores alone. -/
theorem run_logAll (events : List LogEvent) (stores : Stores) :
    (logAll events).run Stores.behaviour stores = ⟨(), stores, [], events⟩ := by
  induction events with
  | nil => rfl
  | cons event events ih => exact congrArg (Program.Run.after · [] [event]) ih

/-- The verdicts on a batch are those of its processor, or bring all messages back. -/
theorem run_decide (processor : Processor) (number : Nat) (messages : List Message)
    (stores : Stores) :
    let processed := (processor number messages).run Stores.behaviour stores
    let run := (decide processor number messages).run Stores.behaviour stores
    run.value = decided messages processed.value ∧ run.state = processed.state := by
  rw [decide, Program.bind_eq, Program.run_bind]
  simp only [Program.Run.after]
  cases ((processor number messages).run Stores.behaviour stores).value <;> exact ⟨rfl, rfl⟩

/-- A batch without a message is passed over; any other is processed and settled before the
batches behind it. -/
theorem run_consumeFrom_cons (processor : Processor) (size number : Nat) (items : List Item)
    (batches : List (List Item)) (stores : Stores) :
    let messages := received size items
    let processed := (processor number messages).run Stores.behaviour stores
    let rest := ((consumeFrom processor size (number + 1) batches).run Stores.behaviour
      processed.state).value
    ((consumeFrom processor size number (items :: batches)).run Stores.behaviour stores).value =
      if messages = [] then
        ((consumeFrom processor size number batches).run Stores.behaviour stores).value
      else ⟨messages :: rest.batches,
        settlements messages (decided messages processed.value) ++ rest.settled⟩ := by
  rw [consumeFrom, Program.bind_eq, Program.run_bind, run_logAll]
  simp only [Program.Run.after, List.isEmpty_iff]
  split
  · rfl
  · obtain ⟨hvalue, hstate⟩ := run_decide processor number (received size items) stores
    have hlog (event : LogEvent) :
        ((Program.log event).run Stores.behaviour stores).state = stores := rfl
    simp only [Program.bind_eq, Program.pure_eq, Program.run_bind, Program.Run.after, hlog, hvalue,
      hstate, run_logAll]
    rfl

/-- What is sent for one batch are the settlements that the verdicts on it stand for. -/
theorem settled_consumeFrom (processor : Processor) (size number : Nat) (items : List Item)
    (stores : Stores) :
    let messages := received size items
    let processed := (processor number messages).run Stores.behaviour stores
    ((consumeFrom processor size number [items]).run Stores.behaviour stores).value.settled =
      settlements messages (decided messages processed.value) := by
  rw [run_consumeFrom_cons]
  split
  · next hnone =>
      -- Without messages there is nothing to settle, whatever the verdicts.
      simp [hnone, settlements, settledAt?, consumeFrom, Program.run]
  · exact List.append_nil _

/-- Processing gives every message one verdict. -/
theorem places_process_perm (messages : List Message) (stores : Stores) :
    ((process settings messages).run Stores.behaviour stores).value.places.Perm
      (List.range messages.length) := by
  obtain ⟨hvalue, _, _⟩ := run_processFrom settings 0 messages stores
  have hlength :
      ((turns settings messages stores).map (·.settlement)).length = messages.length := by
    rw [List.length_map, length_turns]
  rw [process, hvalue, List.range_eq_range', ← hlength]
  exact Verdicts.places_ofSettlements 0 _

/-- The processor that ingests every message does not fail. -/
theorem run_ingestProcessor (number : Nat) (messages : List Message)
    (stores : Stores) :
    let processed := (process settings messages).run Stores.behaviour stores
    let run := (ingestProcessor settings number messages).run Stores.behaviour stores
    run.value = .ok processed.value ∧ run.state = processed.state := by
  rw [ingestProcessor, Program.bind_eq, Program.run_bind]
  exact ⟨rfl, rfl⟩

/-- What is sent for one batch of ingested messages are the settlements of their verdicts. -/
theorem settled_ingestProcessor (size number : Nat) (items : List Item)
    (stores : Stores) :
    let messages := received size items
    ((consumeFrom (ingestProcessor settings) size number [items]).run Stores.behaviour
        stores).value.settled =
      settlements messages ((process settings messages).run Stores.behaviour stores).value := by
  obtain ⟨hprocessed, _⟩ := run_ingestProcessor settings number (received size items) stores
  refine (settled_consumeFrom _ size number items stores).trans ?_
  rw [hprocessed, decided]

/-- Processing a batch of messages gives each place one verdict, in increasing lists: the settlement
of the message's own turn, which for a message without an envelope ends it without a call to the
stores. When the batch is consumed the verdicts are sent in their order, and every message that says
where to reply to is settled once; if the processor fails, all of these are to be delivered again. -/
theorem every_message_settled_once (settings : Settings) :
    (∀ (messages : List Message) (stores : Stores),
      let run := (process settings messages).run Stores.behaviour stores
      let turns := turns settings messages stores
      run.value.places.Perm (List.range messages.length) ∧ run.value.Increasing ∧
      turns.length = messages.length ∧
      (∀ place turn, turns[place]? = some turn → run.value.Says place turn.settlement) ∧
      run.state = (turns.map (·.stores)).getLastD stores ∧
      run.calls = turns.flatMap (·.calls)) ∧
    (∀ (size number : Nat) (items : List Item) (stores : Stores),
      let messages := received size items
      let verdicts := ((process settings messages).run Stores.behaviour stores).value
      let consumption := ((consumeFrom (ingestProcessor settings) size number [items]).run
        Stores.behaviour stores).value
      consumption.settled = settlements messages verdicts ∧
      (verdicts.signals.map Prod.fst).Perm (List.range messages.length) ∧
      (consumption.settled.map (·.reply)).Perm (messages.filterMap (·.reply))) ∧
    ∀ (processor : Processor) (size number : Nat) (items : List Item) (stores : Stores)
      (error : String),
      let messages := received size items
      let consumption :=
        ((consumeFrom processor size number [items]).run Stores.behaviour stores).value
      ((processor number messages).run Stores.behaviour stores).value = .error error →
        consumption.settled =
          messages.filterMap fun message => message.reply.map (⟨·, .nak⟩) := by
  refine ⟨fun messages stores => ?_, fun size number items stores => ?_,
    fun processor size number items stores error hfails => ?_⟩
  · obtain ⟨hvalue, hstate, hcalls⟩ := run_processFrom settings 0 messages stores
    refine ⟨places_process_perm settings messages stores, ?_,
      length_turns settings messages stores, ?_, hstate, hcalls⟩
    · rw [process, hvalue]
      exact Verdicts.increasing_ofSettlements 0 _
    · intro place turn hturn
      have hsettlement := congrArg (Option.map (·.settlement)) hturn
      rw [← List.getElem?_map] at hsettlement
      rw [process, hvalue, ← Nat.zero_add place]
      exact Verdicts.says_ofSettlements hsettlement 0
  · have hplaces := places_process_perm settings (received size items) stores
    have hsettled := settled_ingestProcessor settings size number items stores
    refine ⟨hsettled, by rwa [map_fst_signals], ?_⟩
    simp only [hsettled]
    exact replies_settlements_perm hplaces
  · refine (settled_consumeFrom processor size number items stores).trans ?_
    rw [hfails, decided, settlements_nakAll]

/-- A message without headers, and a telemetry reading that is delivered twice. -/
def repeatedMessages : List Message :=
  let headers := [("Device-Id", "grow-1"), ("Project-Id", "greenhouse")]
  let payload := [10, 14, 8, 5, 18, 10, 13, 0, 0, 172, 65, 29, 0, 0, 112, 66]
  [⟨"status", some "$JS.ACK.status.ingester.1.1.1.1700000000000000000.0", none, payload⟩,
    ⟨"status", some "$JS.ACK.status.ingester.1.2.2.1700000000000000000.0", some headers, payload⟩,
    ⟨"status", some "$JS.ACK.status.ingester.2.2.3.1700000000000000000.0", some headers, payload⟩]

/-- The message without headers is ended. The first delivery of the reading is written, and the
second one meets its document: both are acknowledged. All three come back if the processor fails. -/
theorem unlabelled_message_settled_once :
    let run := (process testSettings repeatedMessages).run Stores.behaviour .empty
    let items := repeatedMessages.map Item.message
    let failing : Processor := fun _ _ => .done (.error "no dispatcher")
    (run.value.places.Perm [0, 1, 2] ∧ (0, some "missing Device-Id header") ∈ run.value.term ∧
      1 ∈ run.value.ack ∧ 2 ∈ run.value.ack) ∧
    (run.calls.map Prod.snd = [.ok (), .ok (),
        .error (.snapshotConflict "devices/grow-1/telemetry/1700000000"), .ok ()] ∧
      run.state.analytics.rows.length = 2) ∧
    (((consumeFrom (ingestProcessor testSettings) 3 0 [items]).run Stores.behaviour
        .empty).value.settled.map (·.reply)).Perm (repeatedMessages.filterMap (·.reply)) ∧
    ((consumeFrom failing 3 0 [items]).run Stores.behaviour .empty).value.settled =
      repeatedMessages.filterMap fun message => message.reply.map (⟨·, .nak⟩) := by
  intro run items failing
  obtain ⟨hverdicts, hconsumed, hfails⟩ := every_message_settled_once testSettings
  obtain ⟨hplaces, _, _, hsays, hstate, hcalls⟩ := hverdicts repeatedMessages .empty
  have hsettlements : (turns testSettings repeatedMessages .empty).map (·.settlement) =
      [.term "missing Device-Id header", .ack, .ack] := by
    decide +kernel
  have hsaid (place : Nat) {settlement : Settlement}
      (hplace : ((turns testSettings repeatedMessages .empty).map (·.settlement))[place]? =
        some settlement) : run.value.Says place settlement := by
    rw [List.getElem?_map] at hplace
    obtain ⟨turn, hturn, rfl⟩ := Option.map_eq_some_iff.mp hplace
    exact hsays place turn hturn
  have hanswers := congrArg (List.map Prod.snd) hcalls
  have hrows := congrArg (fun stores : Stores => stores.analytics.rows.length) hstate
  refine ⟨⟨hplaces, ?_, ?_, ?_⟩, ⟨?_, ?_⟩, (hconsumed 3 0 items .empty).2.2, ?_⟩
  · exact hsaid 0 (by rw [hsettlements]; rfl)
  · exact hsaid 1 (by rw [hsettlements]; rfl)
  · exact hsaid 2 (by rw [hsettlements]; rfl)
  · exact hanswers.trans (by decide +kernel)
  · exact hrows.trans (by decide +kernel)
  · exact hfails failing 3 0 items .empty "no dispatcher" rfl

/-- Over any number of batches, every message of a batch that was processed is settled once. -/
theorem batches_settled_once (size number : Nat) (batches : List (List Item))
    (stores : Stores) :
    let consumption := ((consumeFrom (ingestProcessor settings) size number batches).run
      Stores.behaviour stores).value
    consumption.batches = (batches.map (received size)).filter (· ≠ []) ∧
      (consumption.settled.map (·.reply)).Perm
        (consumption.batches.flatten.filterMap (·.reply)) := by
  induction batches generalizing number stores with
  | nil => exact ⟨rfl, .nil⟩
  | cons items batches ih =>
      simp only [run_consumeFrom_cons, run_ingestProcessor, decided]
      split
      · next hnone =>
          obtain ⟨hbatches, hsettled⟩ := ih number stores
          exact ⟨by simpa [hnone] using hbatches, hsettled⟩
      · next hsome =>
          obtain ⟨hbatches, hsettled⟩ := ih (number + 1)
            ((process settings (received size items)).run Stores.behaviour stores).state
          constructor
          · simpa [hsome] using hbatches
          · rw [List.map_append, List.flatten_cons, List.filterMap_append]
            exact (replies_settlements_perm (places_process_perm settings _ stores)).append hsettled

end Glasshouse.Delivery
