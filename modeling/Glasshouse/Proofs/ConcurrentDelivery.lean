import Glasshouse.Proofs.Owed
import Glasshouse.Proofs.SinglePass

/-!
# Deliveries of one envelope at the same time

Programs that ingest the same envelope and share their stores. Each owes the calls of the batch, and
a schedule makes the calls of all of them in some order, the calls to one store by one program in
the order of the batch. So the first call at any path is the first of the batch and the last call is
the last, which is all that the documents depend on. Main statement:
`concurrent_deliveries_converge`.
-/

namespace Glasshouse.Ingest

open Store Status

variable {α : Type} {value : α} {pool pool' : List (Program α)} {owed : List (List Call)}
  {stores stores' : Stores} {trace : List (Nat × Exchange)}

/-! ## Schedules of programs that owe calls -/

/-- Lists that are related place by place stay so when related elements are set at one place. -/
theorem forall₂_set {β : Type} {related : α → β → Prop} {first : List α} {second : List β}
    (h : List.Forall₂ related first second) {place : Nat} {a : α}
    (hplace : first[place]? = some a) :
    ∃ b, second[place]? = some b ∧ related a b ∧ ∀ a' b', related a' b' →
      List.Forall₂ related (first.set place a') (second.set place b') := by
  induction h generalizing place with
  | nil => cases hplace
  | @cons _ other first second hhead htail ih =>
      cases place with
      | zero =>
          obtain rfl := Option.some.inj hplace
          exact ⟨other, rfl, hhead, fun _ _ hnew => .cons hnew htail⟩
      | succ place =>
          have hrest : first[place]? = some a := hplace
          obtain ⟨b, hb, hrelated, hset⟩ := ih hrest
          exact ⟨b, hb, hrelated, fun a' b' hnew => .cons hhead (hset a' b' hnew)⟩

/-- A schedule on healthy stores makes calls that were owed, and the stores afterwards are those
after these calls. -/
theorem served_of_interleaving (howes : List.Forall₂ (Program.Owes value) pool owed)
    (hhealthy : stores.Healthy)
    (h : Interleaving Stores.behaviour pool stores trace pool' stores') :
    stores' = stores.performEach (requestsOf trace) ∧ ∃ owed',
      Served owed (requestsOf trace) owed' ∧ List.Forall₂ (Program.Owes value) pool' owed' := by
  induction h generalizing owed with
  | refl => exact ⟨rfl, owed, .nil, howes⟩
  | @step _ _ _ _ _ _ _ _ exchange _ hplace hstep _ ih =>
      obtain ⟨request, answer⟩ := exchange
      obtain ⟨calls, hcalls, hprogram, hset⟩ := forall₂_set howes hplace
      obtain ⟨rfl, left, hnext, hleft⟩ := hprogram.step hhealthy hstep
      obtain ⟨hstores, owed', hserved, howes'⟩ :=
        ih (hset _ _ hleft) (hhealthy.perform request)
      exact ⟨hstores, owed', .cons hcalls hnext hserved, howes'⟩

/-- The programs of a pool have all ended exactly if none owes a call, and then with their value. -/
theorem mapM_value?_of_owes (howes : List.Forall₂ (Program.Owes value) pool owed) :
    pool.mapM Program.value? =
      if owed.flatten = [] then some (List.replicate pool.length value) else none := by
  induction howes with
  | nil => rfl
  | @cons program calls pool owed hhead _ ih =>
      rw [List.mapM_cons, ih, hhead.value?_eq, List.flatten_cons]
      by_cases hcalls : calls = []
      · by_cases howed : owed.flatten = []
        · simp [hcalls, howed, List.replicate_succ]
        · simp [hcalls, howed]
      · simp [hcalls]

/-- Programs that owe calls can make them all, whatever the order so far was. -/
theorem exists_runsTogether (howes : List.Forall₂ (Program.Owes value) pool owed)
    (hhealthy : stores.Healthy) :
    ∃ trace values final, RunsTogether Stores.behaviour pool stores trace values final := by
  -- Every step takes one call off the lists.
  let left := fun n pool (stores : Stores) => stores.Healthy ∧
    ∃ owed, List.Forall₂ (Program.Owes value) pool owed ∧ owed.flatten.length = n
  have hleft : left owed.flatten.length pool stores := ⟨hhealthy, owed, howes, rfl⟩
  refine exists_runsTogether_of_fewer (fun hbefore hplace hstep => ?_) hleft
  obtain ⟨hhealthy, owed, howes, rfl⟩ := hbefore
  obtain ⟨calls, hcalls, hprogram, hset⟩ := forall₂_set howes hplace
  obtain ⟨rfl, calls', hnext, hcalls'⟩ := hprogram.step hhealthy hstep
  have hlength := (flatten_set_perm hcalls hnext.perm).length_eq
  rw [List.length_cons] at hlength
  exact ⟨_, by omega, hhealthy.perform _, _, hset _ _ hcalls', rfl⟩

/-! ## Deliveries of one envelope -/

/-- Programs that run the same program owe the same calls. -/
theorem owes_replicate {program : Program α} {calls : List Call} (h : program.Owes value calls)
    (k : Nat) :
    List.Forall₂ (Program.Owes value) (List.replicate k program) (List.replicate k calls) := by
  induction k with
  | zero => exact .nil
  | succ k ih => exact .cons h ih

/-- A snapshot store that is shared by deliveries of one envelope ends with the documents of a
single delivery. -/
theorem documents_of_served {k : Nat} (hk : 0 < k) {calls requests : List Call}
    {owed' : List (List Call)} (h : Served (List.replicate k calls) requests owed')
    (hended : ∀ calls ∈ owed', calls = []) (documents : Documents) :
    documents.afterAll requests = documents.afterAll calls :=
  afterAll_congr (fun _ => (h.ends_of_replicate (fun _ _ => rfl) hk hended).1)
    fun _ => (h.ends_of_replicate (fun _ _ => rfl) hk hended).2

/-- Any number of programs ingest the same envelope on shared healthy stores. However their calls
are interleaved they all come to an end and acknowledge it; the documents are those of a single run,
the telemetry document is journaled at most once, and every program appends all rows. -/
theorem concurrent_deliveries_converge (settings : Settings) (envelope : Envelope)
    (entries : List Entry) (stores : Stores) (k : Nat) (hk : 0 < k) (hhealthy : stores.Healthy)
    (hignored : envelope.isIgnored settings.ignoreSuffix = false) (hdevice : envelope.device ≠ "")
    (hdecode : decodeBatch envelope.payload = .ok entries) :
    let pool := List.replicate k (ingest settings envelope)
    let calls := batchCalls settings.target envelope entries
    let rows := batchRows settings.target envelope entries
    let once := (ingest settings envelope).run Stores.behaviour stores
    let path := telemetryPath envelope.device envelope.ingestedAt.seconds
    (∀ trace pool' stores', Interleaving Stores.behaviour pool stores trace pool' stores' →
      trace.length ≤ k * calls.length ∧ ∃ rest values final,
        RunsTogether Stores.behaviour pool stores (trace ++ rest) values final) ∧
    ∀ trace values final, RunsTogether Stores.behaviour pool stores trace values final →
      values = List.replicate k .ack ∧
      final.snapshots.documents = once.state.snapshots.documents ∧
      (∃ journaled, final.snapshots.journal = stores.snapshots.journal ++ journaled ∧
        journaled.count path ≤ 1) ∧
      ∃ added, final.analytics.rows = stores.analytics.rows ++ added ∧
        added.Perm (List.replicate k rows).flatten := by
  have hvalid := validate_of_ne hdevice
  have howes := owes_replicate (owes_ingest hignored hvalid hdecode) k
  intro pool calls rows once path
  constructor
  · intro trace pool' stores' hschedule
    obtain ⟨rfl, owed', hserved, howes'⟩ := served_of_interleaving howes hhealthy hschedule
    constructor
    · have hlength := hserved.perm.length_eq
      rw [List.length_append, List.length_flatten, List.map_replicate, List.sum_replicate_nat,
        requestsOf, List.length_map] at hlength
      exact Nat.le.intro hlength.symm
    · obtain ⟨rest, values, final, ended, hrest, hvalues⟩ :=
        exists_runsTogether howes' (hhealthy.performEach _)
      exact ⟨rest, values, final, ended, hschedule.trans hrest, hvalues⟩
  · rintro trace values final ⟨ended, hschedule, hvalues⟩
    obtain ⟨rfl, owed', hserved, howes'⟩ := served_of_interleaving howes hhealthy hschedule
    -- All programs have ended, so the calls made are those that were owed.
    rw [mapM_value?_of_owes howes', Option.ite_none_right_eq_some] at hvalues
    obtain ⟨hended, hvalues⟩ := hvalues
    obtain rfl := Option.some.inj hvalues
    have hperm := hserved.perm
    rw [hended, List.append_nil] at hperm
    refine ⟨?_, ?_, ?_, ?_⟩
    · rw [hschedule.length_eq, List.length_replicate]
    · obtain ⟨_, honce⟩ := run_ingest_of_healthy hignored hvalid hdecode hhealthy
      rw [honce, hhealthy.documents_performEach, hhealthy.documents_performEach]
      exact documents_of_served hk hserved (List.flatten_eq_nil_iff.mp hended) _
    · exact stores.journaled_at_most_once (requestsOf trace) _ _
    · refine ⟨(requestsOf trace).filterMap rowOf?, hhealthy.rows_performEach _, ?_⟩
      refine (hperm.symm.filterMap rowOf?).trans (.of_eq ?_)
      rw [List.filterMap_flatten, List.map_replicate, filterMap_rowOf?_batchCalls]

/-- Two programs ingest a batch of telemetry, memory and telemetry on empty stores: they can be run
to their ends, and then both acknowledge it and the documents are those of a single run. -/
theorem two_mixedDeliveries_converge :
    let pool := List.replicate 2 (ingest testSettings mixedDelivery)
    let once := (ingest testSettings mixedDelivery).run Stores.behaviour .empty
    ∃ trace values final, RunsTogether Stores.behaviour pool .empty trace values final ∧
      values = [.ack, .ack] ∧ final.snapshots.documents = once.state.snapshots.documents := by
  obtain ⟨entries, hdecode, _⟩ := mixedDelivery_decodes
  obtain ⟨hfinishes, hends⟩ := concurrent_deliveries_converge testSettings mixedDelivery entries
    .empty 2 (by decide) ⟨rfl, rfl⟩ (by decide +kernel) (by decide) hdecode
  obtain ⟨_, trace, values, final, hruns⟩ := hfinishes [] _ _ .refl
  obtain ⟨hvalues, hdocuments, _⟩ := hends _ _ _ hruns
  exact ⟨_, values, final, hruns, hvalues, hdocuments⟩

end Glasshouse.Ingest
