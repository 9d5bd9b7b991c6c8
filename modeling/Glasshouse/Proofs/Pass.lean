import Glasshouse.Proofs.BatchWrites
import Glasshouse.Proofs.Memory

/-!
# What one pass leaves

A pass over a batch performs the calls of a front part of it, which ends with the entry that
settles the envelope, and an acknowledged pass performs the calls of the whole batch. On healthy
stores every pass is acknowledged.
-/

namespace Glasshouse.Ingest

open Store Status

/-- A failure never acknowledges a message. -/
theorem settle_ne_ack (failure : Failure) : settle failure ≠ .ack := by
  unfold settle
  split <;> exact Settlement.noConfusion

variable (target : Target) (envelope : Envelope)

/-- Performing calls whatever their answers leaves the stores after the calls. -/
theorem performAll_stores (calls : List Call) (stores : Stores) :
    (performAll calls stores).2 = stores.performEach calls := by
  induction calls generalizing stores with
  | nil => rfl
  | cons call calls ih =>
      refine Eq.trans ?_ (ih (stores.perform call).2)
      rcases hcall : stores.perform call with ⟨answer, middle⟩
      cases answer <;> simp [performAll, hcall]

/-- The failure of several calls is that of one of them. -/
theorem performAll_error {calls : List Call} {stores : Stores} {failure : Failure}
    (h : (performAll calls stores).1 = .error failure) :
    ∃ front call rest, calls = front ++ call :: rest ∧
      ((stores.performEach front).perform call).1 = .error failure := by
  induction calls generalizing stores with
  | nil => cases h
  | cons call calls ih =>
      rcases hperform : stores.perform call with ⟨answer, after⟩
      rw [performAll, hperform] at h
      cases answer with
      | error other => exact ⟨[], call, calls, rfl, (congrArg Prod.fst hperform).trans h⟩
      | ok _ =>
          obtain ⟨front, other, rest, rfl, hother⟩ := ih h
          have hfront : stores.performEach (call :: front) = after.performEach front :=
            congrArg (·.2.performEach front) hperform
          exact ⟨call :: front, other, rest, rfl, hfront ▸ hother⟩

/-- The calls of a batch begin with those of its first entry. -/
theorem performEach_batchCalls_cons (entry : Entry) (entries : List Entry) (stores : Stores) :
    stores.performEach (batchCalls target envelope (entry :: entries)) =
      (stores.performEach (entryCalls target envelope entry)).performEach
        (batchCalls target envelope entries) := by
  simp [Stores.performEach, batchCalls]

/-- Healthy stores answer the write of an entry with success or a conflict. -/
theorem performAll_entryCalls_of_healthy {stores : Stores} (h : stores.Healthy) (entry : Entry) :
    (performAll (entryCalls target envelope entry) stores).1 = .ok () ∨
      ∃ path, (performAll (entryCalls target envelope entry) stores).1 =
        .error (.snapshotConflict path) := by
  rw [entryCalls_eq]
  cases sampleOf? envelope entry with
  | none =>
      have hmerged := h.admitted (.merge (reportOf envelope entry))
      rcases hmerge : stores.perform (.merge (reportOf envelope entry)) with ⟨merged, after⟩
      rw [hmerge] at hmerged
      obtain rfl : merged = .ok () := hmerged
      exact Or.inl (by simp [performAll, hmerge])
  | some sample =>
      have hcreated := h.admitted (.create sample)
      have hinserted := (h.perform (.create sample)).admitted (.insert target sample)
      rcases hcreate : stores.perform (.create sample) with ⟨created, middle⟩
      rw [hcreate] at hcreated hinserted
      rcases hinsert : middle.perform (.insert target sample) with ⟨inserted, after⟩
      rw [hinsert] at hinserted
      obtain rfl : inserted = .ok () := hinserted
      rcases hcreated with hok | hconflict
      · obtain rfl : created = _ := hok
        exact Or.inl (by simp [performAll, hcreate, hinsert])
      · obtain rfl : created = _ := hconflict
        exact Or.inr ⟨samplePath sample, by simp [performAll, hcreate, hinsert]⟩

/-- A pass performs the calls of a front part of its batch, and of all of it if it ends with an
acknowledgement. -/
theorem passOver_front (entries : List Entry) (stores : Stores) :
    ∃ front, front <+: entries ∧
      (passOver target envelope entries stores).stores =
        stores.performEach (batchCalls target envelope front) ∧
      ((passOver target envelope entries stores).settlement = .ack → front = entries) := by
  induction entries generalizing stores with
  | nil => exact ⟨[], List.prefix_rfl, rfl, fun _ => rfl⟩
  | cons entry entries ih =>
      have hwritten := performAll_stores (entryCalls target envelope entry) stores
      rw [passOver]
      rcases hperform : performAll (entryCalls target envelope entry) stores with
        ⟨answer, written⟩
      rw [hperform] at hwritten
      obtain rfl : written = _ := hwritten
      -- The pass goes on with the other entries, whose front part is found by induction.
      have hgoesOn : ∃ front, front <+: entry :: entries ∧
          (passOver target envelope entries
            (stores.performEach (entryCalls target envelope entry))).stores =
            stores.performEach (batchCalls target envelope front) ∧
          ((passOver target envelope entries
            (stores.performEach (entryCalls target envelope entry))).settlement = .ack →
            front = entry :: entries) := by
        obtain ⟨front, hfront, hstores, hack⟩ :=
          ih (stores.performEach (entryCalls target envelope entry))
        refine ⟨entry :: front, (List.prefix_cons_inj entry).mpr hfront, ?_, fun h => ?_⟩
        · rw [hstores, performEach_batchCalls_cons]
        · rw [hack h]
      cases answer with
      | ok _ => exact hgoesOn
      | error failure =>
          -- The pass ends here, so the front part is this entry alone.
          have hstops : [entry] <+: entry :: entries ∧
              stores.performEach (entryCalls target envelope entry) =
                stores.performEach (batchCalls target envelope [entry]) ∧
              (settle failure = .ack → [entry] = entry :: entries) :=
            ⟨⟨entries, rfl⟩, by simp [batchCalls], fun h => absurd h (settle_ne_ack failure)⟩
          cases failure with
          | snapshotConflict path => exact hgoesOn
          | _ => exact ⟨[entry], hstops⟩

/-- On healthy stores a pass is acknowledged. -/
theorem passOver_settlement_of_healthy (entries : List Entry) {stores : Stores}
    (h : stores.Healthy) : (passOver target envelope entries stores).settlement = .ack := by
  induction entries generalizing stores with
  | nil => rfl
  | cons entry entries ih =>
      have hwritten := performAll_stores (entryCalls target envelope entry) stores
      have hanswer := performAll_entryCalls_of_healthy target envelope h entry
      have hhealthy := h.performEach (entryCalls target envelope entry)
      rw [passOver]
      rcases hperform : performAll (entryCalls target envelope entry) stores with
        ⟨answer, written⟩
      rw [hperform] at hwritten hanswer
      obtain rfl : written = _ := hwritten
      rcases hanswer with hok | ⟨path, hconflict⟩
      · obtain rfl : answer = _ := hok
        exact ih hhealthy
      · obtain rfl : answer = _ := hconflict
        exact ih hhealthy

/-- A pass over healthy stores performs all calls of its batch. -/
theorem passOver_stores_of_healthy (entries : List Entry) {stores : Stores} (h : stores.Healthy) :
    (passOver target envelope entries stores).stores =
      stores.performEach (batchCalls target envelope entries) := by
  obtain ⟨front, _, hstores, hack⟩ := passOver_front target envelope entries stores
  rw [hstores, hack (passOver_settlement_of_healthy target envelope entries h)]

/-- The rows that the calls of a batch append are the rows of the batch. -/
theorem filterMap_rowOf?_batchCalls (entries : List Entry) :
    (batchCalls target envelope entries).filterMap rowOf? = batchRows target envelope entries := by
  induction entries with
  | nil => rfl
  | cons entry entries ih =>
      have hentry : (entryCalls target envelope entry).filterMap rowOf? =
          ((sampleOf? envelope entry).map (target, ·)).toList := by
        rw [entryCalls_eq]
        cases sampleOf? envelope entry <;> rfl
      rw [batchCalls, List.flatMap_cons, List.filterMap_append, hentry, ← batchCalls, ih]
      cases hsample : sampleOf? envelope entry <;> simp [batchRows, hsample]

end Glasshouse.Ingest
