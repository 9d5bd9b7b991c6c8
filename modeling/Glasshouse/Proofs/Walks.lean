import Glasshouse.Proofs.SinglePass

/-!
# Walks

A walk passes over the entries before its start, writes those behind it in order, and stops at the
first whose write fails. `walk_cons_of_lt` and `run_walk_cons` say what it makes of one entry, on
stores of any behaviour. On stores in memory, whether a write fails depends on what was written
before it, so the places of failures are said for a list of entries and the stores that it meets:
`FailsAt` and `SucceedUpTo`, with one lemma for each end of a list. Main statement: `run_walk`.
-/

namespace Glasshouse.Ingest

open Store Status

variable {target : Target} {envelope : Envelope} {entry : Entry} {entries : List Entry}
  {stores : Stores} {place count : Nat} {failure : Failure}

/-! ## One entry -/

/-- The write of an entry makes its calls. -/
theorem calls_writeEntry {σ : Type} (stores : Behaviour σ) (target : Target) (envelope : Envelope)
    (entry : Entry) (state : σ) :
    ((writeEntry target envelope entry).run stores state).calls.map Prod.fst =
      entryCalls target envelope entry := by
  obtain ⟨_, _, hcalls⟩ :=
    Program.run_silent stores (writeEntry target envelope entry) state
  rw [← hcalls, silent_writeEntry, entryCalls_eq]
  cases sampleOf? envelope entry with
  | none => rfl
  | some sample => rfl

/-- A walk passes over an entry before its start. -/
theorem walk_cons_of_lt (target : Target) (envelope : Envelope) {start total index : Nat}
    (hstart : index < start) (h : index + (entry :: entries).length = total)
    (hmore : index + 1 + entries.length = total) :
    walk target envelope start total index (entry :: entries) h =
      walk target envelope start total (index + 1) entries hmore := by
  rw [walk, dif_pos hstart]

/-- A walk past its start writes the next entry: it goes on if this succeeds, and stops there with
the failure if it does not. -/
theorem run_walk_cons {σ : Type} (stores : Behaviour σ) (target : Target) (envelope : Envelope)
    {start total index : Nat} (hstart : start ≤ index)
    (h : index + (entry :: entries).length = total) (hmore : index + 1 + entries.length = total)
    (state : σ) :
    let written := (writeEntry target envelope entry).run stores state
    let run := (walk target envelope start total index (entry :: entries) h).run stores state
    let others := (walk target envelope start total (index + 1) entries hmore).run stores
      written.state
    match written.value with
    | .ok _ => run.value = others.value ∧ run.calls = written.calls ++ others.calls
    | .error failure => (∃ halt, run.value = some halt ∧ halt.failure = failure ∧
        halt.index = index) ∧ run.calls = written.calls := by
  intro written
  rw [walk, dif_neg (Nat.not_lt_of_le hstart)]
  simp only [Program.bind_eq, Program.run_bind, Program.run_log, Program.Run.after,
    List.nil_append]
  cases written.value with
  | ok _ => exact ⟨rfl, rfl⟩
  | error failure => exact ⟨⟨_, rfl, rfl, rfl⟩, List.append_nil _⟩

/-! ## Places of failures -/

/-- The write of the entry at a place fails after those of the entries before it. -/
def FailsAt (target : Target) (envelope : Envelope) (batch : List Entry) (origin : Stores)
    (place : Nat) (failure : Failure) : Prop :=
  ∃ entry, batch[place]? = some entry ∧
    (performAll (entryCalls target envelope entry)
      (origin.performEach (batchCalls target envelope (batch.take place)))).1 = .error failure

/-- The first so many entries are written, one after the other, without a failure. -/
def SucceedUpTo (target : Target) (envelope : Envelope) (entries : List Entry) (origin : Stores)
    (count : Nat) : Prop :=
  ∀ place < count, ∀ failure, ¬ FailsAt target envelope entries origin place failure

/-- The calls of the entries up to a place end with those of the entry there. -/
theorem batchCalls_take_succ (target : Target) (envelope : Envelope)
    (h : entries[place]? = some entry) :
    batchCalls target envelope (entries.take (place + 1)) =
      batchCalls target envelope (entries.take place) ++ entryCalls target envelope entry := by
  simp [batchCalls, List.take_add_one, h]

/-- Calls of entries in two parts are those of one part and then those of the other. -/
theorem batchCalls_append (others : List Entry) :
    batchCalls target envelope (entries ++ others) =
      batchCalls target envelope entries ++ batchCalls target envelope others := by
  simp [batchCalls]

/-- The first entry fails as its own write does. -/
theorem failsAt_cons_zero :
    FailsAt target envelope (entry :: entries) stores 0 failure ↔
      (performAll (entryCalls target envelope entry) stores).1 = .error failure := by
  simp [FailsAt, batchCalls, Stores.performEach]

/-- A later entry fails as it does among the others when the first is written. -/
theorem failsAt_cons_succ :
    FailsAt target envelope (entry :: entries) stores (place + 1) failure ↔
      FailsAt target envelope entries (stores.performEach (entryCalls target envelope entry))
        place failure := by
  simp only [FailsAt, List.getElem?_cons_succ, List.take_succ_cons, performEach_batchCalls_cons]

/-- Behind entries that are written an entry fails as it does among all of them. -/
theorem failsAt_drop :
    FailsAt target envelope (entries.drop count)
        (stores.performEach (batchCalls target envelope (entries.take count))) place failure ↔
      FailsAt target envelope entries stores (count + place) failure := by
  simp only [FailsAt, List.getElem?_drop, List.take_add, batchCalls_append,
    Stores.performEach_append]

/-- More than one entry succeed if the first does and then the others do. -/
theorem succeedUpTo_cons_succ :
    SucceedUpTo target envelope (entry :: entries) stores (count + 1) ↔
      (performAll (entryCalls target envelope entry) stores).1 = .ok () ∧
        SucceedUpTo target envelope entries
          (stores.performEach (entryCalls target envelope entry)) count := by
  constructor
  · intro h
    refine ⟨?_, fun place hplace failure hfails => ?_⟩
    · cases hanswer : (performAll (entryCalls target envelope entry) stores).1 with
      | ok _ => rfl
      | error failure => exact absurd (failsAt_cons_zero.mpr hanswer) (h 0 (by omega) failure)
    · exact h (place + 1) (by omega) failure (failsAt_cons_succ.mpr hfails)
  · rintro ⟨hfirst, hothers⟩ place hplace failure hfails
    cases place with
    | zero =>
        rw [failsAt_cons_zero, hfirst] at hfails
        cases hfails
    | succ place => exact hothers place (by omega) failure (failsAt_cons_succ.mp hfails)

/-- Entries succeed if those up to a place do and then those behind it. -/
theorem succeedUpTo_add {more : Nat}
    (hfront : SucceedUpTo target envelope entries stores count)
    (hrest : SucceedUpTo target envelope (entries.drop count)
      (stores.performEach (batchCalls target envelope (entries.take count))) more) :
    SucceedUpTo target envelope entries stores (count + more) := by
  intro place hplace failure hfails
  by_cases hbefore : place < count
  · exact hfront place hbefore failure hfails
  · refine hrest (place - count) (by omega) failure (failsAt_drop.mpr ?_)
    rwa [Nat.add_sub_of_le (by omega)]

/-- Either all entries succeed, or one of them is the first to fail. -/
theorem succeed_or_fail (target : Target) (envelope : Envelope) (entries : List Entry)
    (stores : Stores) :
    SucceedUpTo target envelope entries stores entries.length ∨
      ∃ place failure, SucceedUpTo target envelope entries stores place ∧
        FailsAt target envelope entries stores place failure := by
  induction entries generalizing stores with
  | nil => exact Or.inl fun place hplace => absurd hplace (Nat.not_lt_zero place)
  | cons entry entries ih =>
      cases hanswer : (performAll (entryCalls target envelope entry) stores).1 with
      | error failure =>
          exact Or.inr ⟨0, failure, fun place hplace => absurd hplace (Nat.not_lt_zero place),
            failsAt_cons_zero.mpr hanswer⟩
      | ok _ =>
          rcases ih (stores.performEach (entryCalls target envelope entry)) with
            hall | ⟨place, failure, hbefore, hfails⟩
          · exact Or.inl (succeedUpTo_cons_succ.mpr ⟨hanswer, hall⟩)
          · exact Or.inr ⟨place + 1, failure, succeedUpTo_cons_succ.mpr ⟨hanswer, hbefore⟩,
              failsAt_cons_succ.mpr hfails⟩

/-! ## Walks on stores in memory -/

/-- A walk makes the calls of the entries from its start on. If none fails it reaches the end, and
otherwise it stops at the first that does, having made the calls of this entry too. -/
theorem run_walk (target : Target) (envelope : Envelope) (start : Nat) {total index : Nat}
    (h : index + entries.length = total) (stores : Stores) :
    let rest := entries.drop (start - index)
    let run := (walk target envelope start total index entries h).run Stores.behaviour stores
    (SucceedUpTo target envelope rest stores rest.length →
      run.value = none ∧ run.calls.map Prod.fst = batchCalls target envelope rest) ∧
    ∀ place failure, SucceedUpTo target envelope rest stores place →
      FailsAt target envelope rest stores place failure →
      (∃ halt, run.value = some halt ∧ halt.failure = failure ∧
        halt.index = max start index + place) ∧
      run.calls.map Prod.fst = batchCalls target envelope (rest.take (place + 1)) := by
  induction entries generalizing index stores with
  | nil =>
      refine ⟨fun _ => ⟨rfl, by simp [walk, Program.run, batchCalls]⟩, ?_⟩
      rintro place failure _ ⟨entry, hentry, _⟩
      simp at hentry
  | cons entry entries ih =>
      have hmore : index + 1 + entries.length = total := by
        rw [← h, List.length_cons]
        omega
      by_cases hstart : index < start
      · -- Entries before the start are passed over without a call.
        have hskips := ih hmore stores
        rw [walk_cons_of_lt target envelope hstart h hmore,
          show start - index = start - (index + 1) + 1 by omega, List.drop_succ_cons,
          show max start index = max start (index + 1) by omega]
        exact hskips
      · obtain ⟨hwritten, hstores, hmade⟩ := run_writeEntry target envelope entry stores
        have hstep := run_walk_cons Stores.behaviour target envelope (Nat.le_of_not_lt hstart) h
          hmore stores
        simp only [hwritten, hstores, performAll_stores] at hstep
        obtain ⟨hends, hstops⟩ := ih hmore (stores.performEach (entryCalls target envelope entry))
        rw [show start - (index + 1) = 0 by omega, List.drop_zero] at hends hstops
        rw [show start - index = 0 by omega, List.drop_zero,
          show max start index = index by omega]
        cases hanswer : (performAll (entryCalls target envelope entry) stores).1 with
        | ok _ =>
            simp only [hanswer] at hstep
            refine ⟨fun hall => ?_, fun place failure hbefore hfails => ?_⟩
            · obtain ⟨hvalue, hcalls⟩ := hends (succeedUpTo_cons_succ.mp hall).2
              exact ⟨hstep.1.trans hvalue, by simp [hstep.2, hmade, hcalls, batchCalls]⟩
            · cases place with
              | zero =>
                  rw [failsAt_cons_zero, hanswer] at hfails
                  cases hfails
              | succ place =>
                  obtain ⟨⟨halt, hvalue, hfailure, hindex⟩, hcalls⟩ := hstops place failure
                    (succeedUpTo_cons_succ.mp hbefore).2 (failsAt_cons_succ.mp hfails)
                  refine ⟨⟨halt, hstep.1.trans hvalue, hfailure, by omega⟩, ?_⟩
                  simp [hstep.2, hmade, hcalls, batchCalls]
        | error failure =>
            simp only [hanswer] at hstep
            have hfirst (count : Nat) :
                ¬ SucceedUpTo target envelope (entry :: entries) stores (count + 1) := by
              intro hsucceed
              rw [succeedUpTo_cons_succ, hanswer] at hsucceed
              cases hsucceed.1
            refine ⟨fun hall => absurd hall (hfirst _), fun place other hbefore hfails => ?_⟩
            cases place with
            | succ place => exact absurd hbefore (hfirst place)
            | zero =>
                rw [failsAt_cons_zero, hanswer] at hfails
                obtain rfl := Except.error.inj hfails
                exact ⟨hstep.1, by simp [hstep.2, hmade, batchCalls]⟩

end Glasshouse.Ingest
