import Mathlib.Data.List.Nodup
import Mathlib.Data.List.Perm.Basic
import Glasshouse.Ingest.History
import Glasshouse.Proofs.BatchPaths
import Glasshouse.Proofs.DeviceShares
import Glasshouse.Proofs.Schedules
import Glasshouse.Proofs.SinglePass

/-!
# Deliveries of different devices at the same time

A program that ingests an envelope makes all its calls on behalf of one device, so it sees and
changes the share of this device only. Calls of other devices, in whatever order they come, change
nothing about what it will come to. Main statement: `different_devices_do_not_interfere`.
-/

namespace Glasshouse.Ingest

open Store Status

namespace Program

variable {α β : Type}

/-- All calls of the program are made on behalf of one device; of two joined calls the first creates
a document and the second appends a row. -/
inductive Concerns (device : String) : Program α → Prop where
  | done {value : α} : Concerns device (.done value)
  | emit {event : LogEvent} {rest : Program α} (hrest : Concerns device rest) :
      Concerns device (.emit event rest)
  | call {request : Call} {next : Answer → Program α} (hdevice : request.device = device)
      (hnext : ∀ answer, Concerns device (next answer)) : Concerns device (.call request next)
  | write {sample other : Sample} {target : Target} {next : Answer → Answer → Program α}
      (hcreate : (Call.create sample).device = device)
      (hinsert : (Call.insert target other).device = device)
      (hnext : ∀ created inserted, Concerns device (next created inserted)) :
      Concerns device (.join (.create sample) (.insert target other) next)

variable {device : String} {program program' : Program α} {stores stores' : Stores}
  {exchange : Exchange}

/-! ## Programs that are run alone -/

/-- A call is performed and the program goes on with its answer. -/
theorem run_call (request : Call) (next : Answer → Program α) (stores : Stores) :
    (call request next).run Stores.behaviour stores =
      ((next (stores.perform request).1).run Stores.behaviour (stores.perform request).2).after
        [(request, (stores.perform request).1)] [] := rfl

/-- A program that is run alone makes two joined calls one after the other. -/
theorem run_join (first second : Call) (next : Answer → Answer → Program α) (stores : Stores) :
    (join first second next).run Stores.behaviour stores =
      (call first fun answer => call second fun other => next answer other).run
        Stores.behaviour stores := rfl

/-- Where the device has the same share, the program makes the same calls, comes to the same value
and leaves the same share. -/
def DependsOn (device : String) (program : Program α) : Prop :=
  ∀ stores stores' : Stores, stores.share device = stores'.share device →
    let run := program.run Stores.behaviour stores
    let run' := program.run Stores.behaviour stores'
    run.value = run'.value ∧ run.calls = run'.calls ∧
      run.state.share device = run'.state.share device

/-- A call of a device depends on its share, and so do its answer and what follows. -/
theorem dependsOn_call {request : Call} {next : Answer → Program α}
    (hdevice : request.device = device) (hnext : ∀ answer, (next answer).DependsOn device) :
    (call request next).DependsOn device := by
  subst hdevice
  intro stores stores' h
  obtain ⟨hvalue, hcalls, hshare⟩ :=
    hnext (stores.perform request).1 _ _ (share_perform_congr h)
  rw [run_call, run_call, ← answer_eq_of_share_eq h]
  exact ⟨hvalue, congrArg (_ :: ·) hcalls, hshare⟩

/-- A program depends on the share of its device only. -/
theorem Concerns.dependsOn (h : program.Concerns device) : program.DependsOn device := by
  induction h with
  | done => exact fun _ _ h => ⟨rfl, rfl, h⟩
  | emit _ ih => exact ih
  | call hdevice _ ih => exact dependsOn_call hdevice ih
  | write hcreate hinsert _ ih =>
      intro stores stores' h
      rw [run_join, run_join]
      exact dependsOn_call hcreate (fun created => dependsOn_call hinsert (ih created)) _ _ h

/-- A program leaves the shares of other devices alone. -/
theorem Concerns.share_run_of_ne (hconcerns : program.Concerns device) {other : String}
    (hother : device ≠ other) (stores : Stores) :
    (program.run Stores.behaviour stores).state.share other = stores.share other := by
  induction hconcerns generalizing stores with
  | done => rfl
  | emit _ ih => exact ih stores
  | call hdevice _ ih =>
      rw [run_call]
      exact (ih _ _).trans (share_perform_of_ne (hdevice.trans_ne hother))
  | write hcreate hinsert _ ih =>
      rw [run_join, run_call, run_call]
      refine (ih _ _ _).trans ?_
      refine (share_perform_of_ne (hinsert.trans_ne hother)).trans ?_
      exact share_perform_of_ne (hcreate.trans_ne hother)

/-! ## One call of a program -/

/-- A call of a program is one that it would make alone, and what it will come to is settled before
as after. -/
theorem Concerns.step (hconcerns : program.Concerns device)
    (hstep : program.Step Stores.behaviour stores exchange program' stores') :
    program'.Concerns device ∧ exchange.1.device = device ∧
      let run := program.run Stores.behaviour stores
      let run' := program'.run Stores.behaviour stores'
      run'.value = run.value ∧ run'.state = run.state ∧
        run.calls.length = run'.calls.length + 1 := by
  induction hconcerns with
  | done => cases hstep
  | emit _ ih =>
      cases hstep with
      | emit hrest => exact ih hrest
  | call hdevice hnext _ =>
      cases hstep with
      | call hcall =>
          obtain ⟨rfl, rfl⟩ := Prod.mk.inj (perform_of_behaviour hcall).symm
          exact ⟨hnext _, hdevice, rfl, rfl, rfl⟩
  | write hcreate hinsert hnext _ =>
      cases hstep with
      | joinFirst hcall =>
          obtain ⟨rfl, rfl⟩ := Prod.mk.inj (perform_of_behaviour hcall).symm
          exact ⟨.call hinsert (hnext _), hcreate, rfl, rfl, rfl⟩
      | joinSecond hcall =>
          -- The calls are to different stores, so their order does not matter.
          obtain ⟨rfl, rfl⟩ := Prod.mk.inj (perform_of_behaviour hcall).symm
          exact ⟨.call hcreate fun created => hnext created _, hinsert, rfl, rfl, rfl⟩

/-! ## Programs that are put together -/

/-- A program of a device that goes on as one of this device is of this device. -/
theorem Concerns.bind {f : α → Program β} (hfirst : program.Concerns device)
    (hnext : ∀ value, (f value).Concerns device) : (program.bind f).Concerns device := by
  induction hfirst with
  | done => exact hnext _
  | emit _ ih => exact .emit ih
  | call hdevice _ ih => exact .call hdevice ih
  | write hcreate hinsert _ ih => exact .write hcreate hinsert ih

/-- Events concern no device. -/
theorem concerns_silent_iff : program.silent.Concerns device ↔ program.Concerns device := by
  constructor
  · intro h
    induction program with
    | done value => exact .done
    | emit event rest ih => exact .emit (ih h)
    | call request next ih =>
        cases h with
        | call hdevice hnext => exact .call hdevice fun answer => ih answer (hnext answer)
    | join first second next ih =>
        cases h with
        | write hcreate hinsert hnext =>
            exact .write hcreate hinsert fun answer other => ih answer other (hnext answer other)
  · intro h
    induction h with
    | done => exact .done
    | emit _ ih => exact ih
    | call hdevice _ ih => exact .call hdevice ih
    | write hcreate hinsert _ ih => exact .write hcreate hinsert ih

end Program

/-! ## Ingestion -/

variable (target : Target) (settings : Settings) (envelope : Envelope)

/-- The write of an entry is made on behalf of the device of the envelope. -/
theorem concerns_writeEntry (entry : Entry) :
    (writeEntry target envelope entry).Concerns envelope.device := by
  rw [← Program.concerns_silent_iff, silent_writeEntry]
  cases hsample : sampleOf? envelope entry with
  | none => exact .call rfl fun _ => .done
  | some sample =>
      obtain ⟨reading, _, rfl⟩ := (sampleOf?_eq_some_iff envelope).mp hsample
      exact .write rfl rfl fun _ _ => .done

/-- A pass over entries is made on behalf of the device of the envelope. -/
theorem concerns_passEntries (entries : List Entry) :
    (passEntries target envelope entries).Concerns envelope.device := by
  induction entries with
  | nil => exact .done
  | cons entry entries ih =>
      refine (concerns_writeEntry target envelope entry).bind fun answer => ?_
      cases answer with
      | ok _ => exact ih
      | error failure =>
          cases failure with
          | snapshotConflict path => exact ih
          | _ => exact .done

/-- An envelope is ingested on behalf of its device. -/
theorem concerns_ingest : (ingest settings envelope).Concerns envelope.device := by
  rw [← Program.concerns_silent_iff, silent_ingest, Program.concerns_silent_iff, passProgram]
  split
  · exact .done
  · split
    · exact .done
    · split
      · exact .done
      · exact concerns_passEntries _ _ _

/-! ## Many programs -/

/-- The calls that the programs of a pool would make if each went on alone. -/
def callsLeft {α : Type} (pool : List (Program α)) (stores : Stores) : List Exchange :=
  pool.flatMap fun program => (program.run Stores.behaviour stores).calls

/-- A program on its way, against one that ingests an envelope alone: both come to the same value and
leave the same share of the device of the envelope. -/
structure OnItsWay (settings : Settings) (origin : Stores) (envelope : Envelope)
    (program : Program Settlement) (stores : Stores) : Prop where
  concerns : program.Concerns envelope.device
  value : (program.run Stores.behaviour stores).value =
    ((ingest settings envelope).run Stores.behaviour origin).value
  share : (program.run Stores.behaviour stores).state.share envelope.device =
    ((ingest settings envelope).run Stores.behaviour origin).state.share envelope.device

/-- Programs that ingest envelopes of different devices, on their way. -/
structure Apart (settings : Settings) (origin : Stores) (envelopes : List Envelope)
    (pool : List (Program Settlement)) (stores : Stores) : Prop where
  length : pool.length = envelopes.length
  onItsWay : ∀ (place : Nat) program envelope, pool[place]? = some program →
    envelopes[place]? = some envelope → OnItsWay settings origin envelope program stores
  others : ∀ device, device ∉ envelopes.map (·.device) → stores.share device = origin.share device

variable {settings : Settings} {origin stores stores' : Stores} {envelope : Envelope}
  {envelopes : List Envelope} {program program' : Program Settlement}
  {pool pool' : List (Program Settlement)} {exchange : Exchange} {place : Nat}

/-- At the start every program is on its way. -/
theorem apart_start (settings : Settings) (origin : Stores) (envelopes : List Envelope) :
    Apart settings origin envelopes (envelopes.map (ingest settings)) origin := by
  refine ⟨List.length_map _, fun place program envelope hplace henvelope => ?_, fun _ _ => rfl⟩
  rw [List.getElem?_map, henvelope, Option.map_some, Option.some_inj] at hplace
  subst hplace
  exact ⟨concerns_ingest settings envelope, rfl, rfl⟩

/-- A program is on its way as long as the share of its device stays as it is. -/
theorem OnItsWay.congr (h : OnItsWay settings origin envelope program stores)
    (hshare : stores'.share envelope.device = stores.share envelope.device) :
    OnItsWay settings origin envelope program stores' ∧
      (program.run Stores.behaviour stores').calls =
        (program.run Stores.behaviour stores).calls := by
  obtain ⟨hvalue, hcalls, hafter⟩ := h.concerns.dependsOn stores' stores hshare
  exact ⟨⟨h.concerns, hvalue.trans h.value, hafter.trans h.share⟩, hcalls⟩

/-- Envelopes at different places have different devices. -/
theorem device_ne_of_nodup (hdevices : (envelopes.map (·.device)).Nodup) {other : Nat}
    {envelope' : Envelope} (henvelope : envelopes[place]? = some envelope)
    (hother : envelopes[other]? = some envelope') (hne : place ≠ other) :
    envelope.device ≠ envelope'.device := by
  intro hsame
  have hlength : place < (envelopes.map (·.device)).length := by
    rw [List.length_map]
    exact (List.getElem?_eq_some_iff.mp henvelope).1
  refine hne ((List.getElem?_inj hlength hdevices).mp ?_)
  simp [henvelope, hother, hsame]

/-- The calls left to a pool are those of one of its programs and those of the others. -/
theorem length_callsLeft_set (hlength : place < pool.length) (program : Program Settlement)
    (stores : Stores) :
    (callsLeft (pool.set place program) stores).length =
      (program.run Stores.behaviour stores).calls.length +
        (callsLeft (pool.eraseIdx place) stores).length := by
  have hperm := (List.set_perm_cons_eraseIdx hlength program).flatMap_right
    fun program => (program.run Stores.behaviour stores).calls
  rw [callsLeft, hperm.length_eq, List.flatMap_cons, List.length_append, ← callsLeft]

/-- A pool has one call less left when one of its programs has and the others have the same. -/
theorem length_callsLeft_step (hplace : pool[place]? = some program)
    (hcalls : (program.run Stores.behaviour stores).calls.length =
      (program'.run Stores.behaviour stores').calls.length + 1)
    (hothers : ∀ (other : Nat) (later : Program Settlement), place ≠ other →
      pool[other]? = some later → (later.run Stores.behaviour stores').calls =
        (later.run Stores.behaviour stores).calls) :
    (callsLeft pool stores).length =
      (callsLeft (pool.set place program') stores').length + 1 := by
  obtain ⟨hlength, hget⟩ := List.getElem?_eq_some_iff.mp hplace
  have hself : callsLeft pool stores = callsLeft (pool.set place program) stores := by
    rw [← hget, List.set_getElem_self]
  have hrest : callsLeft (pool.eraseIdx place) stores =
      callsLeft (pool.eraseIdx place) stores' := by
    refine List.flatMap_congr fun later hlater => ?_
    obtain ⟨other, hother, hget⟩ := List.mem_eraseIdx_iff_getElem?.mp hlater
    exact (hothers other later (Ne.symm hother) hget).symm
  rw [hself, length_callsLeft_set hlength, length_callsLeft_set hlength, hcalls, hrest]
  omega

/-- Every program of a pool belongs to an envelope. -/
theorem Apart.exists_envelope (h : Apart settings origin envelopes pool stores)
    (hplace : pool[place]? = some program) :
    ∃ envelope, envelopes[place]? = some envelope ∧
      OnItsWay settings origin envelope program stores := by
  obtain ⟨hbound, _⟩ := List.getElem?_eq_some_iff.mp hplace
  have henvelope := List.getElem?_eq_getElem (h.length ▸ hbound : place < envelopes.length)
  exact ⟨_, henvelope, h.onItsWay place program _ hplace henvelope⟩

/-- A call of one program leaves all programs on their way and one call less to make. -/
theorem Apart.step (h : Apart settings origin envelopes pool stores)
    (hdevices : (envelopes.map (·.device)).Nodup) (hplace : pool[place]? = some program)
    (hstep : program.Step Stores.behaviour stores exchange program' stores') :
    Apart settings origin envelopes (pool.set place program') stores' ∧
      (callsLeft pool stores).length =
        (callsLeft (pool.set place program') stores').length + 1 := by
  obtain ⟨envelope, henvelope, hown⟩ := h.exists_envelope hplace
  obtain ⟨hconcerns, hdevice, hvalue, hstate, hcalls⟩ := hown.concerns.step hstep
  have hstores : (stores.perform exchange.1).2 = stores' := congrArg Prod.snd hstep.perform_eq
  -- The call changes no share but that of its device, so the other programs do not see it.
  have hshares (device : String) (hne : envelope.device ≠ device) :
      stores'.share device = stores.share device :=
    hstores ▸ share_perform_of_ne (hdevice.trans_ne hne)
  have hothers (other : Nat) (later : Program Settlement) (hne : place ≠ other)
      (hlater : pool[other]? = some later) :
      ∃ envelope', envelopes[other]? = some envelope' ∧
        OnItsWay settings origin envelope' later stores' ∧
        (later.run Stores.behaviour stores').calls =
          (later.run Stores.behaviour stores).calls := by
    obtain ⟨envelope', henvelope', honItsWay⟩ := h.exists_envelope hlater
    exact ⟨envelope', henvelope', honItsWay.congr
      (hshares _ (device_ne_of_nodup hdevices henvelope henvelope' hne))⟩
  constructor
  · refine ⟨List.length_set.trans h.length, ?_, fun device hnone => ?_⟩
    · intro other later envelope' hlater henvelope'
      by_cases hother : place = other
      · subst hother
        rw [List.getElem?_set_self (List.getElem?_eq_some_iff.mp hplace).1] at hlater
        obtain rfl := Option.some.inj hlater
        obtain rfl := Option.some.inj (henvelope.symm.trans henvelope')
        exact ⟨hconcerns, hvalue.trans hown.value, hstate ▸ hown.share⟩
      · rw [List.getElem?_set_ne hother] at hlater
        obtain ⟨found, hfound, honItsWay, _⟩ := hothers other later hother hlater
        obtain rfl := Option.some.inj (hfound.symm.trans henvelope')
        exact honItsWay
    · have hne : envelope.device ≠ device := by
        rintro rfl
        exact hnone (List.mem_map_of_mem (List.mem_of_getElem? henvelope))
      exact (hshares device hne).trans (h.others device hnone)
  · refine length_callsLeft_step hplace hcalls fun other later hne hlater => ?_
    obtain ⟨_, _, _, hsame⟩ := hothers other later hne hlater
    exact hsame

/-- However their calls are interleaved the programs stay on their way, and every call that is made
is one less to make. -/
theorem Apart.interleaving (h : Apart settings origin envelopes pool stores)
    (hdevices : (envelopes.map (·.device)).Nodup) {trace : List (Nat × Exchange)}
    (hschedule : Interleaving Stores.behaviour pool stores trace pool' stores') :
    Apart settings origin envelopes pool' stores' ∧
      (callsLeft pool stores).length =
        trace.length + (callsLeft pool' stores').length := by
  induction hschedule with
  | refl => exact ⟨h, (Nat.zero_add _).symm⟩
  | step hplace hstep _ ih =>
      obtain ⟨hnext, hless⟩ := h.step hdevices hplace hstep
      obtain ⟨hlast, hleft⟩ := ih hnext
      refine ⟨hlast, ?_⟩
      rw [hless, hleft, List.length_cons]
      omega

/-- Programs on their way can be run to their ends. -/
theorem Apart.exists_runsTogether (h : Apart settings origin envelopes pool stores)
    (hdevices : (envelopes.map (·.device)).Nodup) :
    ∃ trace values final, RunsTogether Stores.behaviour pool stores trace values final := by
  let left := fun n pool stores =>
    Apart settings origin envelopes pool stores ∧ (callsLeft pool stores).length = n
  have hleft : left (callsLeft pool stores).length pool stores := ⟨h, rfl⟩
  refine exists_runsTogether_of_fewer (fun hbefore hplace hstep => ?_) hleft
  obtain ⟨happart, rfl⟩ := hbefore
  obtain ⟨hnext, hless⟩ := happart.step hdevices hplace hstep
  exact ⟨_, Nat.lt_of_lt_of_eq (Nat.lt_succ_self _) hless.symm, hnext, rfl⟩

/-- A program that has ended leaves the stores alone. -/
theorem run_of_value? {α : Type} {program : Program α} {value : α}
    (h : program.value? = some value) (stores : Stores) :
    (program.run Stores.behaviour stores).value = value ∧
      (program.run Stores.behaviour stores).state = stores := by
  induction program with
  | done other =>
      obtain rfl := Option.some.inj h
      exact ⟨rfl, rfl⟩
  | emit event rest ih => exact ih h
  | call request next ih => cases h
  | join first second next ih => cases h

/-- The value at a place of an ended pool is that of the program there. -/
theorem value?_of_mapM {α : Type} {pool : List (Program α)} {values : List α}
    (h : pool.mapM Program.value? = some values) :
    values.length = pool.length ∧ ∀ (place : Nat) (program : Program α),
      pool[place]? = some program → program.value? = values[place]? := by
  induction pool generalizing values with
  | nil =>
      cases h
      exact ⟨rfl, nofun⟩
  | cons program pool ih =>
      simp only [List.mapM_cons, Option.bind_eq_bind, Option.bind_eq_some_iff] at h
      obtain ⟨value, hvalue, others, hothers, hvalues⟩ := h
      obtain rfl := Option.some.inj hvalues
      obtain ⟨hlength, hplaces⟩ := ih hothers
      refine ⟨by simp [hlength], fun place other hother => ?_⟩
      cases place with
      | zero =>
          obtain rfl := Option.some.inj hother
          exact hvalue
      | succ place => exact hplaces place other hother

/-- Programs that have ended have come to the values and left the shares that they come to and leave
alone. -/
theorem Apart.ended (h : Apart settings origin envelopes pool stores)
    {values : List Settlement} (hvalues : pool.mapM Program.value? = some values) :
    (values = envelopes.map fun envelope =>
        ((ingest settings envelope).run Stores.behaviour origin).value) ∧
      ∀ envelope ∈ envelopes, stores.share envelope.device =
        ((ingest settings envelope).run Stores.behaviour origin).state.share envelope.device := by
  obtain ⟨hlength, hplaces⟩ := value?_of_mapM hvalues
  have hended (place : Nat) (envelope : Envelope) (henvelope : envelopes[place]? = some envelope) :
      values[place]? =
          some ((ingest settings envelope).run Stores.behaviour origin).value ∧
        stores.share envelope.device =
          ((ingest settings envelope).run Stores.behaviour origin).state.share
            envelope.device := by
    obtain ⟨hbound, _⟩ := List.getElem?_eq_some_iff.mp henvelope
    have hprogram := List.getElem?_eq_getElem (h.length ▸ hbound : place < pool.length)
    have hvalue := List.getElem?_eq_getElem (hlength.trans h.length ▸ hbound : place < values.length)
    have honItsWay := h.onItsWay place _ envelope hprogram henvelope
    obtain ⟨hcomesTo, hleaves⟩ := run_of_value? ((hplaces place _ hprogram).trans hvalue) stores
    have hshare := honItsWay.share
    rw [hleaves] at hshare
    refine ⟨?_, hshare⟩
    rw [hvalue, ← hcomesTo, honItsWay.value]
  constructor
  · refine List.ext_getElem? fun place => ?_
    rw [List.getElem?_map]
    cases henvelope : envelopes[place]? with
    | none =>
        rw [Option.map_none, List.getElem?_eq_none_iff, hlength, h.length]
        exact List.getElem?_eq_none_iff.mp henvelope
    | some envelope => exact (hended place envelope henvelope).1
  · intro envelope hmem
    obtain ⟨place, henvelope⟩ := List.getElem?_of_mem hmem
    exact (hended place envelope henvelope).2

/-! ## One after the other -/

/-- The stores after envelopes are ingested one after the other. -/
def ingestEach (settings : Settings) (stores : Stores) (envelopes : List Envelope) : Stores :=
  (History.run settings stores (envelopes.map .ingest)).1

/-- Envelopes of different devices that are ingested one after the other leave each device the share
that its envelope leaves alone, and other devices the share they had. -/
theorem share_ingestEach (settings : Settings) (hdevices : (envelopes.map (·.device)).Nodup)
    (stores : Stores) :
    (∀ device, device ∉ envelopes.map (·.device) →
      (ingestEach settings stores envelopes).share device = stores.share device) ∧
    ∀ envelope ∈ envelopes, (ingestEach settings stores envelopes).share envelope.device =
      ((ingest settings envelope).run Stores.behaviour stores).state.share envelope.device := by
  induction envelopes generalizing stores with
  | nil => exact ⟨fun _ _ => rfl, nofun⟩
  | cons first envelopes ih =>
      rw [List.map_cons, List.nodup_cons] at hdevices
      obtain ⟨hothers, hown⟩ :=
        ih hdevices.2 ((ingest settings first).run Stores.behaviour stores).state
      have hfirst (device : String) (hne : first.device ≠ device) :
          ((ingest settings first).run Stores.behaviour stores).state.share device =
            stores.share device :=
        (concerns_ingest settings first).share_run_of_ne hne stores
      constructor
      · intro device hnone
        rw [List.map_cons, List.mem_cons, not_or] at hnone
        exact (hothers device hnone.2).trans (hfirst device (Ne.symm hnone.1))
      · intro envelope hmem
        rcases List.mem_cons.mp hmem with rfl | hlater
        · exact hothers envelope.device hdevices.1
        · have hne : first.device ≠ envelope.device := by
            intro hsame
            exact hdevices.1 (hsame ▸ List.mem_map_of_mem hlater)
          refine (hown envelope hlater).trans ?_
          exact ((concerns_ingest settings envelope).dependsOn _ _ (hfirst _ hne)).2.2

/-! ## What is appended for a device -/

/-- Of a list that was appended to, the part for some devices is the only one that grew, so all that
was appended is for these. -/
theorem key_mem_of_filter {β : Type} {key : β → String} {devices : List String} {old new : List β}
    (h : ∀ device, device ∉ devices →
      (old ++ new).filter (key · = device) = old.filter (key · = device)) :
    ∀ entry ∈ new, key entry ∈ devices := by
  intro entry hmem
  by_contra hnone
  have hgrew := h (key entry) hnone
  rw [List.filter_append, List.append_right_eq_self, List.filter_eq_nil_iff] at hgrew
  exact hgrew entry hmem (by simp)

/-- What was appended for one device alone is what was appended for it among others. -/
theorem own_entries {β : Type} {key : β → String} {device : String} {old new own : List β}
    (hsame : (old ++ new).filter (key · = device) = (old ++ own).filter (key · = device))
    (hothers : ∀ other, device ≠ other →
      (old ++ own).filter (key · = other) = old.filter (key · = other)) :
    own = new.filter (key · = device) := by
  rw [List.filter_append, List.filter_append, List.append_right_inj] at hsame
  rw [hsame]
  refine (List.filter_eq_self.mpr fun entry hmem => ?_).symm
  have hkey : key entry ∈ [device] :=
    key_mem_of_filter (fun other hother => hothers other (by simpa [eq_comm] using hother))
      entry hmem
  simpa using hkey

/-- Stores hold a list that calls append to and of which every device has a part in its share. If the
devices of envelopes end with the shares that these leave alone, and all other devices with the
shares they had, then what was appended for a device is what its envelope appends alone. -/
theorem appended_for_each {β : Type} {held : Stores → List β} {key : β → String}
    (hgrows : ∀ stores calls, held stores <+: held (stores.performEach calls))
    (hshare : ∀ {device : String} {first second : Stores},
      first.share device = second.share device →
        (held first).filter (key · = device) = (held second).filter (key · = device))
    {calls : List Call}
    (hothers : ∀ device, device ∉ envelopes.map (·.device) →
      (stores.performEach calls).share device = stores.share device)
    (hown : ∀ envelope ∈ envelopes, (stores.performEach calls).share envelope.device =
      ((ingest settings envelope).run Stores.behaviour stores).state.share envelope.device) :
    ∃ added, held (stores.performEach calls) = held stores ++ added ∧
      (∀ entry ∈ added, key entry ∈ envelopes.map (·.device)) ∧
      ∀ envelope ∈ envelopes,
        held ((ingest settings envelope).run Stores.behaviour stores).state =
          held stores ++ added.filter (key · = envelope.device) := by
  obtain ⟨added, hadded⟩ := hgrows stores calls
  refine ⟨added, hadded.symm, ?_, fun envelope henvelope => ?_⟩
  · have hfilter (device : String) (hnone : device ∉ envelopes.map (·.device)) :
        (held stores ++ added).filter (key · = device) =
          (held stores).filter (key · = device) := by
      rw [hadded]
      exact hshare (hothers device hnone)
    exact key_mem_of_filter hfilter
  · have hsame := hshare (hown envelope henvelope)
    have hfrom (device : String) (hne : envelope.device ≠ device) :=
      hshare ((concerns_ingest settings envelope).share_run_of_ne hne stores)
    obtain ⟨alone, halone⟩ : held stores <+:
        held ((ingest settings envelope).run Stores.behaviour stores).state := by
      rw [Program.state_run]
      exact hgrows stores _
    rw [← hadded, ← halone] at hsame
    rw [← halone] at hfrom ⊢
    exact congrArg (held stores ++ ·) (own_entries hsame hfrom)

/-- Any number of programs ingest envelopes of different devices on shared stores. However their
calls are interleaved they all come to an end, each with the settlement that it comes to alone. The
documents are those of ingesting the envelopes one after the other, in any order; what is journaled
and which rows are appended for a device is what its envelope leaves alone, in the same order. -/
theorem different_devices_do_not_interfere (settings : Settings) (envelopes : List Envelope)
    (stores : Stores) (hdevices : (envelopes.map (·.device)).Nodup) :
    let pool := envelopes.map (ingest settings)
    let alone := fun envelope => (ingest settings envelope).run Stores.behaviour stores
    (∀ trace pool' stores', Interleaving Stores.behaviour pool stores trace pool' stores' →
      trace.length ≤ (envelopes.flatMap fun envelope => (alone envelope).calls).length ∧
        ∃ rest values final,
          RunsTogether Stores.behaviour pool stores (trace ++ rest) values final) ∧
    ∀ trace values final, RunsTogether Stores.behaviour pool stores trace values final →
      (values = envelopes.map fun envelope => (alone envelope).value) ∧
      (∀ order, order.Perm envelopes →
        final.snapshots.documents = (ingestEach settings stores order).snapshots.documents) ∧
      (∃ journaled, final.snapshots.journal = stores.snapshots.journal ++ journaled ∧
        (∀ path ∈ journaled, pathDevice path ∈ envelopes.map (·.device)) ∧
        ∀ envelope ∈ envelopes, (alone envelope).state.snapshots.journal =
          stores.snapshots.journal ++ journaled.filter (pathDevice · = envelope.device)) ∧
      ∃ added, final.analytics.rows = stores.analytics.rows ++ added ∧
        (∀ row ∈ added, row.2.device ∈ envelopes.map (·.device)) ∧
        ∀ envelope ∈ envelopes, (alone envelope).state.analytics.rows =
          stores.analytics.rows ++ added.filter (·.2.device = envelope.device) := by
  have hstart := apart_start settings stores envelopes
  intro pool alone
  constructor
  · intro trace pool' stores' hschedule
    obtain ⟨happart, hcalls⟩ := hstart.interleaving hdevices hschedule
    constructor
    · have hall : callsLeft pool stores =
          envelopes.flatMap fun envelope => (alone envelope).calls := List.flatMap_map _ _ _
      rw [← hall, hcalls]
      exact Nat.le_add_right _ _
    · obtain ⟨rest, values, final, ended, hrest, hvalues⟩ :=
        happart.exists_runsTogether hdevices
      exact ⟨rest, values, final, ended, hschedule.trans hrest, hvalues⟩
  · rintro trace values final ⟨ended, hschedule, hvalues⟩
    obtain ⟨happart, _⟩ := hstart.interleaving hdevices hschedule
    obtain ⟨hsettled, hown⟩ := happart.ended hvalues
    refine ⟨hsettled, ?_, ?_, ?_⟩
    · intro order hperm
      have hnodup := (hperm.map (·.device)).nodup_iff.mpr hdevices
      obtain ⟨horderOthers, horderOwn⟩ := share_ingestEach settings hnodup stores
      refine Stores.documents_eq_of_share_eq fun device => ?_
      by_cases hmem : device ∈ envelopes.map (·.device)
      · obtain ⟨envelope, henvelope, rfl⟩ := List.mem_map.mp hmem
        exact (hown envelope henvelope).trans
          (horderOwn envelope (hperm.mem_iff.mpr henvelope)).symm
      · have hnone : device ∉ order.map (·.device) := fun h => hmem ((hperm.map _).mem_iff.mp h)
        exact (happart.others device hmem).trans (horderOthers device hnone).symm
    · obtain rfl := hschedule.stores_eq
      exact appended_for_each Stores.journal_prefix_performEach (congrArg Share.journal)
        happart.others hown
    · obtain rfl := hschedule.stores_eq
      exact appended_for_each Stores.rows_prefix_performEach (congrArg Share.rows)
        happart.others hown

/-- The mixed delivery from another device, whose id begins like a path of the first. -/
def deeperDelivery : Envelope :=
  { mixedDelivery with device := "grow-1/telemetry" }

/-- The mixed delivery is ingested for two devices at the same time: the programs can be run to their
ends, both acknowledge it, and the documents are those of ingesting one envelope after the other. -/
theorem two_devices_ingested_together :
    let pool := [ingest testSettings mixedDelivery, ingest testSettings deeperDelivery]
    ∃ trace values final, RunsTogether Stores.behaviour pool .empty trace values final ∧
      values = [.ack, .ack] ∧ final.snapshots.documents =
        (ingestEach testSettings .empty [deeperDelivery, mixedDelivery]).snapshots.documents := by
  obtain ⟨hfinishes, hends⟩ := different_devices_do_not_interfere testSettings
    [mixedDelivery, deeperDelivery] .empty (by decide)
  obtain ⟨_, trace, values, final, hruns⟩ := hfinishes [] _ _ .refl
  obtain ⟨hvalues, hdocuments, _⟩ := hends _ _ _ hruns
  refine ⟨_, values, final, hruns, hvalues.trans ?_, hdocuments _ (List.Perm.swap _ _ _)⟩
  decide +kernel

end Glasshouse.Ingest
