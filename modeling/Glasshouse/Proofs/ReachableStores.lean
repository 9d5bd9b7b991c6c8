import Mathlib.Data.List.Perm.Basic
import Glasshouse.Ingest.History
import Glasshouse.Proofs.Owed
import Glasshouse.Proofs.SinglePass
import Glasshouse.Proofs.WellFormed

/-!
# Stores that a dispatcher reaches

Everything that one dispatcher can do to empty stores in memory, one call after the other or many
at the same time, leaves them well-formed. `Program.Orderly` says which calls its programs make,
`Orderly.run` and `Underway.step` that these keep stores well-formed, as a whole and call by call.
Main statement: `reachable_stores_wellFormed`.
-/

namespace Glasshouse.Ingest

open Store Status

namespace Program

variable {α β : Type}

/-! ## Calls of a dispatcher -/

/-- The program makes the calls of a dispatcher: it merges genuine reports, and it creates the
document and appends the row of a sample of a served device at the same time. -/
inductive Orderly (settings : Settings) : Program α → Prop where
  | done {value : α} : Orderly settings (.done value)
  | emit {event : LogEvent} {rest : Program α} (hrest : Orderly settings rest) :
      Orderly settings (.emit event rest)
  | merge {report : StateReport} {next : Answer → Program α}
      (hreport : IsGenuine settings report) (hnext : ∀ answer, Orderly settings (next answer)) :
      Orderly settings (.call (.merge report) next)
  | write {sample : Sample} {next : Answer → Answer → Program α}
      (hserved : IsServed settings sample.device)
      (hnext : ∀ created inserted, Orderly settings (next created inserted)) :
      Orderly settings (.join (.create sample) (.insert settings.target sample) next)

/-- A program while it runs: between the calls of a dispatcher, or with one of two joined calls
still to make. -/
inductive Underway (settings : Settings) (documents : Documents) : Program α → Prop where
  | orderly {program : Program α} (h : program.Orderly settings) :
      Underway settings documents program
  | beforeInsert {sample : Sample} {next : Answer → Program α}
      (hserved : IsServed settings sample.device) (hdocument : samplePath sample ∈ documents)
      (hnext : ∀ answer, (next answer).Orderly settings) :
      Underway settings documents (.call (.insert settings.target sample) next)
  | beforeCreate {sample : Sample} {next : Answer → Program α}
      (hserved : IsServed settings sample.device)
      (hnext : ∀ answer, (next answer).Orderly settings) :
      Underway settings documents (.call (.create sample) next)

/-- The samples whose document the program creates next. -/
def awaits (program : Program α) : Set Sample :=
  {sample | ∃ next, program = .call (.create sample) next}

variable {settings : Settings} {program program' : Program α} {stores stores' : Stores}
  {exchange : Exchange}

/-- An orderly program that goes on as orderly ones is orderly. -/
theorem Orderly.bind {f : α → Program β} (hfirst : program.Orderly settings)
    (hnext : ∀ value, (f value).Orderly settings) : (program.bind f).Orderly settings := by
  induction hfirst with
  | done => exact hnext _
  | emit _ ih => exact .emit ih
  | merge hreport _ ih => exact .merge hreport ih
  | write hserved _ ih => exact .write hserved ih

/-- Events do not make a program disorderly. -/
theorem orderly_silent : program.silent.Orderly settings ↔ program.Orderly settings := by
  constructor
  · intro h
    induction program with
    | done value => exact .done
    | emit event rest ih => exact .emit (ih h)
    | call request next ih =>
        cases h with
        | merge hreport hnext => exact .merge hreport fun answer => ih answer (hnext answer)
    | join first second next ih =>
        cases h with
        | write hserved hnext =>
            exact .write hserved fun created inserted => ih _ _ (hnext created inserted)
  · intro h
    induction h with
    | done => exact .done
    | emit _ ih => exact ih
    | merge hreport _ ih => exact .merge hreport ih
    | write hserved _ ih => exact .write hserved ih

/-- An orderly program that is run alone keeps stores well-formed. -/
theorem Orderly.run (horderly : program.Orderly settings) (h : WellFormed settings ∅ stores) :
    WellFormed settings ∅ (program.run Stores.behaviour stores).state := by
  induction horderly generalizing stores with
  | done => exact h
  | emit _ ih => exact ih h
  | merge hreport _ ih => exact ih _ (h.merge hreport)
  | @write sample _ hserved _ ih =>
      -- Whether or not it was created now, the document is there when the row is appended.
      have hdocument := samplePath_mem_perform stores sample
      exact ih _ _ ((h.create hserved).insert hserved (Or.inl hdocument))

/-- Documents stay where they are when a program makes a call. -/
theorem Step.mem_documents (h : program.Step Stores.behaviour stores exchange program' stores')
    {path : String} (hpath : path ∈ stores.snapshots.documents) :
    path ∈ stores'.snapshots.documents := by
  have hafter : (stores.perform exchange.1).2 = stores' := congrArg Prod.snd h.perform_eq
  exact hafter ▸ mem_perform hpath exchange.1

/-- No document of an orderly program is awaited. -/
theorem Orderly.awaits_eq (h : program.Orderly settings) : program.awaits = ∅ := by
  ext sample
  constructor
  · rintro ⟨next, rfl⟩
    cases h
  · exact False.elim

/-- A program stays underway when documents are added. -/
theorem Underway.mono {documents documents' : Documents} (h : Underway settings documents program)
    (hmem : ∀ path ∈ documents, path ∈ documents') : Underway settings documents' program := by
  cases h with
  | orderly h => exact .orderly h
  | beforeInsert hserved hdocument hnext => exact .beforeInsert hserved (hmem _ hdocument) hnext
  | beforeCreate hserved hnext => exact .beforeCreate hserved hnext

variable {others : Set Sample}

/-- A call of an orderly program keeps stores well-formed, apart from the document that is awaited
after it. -/
theorem Orderly.step (horderly : program.Orderly settings)
    (hstep : program.Step Stores.behaviour stores exchange program' stores')
    (h : WellFormed settings others stores) :
    WellFormed settings (others ∪ program'.awaits) stores' ∧
      Underway settings stores'.snapshots.documents program' := by
  have hmore {after : Stores} (hafter : WellFormed settings others after) :
      WellFormed settings (others ∪ program'.awaits) after :=
    hafter.found fun _ hother => Or.inr (Or.inl hother)
  induction horderly with
  | done => cases hstep
  | emit _ ih =>
      cases hstep with
      | emit hrest => exact ih hrest
  | merge hreport hnext =>
      cases hstep with
      | call hcall =>
          obtain rfl := congrArg Prod.snd (perform_of_behaviour hcall)
          exact ⟨hmore (h.merge hreport), .orderly (hnext _)⟩
  | @write sample next hserved hnext =>
      cases hstep with
      | joinFirst hcall =>
          obtain rfl := congrArg Prod.snd (perform_of_behaviour hcall)
          have hdocument := samplePath_mem_perform stores sample
          exact ⟨hmore (h.create hserved), .beforeInsert hserved hdocument (hnext _)⟩
      | joinSecond hcall =>
          obtain rfl := congrArg Prod.snd (perform_of_behaviour hcall)
          -- The row comes before its document, which the program awaits from now on.
          exact ⟨(hmore h).insert hserved (Or.inr (Or.inr ⟨_, rfl⟩)),
            .beforeCreate hserved fun answer => hnext answer _⟩

/-- A call of a program that is underway keeps stores well-formed, apart from the documents that are
awaited. -/
theorem Underway.step (hprogram : Underway settings stores.snapshots.documents program)
    (hstep : program.Step Stores.behaviour stores exchange program' stores')
    (h : WellFormed settings (others ∪ program.awaits) stores) :
    WellFormed settings (others ∪ program'.awaits) stores' ∧
      Underway settings stores'.snapshots.documents program' := by
  cases hprogram with
  | orderly horderly =>
      rw [horderly.awaits_eq, Set.union_empty] at h
      exact horderly.step hstep h
  | beforeInsert hserved hdocument hnext =>
      cases hstep with
      | call hcall =>
          obtain rfl := congrArg Prod.snd (perform_of_behaviour hcall)
          refine ⟨WellFormed.found (h.insert hserved (Or.inl hdocument)) ?_, .orderly (hnext _)⟩
          rintro other (hother | ⟨_, hawaited⟩)
          · exact Or.inr (Or.inl hother)
          · cases hawaited
  | @beforeCreate sample next hserved hnext =>
      cases hstep with
      | call hcall =>
          obtain rfl := congrArg Prod.snd (perform_of_behaviour hcall)
          refine ⟨WellFormed.found (h.create hserved) ?_, .orderly (hnext _)⟩
          -- The document that was awaited is there now.
          rintro other (hother | ⟨_, hawaited⟩)
          · exact Or.inr (Or.inl hother)
          · cases hawaited
            exact Or.inl (samplePath_mem_perform stores sample)

end Program

/-! ## What a dispatcher runs -/

variable {settings : Settings} {envelope : Envelope} {entries : List Entry}

/-- An envelope that is not ignored and passes the check comes from a served device. -/
theorem isServed_of_validate (hignored : envelope.isIgnored settings.ignoreSuffix = false)
    (hvalid : envelope.validate = .ok ()) : IsServed settings envelope.device := by
  refine ⟨ne_of_validate hvalid, fun hsuffix hends => ?_⟩
  rw [← List.isSuffixOf_iff_suffix] at hends
  simp [Envelope.isIgnored, hsuffix, hends] at hignored

/-- The bytes of an entry are a state whose report is of the kind of its record. -/
theorem isStateOf_of_mem {index : Nat} {raws : List Wire.Bytes}
    (h : decodeEntries index raws = .ok entries) :
    ∀ entry ∈ entries, IsStateOf entry.record.kind entry.raw := by
  fun_induction decodeEntries index raws generalizing entries with
  | case1 =>
      cases h
      exact fun _ hmem => nomatch hmem
  | case2 => cases h
  | case3 => cases h
  | case4 index raw raws entry hentry others hothers ih =>
      cases h
      rw [List.forall_mem_cons]
      refine ⟨?_, ih hothers⟩
      unfold Entry.decode at hentry
      split at hentry
      · cases hentry
      · next state hstate =>
          split at hentry
          · cases hentry
          · next report hreport =>
              cases hentry
              exact ⟨state, report, hstate, hreport, rfl⟩

/-- The entries of a payload are states of their kinds. -/
theorem isStateOf_of_decodeBatch (h : decodeBatch envelope.payload = .ok entries) :
    ∀ entry ∈ entries, IsStateOf entry.record.kind entry.raw := by
  unfold decodeBatch at h
  split at h
  · cases h
  · split at h
    · cases h
    · exact isStateOf_of_mem h

/-- The write of an entry of a served device is orderly. -/
theorem orderly_writeEntry (hserved : IsServed settings envelope.device) {entry : Entry}
    (hentry : IsStateOf entry.record.kind entry.raw) :
    (writeEntry settings.target envelope entry).Orderly settings := by
  rw [← Program.orderly_silent, silent_writeEntry]
  cases hsample : sampleOf? envelope entry with
  | some sample =>
      unfold sampleOf? at hsample
      split at hsample
      · cases hsample
        exact .write hserved fun _ _ => .done
      · cases hsample
  | none =>
      have hkind : entry.record.kind ≠ .telemetry := by
        unfold sampleOf? at hsample
        cases hrecord : entry.record <;> simp_all [Record.kind]
      exact .merge ⟨hserved, hkind, hentry⟩ fun _ => .done

/-- A walk over the entries of a served device is orderly. -/
theorem orderly_walk (hserved : IsServed settings envelope.device) {start total index : Nat}
    (hentries : ∀ entry ∈ entries, IsStateOf entry.record.kind entry.raw)
    (h : index + entries.length = total) :
    (walk settings.target envelope start total index entries h).Orderly settings := by
  induction entries generalizing index with
  | nil => exact .done
  | cons entry entries ih =>
      rw [List.forall_mem_cons] at hentries
      rw [walk]
      split
      · exact ih hentries.2 _
      · refine .emit ((orderly_writeEntry hserved hentries.1).bind fun answer => ?_)
        cases answer with
        | ok _ => exact ih hentries.2 _
        | error failure => exact .emit .done

/-- Dispatching an envelope from an entry on is orderly. -/
theorem orderly_dispatchFrom (settings : Settings) (envelope : Envelope) (start : Nat) :
    (dispatchFrom settings envelope start).Orderly settings := by
  unfold dispatchFrom
  cases hignored : envelope.isIgnored settings.ignoreSuffix with
  | true => exact .emit .done
  | false =>
      simp only [Bool.false_eq_true, if_false]
      cases hvalid : envelope.validate with
      | error failure => exact .done
      | ok _ =>
          simp only
          split
          · exact .done
          · next entries hdecode =>
              have hserved := isServed_of_validate hignored hvalid
              refine .emit ((orderly_walk hserved (isStateOf_of_decodeBatch hdecode) _).bind ?_)
              intro halt
              cases halt with
              | some halt => exact .done
              | none => exact .emit .done

/-- Dispatching a whole envelope is orderly. -/
theorem orderly_dispatch (settings : Settings) (envelope : Envelope) :
    (dispatch settings envelope).Orderly settings := by
  refine (orderly_dispatchFrom settings envelope 0).bind fun outcome => ?_
  cases outcome <;> exact .done

/-- Ingesting an envelope from an entry on is orderly. -/
theorem orderly_ingestFrom (settings : Settings) (envelope : Envelope) (start : Nat) :
    (ingestFrom settings envelope start).Orderly settings := by
  induction start using Outcome.resumption_induction envelope.recordCount with
  | step start ih =>
      rw [← Program.orderly_silent, silent_ingestFrom_step, Program.orderly_silent]
      refine (orderly_dispatchFrom settings envelope start).bind fun outcome => ?_
      cases hnext : outcome.resumesAt? with
      | none => exact .done
      | some next => exact (ih outcome next hnext).bind fun _ => .done

/-- Ingesting an envelope is orderly. -/
theorem orderly_ingest (settings : Settings) (envelope : Envelope) :
    (ingest settings envelope).Orderly settings :=
  (orderly_ingestFrom settings envelope 0).bind fun _ => .done

/-! ## One call after the other -/

/-- An action of a dispatcher, or a change of a switch, keeps stores well-formed. -/
theorem wellFormed_apply {action : Action} (haction : action.isDispatch ∨ action.isSwitch)
    {stores : Stores} (h : WellFormed settings ∅ stores) :
    WellFormed settings ∅ (action.apply settings stores).1 := by
  cases action with
  | call _ | seed _ _ _ => exact absurd haction (by simp [Action.isDispatch, Action.isSwitch])
  | setMergesOffline _ | setRefusal _ => exact ⟨h.documents, h.rows⟩
  | dispatch envelope => exact (orderly_dispatch settings envelope).run h
  | dispatchFrom envelope start => exact (orderly_dispatchFrom settings envelope start).run h
  | ingest envelope => exact (orderly_ingest settings envelope).run h

/-! ## Many at the same time -/

/-- The program without the value that it ends with. -/
def Program.valueless {α : Type} (program : Program α) : Program Unit :=
  program.bind fun _ => .done ()

/-- The samples whose document some program of a pool creates next. -/
def awaited (pool : List (Program Unit)) : Set Sample :=
  {sample | ∃ program ∈ pool, sample ∈ program.awaits}

/-- The programs that one dispatcher runs and the stores that they share, as they can come about
from empty stores. At any time another envelope may be dispatched or ingested, one of the programs
may make its next call, or a switch may be changed. -/
inductive Reached (settings : Settings) : List (Program Unit) → Stores → Prop where
  | start : Reached settings [] .empty
  | dispatch {pool : List (Program Unit)} {stores : Stores} (envelope : Envelope)
      (h : Reached settings pool stores) :
      Reached settings ((dispatch settings envelope).valueless :: pool) stores
  | dispatchFrom {pool : List (Program Unit)} {stores : Stores} (envelope : Envelope)
      (start : Nat) (h : Reached settings pool stores) :
      Reached settings ((dispatchFrom settings envelope start).valueless :: pool) stores
  | ingest {pool : List (Program Unit)} {stores : Stores} (envelope : Envelope)
      (h : Reached settings pool stores) :
      Reached settings ((ingest settings envelope).valueless :: pool) stores
  | step {pool : List (Program Unit)} {stores stores' : Stores} {place : Nat}
      {program program' : Program Unit} {exchange : Exchange} (h : Reached settings pool stores)
      (hplace : pool[place]? = some program)
      (hstep : program.Step Stores.behaviour stores exchange program' stores') :
      Reached settings (pool.set place program') stores'
  | switch {pool : List (Program Unit)} {stores : Stores} {action : Action}
      (h : Reached settings pool stores) (haction : action.isSwitch) :
      Reached settings pool (action.apply settings stores).1

/-- Stores and programs that share them: the stores are well-formed, apart from the documents that
are awaited, and all programs are underway. -/
structure Sound (settings : Settings) (pool : List (Program Unit)) (stores : Stores) : Prop where
  wellFormed : WellFormed settings (awaited pool) stores
  underway : ∀ program ∈ pool, program.Underway settings stores.snapshots.documents

variable {pool : List (Program Unit)} {stores stores' : Stores} {program program' : Program Unit}

/-- A program that is added makes its calls later. -/
theorem Sound.cons (h : Sound settings pool stores) (hprogram : program.Orderly settings) :
    Sound settings (program :: pool) stores := by
  refine ⟨h.wellFormed.found fun sample hawaited => Or.inr ?_, ?_⟩
  · obtain ⟨other, hother, hawaits⟩ := hawaited
    exact ⟨other, List.mem_cons_of_mem _ hother, hawaits⟩
  · exact List.forall_mem_cons.mpr ⟨.orderly hprogram, h.underway⟩

/-- What a pool awaits is what one of its programs and what the others await. -/
theorem awaited_set {place : Nat} (hplace : place < pool.length) (program : Program Unit) :
    awaited (pool.set place program) = awaited (pool.eraseIdx place) ∪ program.awaits := by
  ext sample
  simp [awaited, (List.set_perm_cons_eraseIdx hplace program).mem_iff, or_comm]

/-- The next call of one program keeps the others underway and the stores well-formed. -/
theorem Sound.step (h : Sound settings pool stores) {place : Nat} {exchange : Exchange}
    (hplace : pool[place]? = some program)
    (hstep : program.Step Stores.behaviour stores exchange program' stores') :
    Sound settings (pool.set place program') stores' := by
  obtain ⟨hlength, hget⟩ := List.getElem?_eq_some_iff.mp hplace
  have hself : pool.set place program = pool := by
    rw [← hget, List.set_getElem_self]
  have hbefore := h.wellFormed
  rw [← hself, awaited_set hlength] at hbefore
  have hprogram := h.underway program (List.mem_of_getElem? hplace)
  obtain ⟨hafter, hprogram'⟩ := hprogram.step hstep hbefore
  refine ⟨by rwa [awaited_set hlength], fun other hother => ?_⟩
  rcases List.mem_or_eq_of_mem_set hother with hold | rfl
  · exact (h.underway other hold).mono fun _ => hstep.mem_documents
  · exact hprogram'

/-- The programs of one dispatcher and their stores stay sound. -/
theorem sound_of_reached (h : Reached settings pool stores) : Sound settings pool stores := by
  induction h with
  | start => exact ⟨wellFormed_empty, fun _ hmem => nomatch hmem⟩
  | dispatch envelope _ ih =>
      exact ih.cons ((orderly_dispatch settings envelope).bind fun _ => .done)
  | dispatchFrom envelope start _ ih =>
      exact ih.cons ((orderly_dispatchFrom settings envelope start).bind fun _ => .done)
  | ingest envelope _ ih => exact ih.cons ((orderly_ingest settings envelope).bind fun _ => .done)
  | step _ hplace hstep ih => exact ih.step hplace hstep
  | @switch _ _ action _ haction ih =>
      cases action with
      | setMergesOffline _ | setRefusal _ =>
          exact ⟨⟨ih.wellFormed.documents, ih.wellFormed.rows⟩, ih.underway⟩
      | _ => cases haction

/-- Whatever one dispatcher does to empty stores in memory, and however the switches are changed
meanwhile, it leaves them well-formed. When its calls overlap the same holds at any time between two
store calls, apart from telemetry documents that a program is about to create. -/
theorem reachable_stores_wellFormed (settings : Settings) :
    (∀ history : History, (∀ action ∈ history, action.isDispatch ∨ action.isSwitch) →
      WellFormed settings ∅ (History.run settings .empty history).1) ∧
    ∀ (pool : List (Program Unit)) (stores : Stores), Reached settings pool stores →
      WellFormed settings (awaited pool) stores :=
  ⟨fun _ hactions => History.run_invariant settings (WellFormed settings ∅)
      (fun action hmem _ h => wellFormed_apply (hactions action hmem) h) wellFormed_empty,
    fun _ _ h => (sound_of_reached h).wellFormed⟩

/-- A batch whose first row is refused, then resumed, and dispatched again while merges are offline
leaves well-formed stores with a row; so does one that has just begun. -/
theorem wellFormed_of_mixedDelivery :
    let history : History :=
      [.setRefusal (some "too many parts"), .ingest mixedDelivery, .setRefusal none,
        .dispatchFrom mixedDelivery 1, .setMergesOffline true, .dispatch mixedDelivery]
    let stores := (History.run testSettings .empty history).1
    WellFormed testSettings ∅ stores ∧ stores.analytics.rows ≠ [] ∧
      WellFormed testSettings (awaited [(ingest testSettings mixedDelivery).valueless]) .empty :=
  ⟨(reachable_stores_wellFormed testSettings).1 _ (by decide), by decide +kernel,
    (reachable_stores_wellFormed testSettings).2 _ _ (.ingest mixedDelivery .start)⟩

end Glasshouse.Ingest
