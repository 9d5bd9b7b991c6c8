import Mathlib.Data.List.Basic
import Glasshouse.Store.Call

/-!
# Calls made on behalf of several programs

Lists of calls that programs owe, and a sequence in which the calls of all lists are made. A program
makes its calls in order, except that a row may be appended before the call that is joined to it. A
store that takes no rows therefore sees the calls of every program in order, and if all programs owe
the same calls, `Served.ends_of_replicate` says which it sees first and last.
-/

namespace Glasshouse.Ingest

open Store Status

/-- The call may be made next of the calls owed: it is the first of them, or a row behind the first.
The last list is what is owed afterwards. -/
inductive NextOf : Call → List Call → List Call → Prop where
  | head {request : Call} {calls : List Call} : NextOf request (request :: calls) calls
  | row {first : Call} {target : Target} {sample : Sample} {calls : List Call} :
      NextOf (.insert target sample) (first :: .insert target sample :: calls) (first :: calls)

/-- Calls are made one after the other, each by a program that owes it; the first lists are what the
programs owe before, the last what they owe afterwards. -/
inductive Served : List (List Call) → List Call → List (List Call) → Prop where
  | nil {owed : List (List Call)} : Served owed [] owed
  | cons {owed owed' : List (List Call)} {place : Nat} {request : Call}
      {calls left requests : List Call} (hplace : owed[place]? = some calls)
      (hnext : NextOf request calls left)
      (hrest : Served (owed.set place left) requests owed') :
      Served owed (request :: requests) owed'

variable {owed owed' : List (List Call)} {calls left requests : List Call} {request : Call}

/-! ## One call -/

/-- What is owed before a call is the call and what is owed after it. -/
theorem NextOf.perm (h : NextOf request calls left) : calls.Perm (request :: left) := by
  cases h with
  | head => exact .refl _
  | row => exact .swap _ _ _

/-- Seen by a store that takes no rows, the calls owed are made in order. -/
theorem NextOf.filterMap_eq {β : Type} {seen : Call → Option β}
    (hrows : ∀ target sample, seen (.insert target sample) = none)
    (h : NextOf request calls left) :
    calls.filterMap seen = (seen request).toList ++ left.filterMap seen := by
  cases h with
  | head => cases hseen : seen request <;> simp [hseen]
  | row => simp [List.filterMap_cons, hrows]

/-! ## Calls in the order in which they are made -/

/-- What is owed by all is what one program takes off its list and what is owed afterwards. -/
theorem flatten_set_perm {place : Nat} {request : Call} {calls left : List Call}
    (hplace : owed[place]? = some calls) (h : calls.Perm (request :: left)) :
    owed.flatten.Perm (request :: (owed.set place left).flatten) := by
  induction owed generalizing place with
  | nil => cases hplace
  | cons first others ih =>
      cases place with
      | zero =>
          obtain rfl : first = calls := Option.some.inj hplace
          exact h.append_right others.flatten
      | succ place =>
          have hothers : others[place]? = some calls := hplace
          exact ((ih hothers).append_left first).trans List.perm_middle

/-- The calls that were owed are those made and those still owed. -/
theorem Served.perm (h : Served owed requests owed') :
    owed.flatten.Perm (requests ++ owed'.flatten) := by
  induction h with
  | nil => exact .refl _
  | cons hplace hnext _ ih => exact (flatten_set_perm hplace hnext.perm).trans (ih.cons _)

variable {β : Type} {seen : Call → Option β}

/-- A store sees no call exactly if none that it sees was owed. -/
theorem Served.filterMap_eq_nil_iff (h : Served owed requests owed')
    (hended : ∀ calls ∈ owed', calls = []) :
    requests.filterMap seen = [] ↔ ∀ calls ∈ owed, calls.filterMap seen = [] := by
  have hperm := h.perm
  rw [List.flatten_eq_nil_iff.mpr hended, List.append_nil] at hperm
  simp only [List.filterMap_eq_nil_iff, ← hperm.mem_iff, List.mem_flatten]
  constructor
  · intro hnone calls hcalls call hcall
    exact hnone call ⟨calls, hcalls, hcall⟩
  · rintro hnone call ⟨calls, hcalls, hcall⟩
    exact hnone calls hcalls call hcall

/-- Seen by a store that takes no rows, programs that owe the same first call see it made first. -/
theorem Served.head?_eq (hrows : ∀ target sample, seen (.insert target sample) = none)
    (h : Served owed requests owed') (hended : ∀ calls ∈ owed', calls = []) (hne : owed ≠ [])
    {first : Option β} (hfirst : ∀ calls ∈ owed, (calls.filterMap seen).head? = first) :
    (requests.filterMap seen).head? = first := by
  induction h with
  | nil =>
      obtain ⟨calls, hcalls⟩ := List.exists_mem_of_ne_nil _ hne
      rw [← hfirst calls hcalls, hended calls hcalls]
  | @cons owed owed' place request calls left requests hplace hnext _ ih =>
      have hcalls := hfirst calls (List.mem_of_getElem? hplace)
      rw [hnext.filterMap_eq hrows] at hcalls
      cases hseen : seen request with
      | some made =>
          rw [← hcalls, hseen, List.filterMap_cons_some hseen]
          rfl
      | none =>
          -- The call is not seen, so every program still owes the same first call.
          rw [hseen] at hcalls
          rw [List.filterMap_cons_none hseen]
          refine ih hended (by simpa using hne) fun other hother => ?_
          rcases List.mem_or_eq_of_mem_set hother with hmem | rfl
          · exact hfirst other hmem
          · exact hcalls

/-- Seen by a store that takes no rows, programs that owe the same last call see it made last. -/
theorem Served.getLast?_eq (hrows : ∀ target sample, seen (.insert target sample) = none)
    (h : Served owed requests owed') (hended : ∀ calls ∈ owed', calls = []) {last : β}
    (hlast : ∀ calls ∈ owed, ∀ made ∈ (calls.filterMap seen).getLast?, made = last) :
    ∀ made ∈ (requests.filterMap seen).getLast?, made = last := by
  induction h with
  | nil => nofun
  | @cons owed owed' place request calls left requests hplace hnext hrest ih =>
      have hcalls := hlast calls (List.mem_of_getElem? hplace)
      rw [hnext.filterMap_eq hrows, List.getLast?_append] at hcalls
      have hset : ∀ other ∈ owed.set place left,
          ∀ made ∈ (other.filterMap seen).getLast?, made = last := by
        intro other hother made hmade
        rcases List.mem_or_eq_of_mem_set hother with hmem | rfl
        · exact hlast other hmem made hmade
        · exact hcalls made (by rw [hmade]; rfl)
      have happend : (request :: requests).filterMap seen =
          (seen request).toList ++ requests.filterMap seen :=
        NextOf.head.filterMap_eq hrows
      rw [happend, List.getLast?_append]
      cases hafter : (requests.filterMap seen).getLast? with
      | some made =>
          rintro _ ⟨⟩
          exact ih hended hset made hafter
      | none =>
          -- Nothing is seen afterwards, so this call is the last that its program owed.
          have hnone := (hrest.filterMap_eq_nil_iff hended).mp (List.getLast?_eq_none_iff.mp hafter)
          have hplace := (List.getElem?_eq_some_iff.mp hplace).1
          rw [hnone left (List.mem_set hplace left)] at hcalls
          exact hcalls

/-- Seen by a store that takes no rows, programs that owe the same calls see the first of them made
first and the last made last. -/
theorem Served.ends_of_replicate (hrows : ∀ target sample, seen (.insert target sample) = none)
    {k : Nat} (hk : 0 < k) {calls : List Call}
    (h : Served (List.replicate k calls) requests owed') (hended : ∀ calls ∈ owed', calls = []) :
    (requests.filterMap seen).head? = (calls.filterMap seen).head? ∧
      (requests.filterMap seen).getLast? = (calls.filterMap seen).getLast? := by
  have hsame : ∀ other ∈ List.replicate k calls, other = calls :=
    fun other hother => List.eq_of_mem_replicate hother
  have hmem : calls ∈ List.replicate k calls := List.mem_replicate.mpr ⟨by omega, rfl⟩
  refine ⟨h.head?_eq hrows hended (List.ne_nil_of_mem hmem) ?_, ?_⟩
  · intro other hother
    rw [hsame other hother]
  · have hnil : requests.filterMap seen = [] ↔
        ∀ other ∈ List.replicate k calls, other.filterMap seen = [] :=
      h.filterMap_eq_nil_iff hended
    cases hcalls : (calls.filterMap seen).getLast? with
    | none =>
        rw [List.getLast?_eq_none_iff] at hcalls ⊢
        refine hnil.mpr fun other hother => ?_
        rw [hsame other hother, hcalls]
    | some last =>
        have hlast : ∀ made ∈ (requests.filterMap seen).getLast?, made = last := by
          refine h.getLast?_eq hrows hended fun other hother made hmade => ?_
          rw [hsame other hother, hcalls] at hmade
          exact (Option.some.inj hmade).symm
        cases hmade : (requests.filterMap seen).getLast? with
        | some made => rw [hlast made hmade]
        | none =>
            rw [hnil.mp (List.getLast?_eq_none_iff.mp hmade) calls hmem] at hcalls
            cases hcalls

end Glasshouse.Ingest
