import Glasshouse.Proofs.Folding
import Glasshouse.Wire.Grammar

/-!
# Complete fields

The readers take exactly the bytes that the grammar describes: numbers, keys, flat values, and the
fields of groups. Main statement: `isFields_iff`, which ties complete fields to the fields that a
skipper of some level passes over.
-/

namespace Glasshouse.Wire

/-! ## Numbers -/

/-- Bytes with their high bit set and a last one without it are read as a number, if the budget
covers them and its last byte holds one bit. -/
theorem readVarintWithin_append {budget : Nat} {init : Bytes} {last : UInt8}
    (hinit : ∀ byte ∈ init, 128 ≤ byte.toNat) (hlast : last.toNat < 128)
    (hlength : init.length < budget) (hbit : init.length + 1 = budget → last.toNat ≤ 1)
    (tail : Bytes) :
    readVarintWithin budget (init ++ [last] ++ tail) =
      some (varintValue (init ++ [last]), tail) := by
  induction init generalizing budget with
  | nil =>
      obtain ⟨budget, rfl⟩ : ∃ rest, budget = rest + 1 := ⟨budget - 1, by omega⟩
      have hfits : ¬ (budget = 0 ∧ 2 ≤ last.toNat) := by
        intro ⟨hzero, hlarge⟩
        have := hbit (by simp [hzero])
        omega
      have hvalue : varintValue [last] = last.toNat := by
        simp [varintValue, Nat.mod_eq_of_lt hlast]
      show readVarintWithin (budget + 1) (last :: tail) = some (varintValue [last], tail)
      rw [readVarintWithin, if_pos hlast, if_neg hfits, hvalue]
  | cons byte init ih =>
      obtain ⟨hbyte, hinit⟩ := List.forall_mem_cons.mp hinit
      obtain ⟨budget, rfl⟩ : ∃ rest, budget = rest + 1 := ⟨budget - 1, by omega⟩
      have hrest := ih hinit (by simpa using hlength) (by simpa using hbit)
      have hlow : byte.toNat - 128 = byte.toNat % 128 := by
        have := byte.toNat_lt
        omega
      show readVarintWithin (budget + 1) (byte :: (init ++ [last] ++ tail)) = _
      rw [readVarintWithin, if_neg (by omega), hrest, hlow]
      rfl

/-- What is read as a number is bytes with their high bit set and a last one without it. -/
theorem readVarintWithin_sound {budget n : Nat} {input rest : Bytes}
    (h : readVarintWithin budget input = some (n, rest)) :
    ∃ init last, input = init ++ [last] ++ rest ∧ (∀ byte ∈ init, 128 ≤ byte.toNat) ∧
      last.toNat < 128 ∧ init.length < budget ∧ (init.length + 1 = budget → last.toNat ≤ 1) ∧
      n = varintValue (init ++ [last]) := by
  fun_induction readVarintWithin budget input generalizing n rest with
  | case1 => cases h
  | case2 => cases h
  | case3 => cases h
  | case4 budget byte input small hfits =>
      cases h
      have hvalue : byte.toNat = varintValue [byte] := by
        simp [varintValue, Nat.mod_eq_of_lt small]
      refine ⟨[], byte, rfl, by simp, small, Nat.succ_pos budget, fun hfull => ?_, hvalue⟩
      simp only [List.length_nil] at hfull
      omega
  | case5 budget byte input big ih =>
      obtain ⟨⟨high, rest'⟩, hread, hpair⟩ := Option.map_eq_some_iff.mp h
      cases hpair
      obtain ⟨init, last, rfl, hinit, hlast, hlength, hbit, rfl⟩ := ih hread
      have hlow : byte.toNat - 128 = byte.toNat % 128 := by
        have := byte.toNat_lt
        omega
      refine ⟨byte :: init, last, rfl, ?_, hlast, by simpa using hlength, ?_, ?_⟩
      · exact List.forall_mem_cons.mpr ⟨Nat.not_lt.mp big, hinit⟩
      · intro hfull
        exact hbit (by simpa using hfull)
      · rw [hlow]
        rfl

/-- Exactly the bytes of a number are read as it. -/
theorem takes_readVarint_iff {used : Bytes} {n : Nat} :
    Takes readVarint used n ↔ IsVarint used n := by
  constructor
  · intro h
    have hread := h []
    rw [List.append_nil, readVarint] at hread
    split at hread
    · next result hwithin =>
        cases hread
        obtain ⟨init, last, hused, hinit, hlast, hlength, hbit, hn⟩ :=
          readVarintWithin_sound hwithin
        rw [List.append_nil] at hused
        subst hused
        exact ⟨init, last, rfl, hinit, hlast, by omega, fun hnine => hbit (by omega), hn⟩
    · cases hread
  · rintro ⟨init, last, rfl, hinit, hlast, hlength, hbit, rfl⟩ tail
    have hwithin := readVarintWithin_append hinit hlast (show init.length < 10 by omega)
      (fun hten => hbit (by omega)) tail
    rw [readVarint, hwithin]

/-! ## Keys -/

/-- Exactly the bytes of a key are read as it. -/
theorem takes_readKey_iff {used : Bytes} {key : Key} :
    Takes readKey used key ↔ IsKey used key := by
  constructor
  · intro h
    obtain ⟨-, hfits, hpos⟩ := readKey_eq_ok_iff.mp (h [])
    have hnumber : Takes readVarint used (8 * key.number + key.wire.code) :=
      fun tail => (readKey_eq_ok_iff.mp (h tail)).1
    exact ⟨hpos, hfits, takes_readVarint_iff.mp hnumber⟩
  · rintro ⟨hpos, hfits, hnumber⟩ tail
    exact readKey_eq_ok_iff.mpr ⟨takes_readVarint_iff.mpr hnumber tail, hfits, hpos⟩

/-! ## Values that are passed over -/

/-- Counted bytes end with the input if they are as many. -/
theorem dropBytes_eq_nil_iff {count : Nat} {input : Bytes} :
    dropBytes count input = .ok [] ↔ input.length = count := by
  unfold dropBytes
  split
  · next hcount =>
      rw [Except.ok.injEq, List.drop_eq_nil_iff]
      omega
  · next hcount =>
      refine iff_of_false (by simp) ?_
      omega

/-- Exactly as many bytes as are counted are passed over. -/
theorem passes_dropBytes_iff {count : Nat} {used : Bytes} :
    Passes (dropBytes count) used ↔ used.length = count := by
  constructor
  · intro h
    have hdrop := h []
    rw [List.append_nil] at hdrop
    exact dropBytes_eq_nil_iff.mp hdrop
  · rintro rfl tail
    simp [dropBytes]

namespace Skipper

/-- Exactly the bytes of a flat value are passed over as one. -/
theorem passes_flat_iff {wire : WireType} {used : Bytes} :
    Passes (flat wire) used ↔ IsFlat wire used := by
  constructor
  · intro h
    cases wire with
    | thirtyTwoBit => exact .thirtyTwoBit (passes_dropBytes_iff.mp h)
    | sixtyFourBit => exact .sixtyFourBit (passes_dropBytes_iff.mp h)
    | startGroup => cases h []
    | endGroup => cases h []
    | varint =>
        have hflat := h []
        rw [List.append_nil, flat] at hflat
        cases hread : readVarint used with
        | error fault =>
            rw [hread] at hflat
            cases hflat
        | ok result =>
            obtain ⟨n, rest⟩ := result
            rw [hread] at hflat
            obtain rfl : rest = [] := Except.ok.inj hflat
            exact .varint (takes_readVarint_iff.mp (isLocal_readVarint.takes hread))
    | lengthDelimited =>
        have hflat := h []
        rw [List.append_nil, flat] at hflat
        split at hflat
        · cases hflat
        · next count body hread =>
            obtain ⟨size, rfl, hsize⟩ := isLocal_readVarint hread
            have hcontent := dropBytes_eq_nil_iff.mp hflat
            exact .lengthDelimited (takes_readVarint_iff.mp (hcontent ▸ hsize))
  · intro h tail
    cases h with
    | varint h =>
        rw [flat, takes_readVarint_iff.mpr h tail]
        rfl
    | thirtyTwoBit h => exact passes_dropBytes_iff.mpr h tail
    | sixtyFourBit h => exact passes_dropBytes_iff.mpr h tail
    | @lengthDelimited size content h =>
        rw [flat, List.append_assoc, takes_readVarint_iff.mpr h (content ++ tail)]
        exact passes_dropBytes_iff.mpr rfl tail

/-! ## Fields that are passed over -/

/-- With no level left nothing is passed over. -/
theorem not_passes_skip_zero (key : Key) (value : Bytes) :
    ¬ Passes ((ofDepth 0).skip key) value := by
  intro h
  cases h []

/-- A value that is not a group is passed over as a flat one. -/
theorem skip_flat {depth : Nat} {key : Key} (h : key.wire ≠ .startGroup) :
    (ofDepth (depth + 1)).skip key = flat key.wire := by
  funext input
  simp [ofDepth, h]

/-- A group is passed over with one level less. -/
theorem skip_group (depth number : Nat) :
    (ofDepth (depth + 1)).skip ⟨number, .startGroup⟩ = (ofDepth depth).closeGroup number := by
  funext input
  simp [ofDepth]

/-- The end of a group is no value. -/
theorem ne_endGroup_of_passes {depth : Nat} {key : Key} {value : Bytes}
    (h : Passes ((ofDepth depth).skip key) value) : key.wire ≠ .endGroup := by
  intro hend
  cases depth with
  | zero => exact not_passes_skip_zero key value h
  | succ depth =>
      rw [skip_flat (by simp [hend]), hend] at h
      cases h []

/-- Exactly the bytes of a flat value are passed over for a key that opens no group. -/
theorem passes_skip_flat_iff {depth : Nat} {key : Key} {value : Bytes}
    (h : key.wire ≠ .startGroup) :
    Passes ((ofDepth (depth + 1)).skip key) value ↔ IsFlat key.wire value := by
  rw [skip_flat h]
  exact passes_flat_iff

/-- Exactly fields that are passed over with one level less and the key that closes the group are
passed over for the key that opens it. -/
theorem passes_skip_group_iff {depth number : Nat} {value : Bytes} :
    Passes ((ofDepth (depth + 1)).skip ⟨number, .startGroup⟩) value ↔
      ∃ numbers content closing, value = content ++ closing ∧
        (ofDepth depth).PassesFields numbers content ∧
          Takes readKey closing ⟨number, .endGroup⟩ := by
  rw [skip_group]
  constructor
  · intro h
    have hclose := h []
    rw [List.append_nil] at hclose
    obtain ⟨numbers, content, closing, hvalue, hcontent, hclosing⟩ :=
      closeGroup_sound (passesLocally_skip depth) hclose
    rw [List.append_nil] at hvalue
    exact ⟨numbers, content, closing, hvalue, hcontent, hclosing⟩
  · rintro ⟨numbers, content, closing, rfl, hcontent, hclosing⟩
    exact hcontent.closeGroup hclosing

end Skipper

open Skipper

/-- A flat value neither opens nor closes a group. -/
theorem IsFlat.no_group {wire : WireType} {value : Bytes} (h : IsFlat wire value) :
    wire ≠ .startGroup ∧ wire ≠ .endGroup := by
  cases h <;> decide

/-- Complete fields are passed over as fields. -/
theorem IsFields.passesFields {levels : Nat} {numbers : List Nat} {bytes : Bytes}
    (h : IsFields levels numbers bytes) : (ofDepth levels).PassesFields numbers bytes := by
  induction h with
  | nil => exact .nil
  | flat hkey hvalue _ ih =>
      obtain ⟨hopen, hclose⟩ := hvalue.no_group
      exact .cons (takes_readKey_iff.mpr hkey) hclose
        ((passes_skip_flat_iff hopen).mpr hvalue) ih
  | @group levels number _ _ opening content closing rest hopening _ hclosing _ ihcontent ihrest =>
      have hvalue : Passes ((ofDepth (levels + 1)).skip ⟨number, .startGroup⟩)
          (content ++ closing) :=
        passes_skip_group_iff.mpr
          ⟨_, content, closing, rfl, ihcontent, takes_readKey_iff.mpr hclosing⟩
      have hfields := PassesFields.cons (takes_readKey_iff.mpr hopening) (by simp) hvalue ihrest
      simpa using hfields

/-- What is passed over as fields is complete fields. -/
theorem Skipper.PassesFields.isFields {levels : Nat} {numbers : List Nat} {bytes : Bytes}
    (h : (ofDepth levels).PassesFields numbers bytes) : IsFields levels numbers bytes := by
  -- The fields of a group are looked at with one level less, those behind it with the same.
  induction levels generalizing numbers bytes with
  | zero =>
      cases h with
      | nil => exact .nil
      | cons _ _ hvalue _ => exact absurd hvalue (not_passes_skip_zero _ _)
  | succ levels ihlevels =>
      induction h with
      | nil => exact .nil
      | @cons key numbers head value rest hhead _ hvalue _ ih =>
          by_cases hgroup : key.wire = .startGroup
          · obtain ⟨number, wire⟩ := key
            obtain rfl : wire = .startGroup := hgroup
            obtain ⟨inner, content, closing, rfl, hcontent, hclosing⟩ :=
              passes_skip_group_iff.mp hvalue
            have hfields := IsFields.group (takes_readKey_iff.mp hhead) (ihlevels hcontent)
              (takes_readKey_iff.mp hclosing) ih
            simpa using hfields
          · exact .flat (takes_readKey_iff.mp hhead) ((passes_skip_flat_iff hgroup).mp hvalue) ih

/-- Exactly the complete fields that the levels allow are passed over as fields. -/
theorem isFields_iff {levels : Nat} {numbers : List Nat} {bytes : Bytes} :
    IsFields levels numbers bytes ↔ (ofDepth levels).PassesFields numbers bytes :=
  ⟨IsFields.passesFields, PassesFields.isFields⟩

/-- One complete field is a key and a value that is passed over. -/
theorem isFields_singleton_iff {levels number : Nat} {bytes : Bytes} :
    IsFields levels [number] bytes ↔ ∃ wire head value, bytes = head ++ value ∧
      Takes readKey head ⟨number, wire⟩ ∧
        Passes ((ofDepth levels).skip ⟨number, wire⟩) value := by
  rw [isFields_iff]
  constructor
  · intro h
    cases h with
    | @cons key _ head value rest hhead _ hvalue hrest =>
        cases hrest
        exact ⟨key.wire, head, value, List.append_nil _, hhead, hvalue⟩
  · rintro ⟨wire, head, value, rfl, hhead, hvalue⟩
    simpa using PassesFields.cons hhead (ne_endGroup_of_passes hvalue) hvalue .nil

end Glasshouse.Wire
