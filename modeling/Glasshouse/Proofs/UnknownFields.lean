import Mathlib.Data.List.Basic
import Glasshouse.Proofs.CompleteFields
import Glasshouse.Proofs.Regularity
import Glasshouse.Status.Batch

/-!
# Unknown fields

Complete fields with numbers that a message does not know can stand anywhere between its fields:
what is decoded stays the same, and so does the error when decoding fails further on. In a batch the
entry keeps them in the bytes it was delivered in. Main statement: `unknown_fields_inert`.
-/

namespace Glasshouse.Wire

/-! ## Where fields end -/

namespace Skipper

/-- More levels pass over what fewer levels do. -/
theorem skip_mono {few many : Nat} (hle : few ≤ many) {key : Key} {input rest : Bytes}
    (h : (ofDepth few).skip key input = .ok rest) : (ofDepth many).skip key input = .ok rest := by
  induction hle with
  | refl => exact h
  | @step many _ ih =>
      rcases skip_deepens many key input with hdeep | hsame
      · rw [ih] at hdeep
        cases hdeep
      · rw [← hsame]
        exact ih

/-- Where a value ends does not depend on the levels that are left for it. -/
theorem rest_eq_of_passes {levels others : Nat} {key : Key} {value value' rest rest' : Bytes}
    (h : Passes ((ofDepth levels).skip key) value)
    (h' : Passes ((ofDepth others).skip key) value') (hsame : value ++ rest = value' ++ rest') :
    rest = rest' := by
  have hfirst := skip_mono (Nat.le_max_left levels others) (h rest)
  have hsecond := skip_mono (Nat.le_max_right levels others) (h' rest')
  rw [hsame, hsecond] at hfirst
  exact (Except.ok.inj hfirst).symm

end Skipper

namespace Message

variable {μ : Type} [Message μ] {depth levels : Nat} {message merged : μ} {numbers : List Nat}
  {bytes : Bytes}

/-- The message knows no field with this number. -/
def Unknown (μ : Type) [Message μ] (number : Nat) : Prop :=
  (fields (μ := μ)).find? (·.number = number) = none

/-- Fields that begin with a key go on with a value of it. -/
theorem Folds.behind_key {key : Key} {head : Bytes} (hhead : Takes readKey head key)
    (h : Folds depth message (head ++ bytes) merged) :
    ∃ value rest middle, bytes = value ++ rest ∧ Takes (mergeField depth key message) value middle ∧
      Folds depth middle rest merged := by
  have hpos := hhead.length_pos
  generalize hinput : head ++ bytes = input at h
  cases h with
  | nil =>
      have hnone := congrArg List.length hinput
      simp only [List.length_append, List.length_nil] at hnone
      omega
  | @cons _ middle _ key' head' value rest hhead' hvalue hrest =>
      rw [List.append_assoc] at hinput
      have hread := hhead bytes
      rw [hinput, hhead' (value ++ rest)] at hread
      cases hread
      exact ⟨value, rest, middle, rfl, hvalue, hrest⟩

/-- Complete fields that are unknown and are read into one message are read into every message and
change nothing, though more levels were allowed in the grammar. -/
theorem folds_unknown (hfields : (Skipper.ofDepth levels).PassesFields numbers bytes)
    (hunknown : ∀ number ∈ numbers, Unknown μ number) (h : Folds depth message bytes merged)
    (target : μ) : Folds depth target bytes target := by
  -- Reading goes field by field as the grammar does, since a value ends where it is passed over,
  -- whatever levels are left; so the target meets each field alone.
  induction hfields generalizing message with
  | nil => exact .nil
  | @cons key numbers head value rest hhead _ hvalue _ ih =>
      obtain ⟨hnumber, hothers⟩ := List.forall_mem_cons.mp hunknown
      rw [List.append_assoc] at h
      obtain ⟨value', rest', middle, hsame, hmerge, hrest⟩ := h.behind_key hhead
      obtain ⟨hpass, rfl⟩ := (takes_mergeField_unknown_iff hnumber).mp hmerge
      obtain rfl := Skipper.rest_eq_of_passes hvalue hpass hsame
      obtain rfl := List.append_cancel_right hsame
      have hskipped : Takes (mergeField depth key target) value target :=
        (takes_mergeField_unknown_iff hnumber).mpr ⟨hpass, rfl⟩
      exact .cons hhead hskipped (ih hothers hrest)

end Message

end Glasshouse.Wire

namespace Glasshouse.Status

open Wire Wire.Message

/-- A state knows the fields with numbers from one to six. -/
theorem unknown_deviceState {number : Nat} (h : ¬ (1 ≤ number ∧ number ≤ 6)) :
    Unknown DeviceState number := by
  simp [Unknown, Message.fields, Field.single, Field.variant]
  omega

/-- Unknown fields behind complete ones leave a state and what is behind them alone. -/
theorem decode_unknown {levels : Nat} {numbers : List Nat} {first unknown : Bytes}
    {state accepted : DeviceState} (hfirst : decode first = .ok state)
    (hfields : IsFields levels numbers unknown) (haccepted : decode unknown = .ok accepted)
    (hunknown : ∀ number ∈ numbers, ¬ (1 ≤ number ∧ number ≤ 6)) (second : Bytes) :
    decode (first ++ unknown ++ second) = (decode (first ++ second) : Except _ DeviceState) := by
  have hstate := decode_eq_ok_iff.mp hfirst
  have hinert := folds_unknown (isFields_iff.mp hfields)
    (fun number hnumber => unknown_deviceState (hunknown number hnumber))
    (decode_eq_ok_iff.mp haccepted) state
  rw [(hstate.append hinert).decode_append, hstate.decode_append]

/-- The entry as it is delivered in other bytes. -/
def Entry.withRaw (raw : Bytes) (entry : Entry) : Entry :=
  { entry with raw := raw }

/-- Bytes that decode to the same state make the same entry, but for the bytes. -/
theorem Entry.decode_congr {raw raw' : Bytes}
    (h : Message.decode (μ := DeviceState) raw = Message.decode raw') (index : Nat) :
    Entry.decode index raw = (Entry.decode index raw').map (withRaw raw) := by
  rw [Entry.decode, Entry.decode, h]
  cases Message.decode (μ := DeviceState) raw' with
  | error error => rfl
  | ok state =>
      obtain ⟨timestamp, report⟩ := state
      cases report <;> rfl

/-- Entries make the same batch if the bytes of one are replaced by others of the same state, but
for these bytes. -/
theorem decodeEntries_congr {raw raw' : Bytes}
    (h : Message.decode (μ := DeviceState) raw = Message.decode raw') (index : Nat)
    (front back : List Bytes) :
    decodeEntries index (front ++ raw :: back) =
      (decodeEntries index (front ++ raw' :: back)).map
        (List.modify · front.length (Entry.withRaw raw)) := by
  induction front generalizing index with
  | nil =>
      rw [List.nil_append, List.nil_append, decodeEntries, decodeEntries, Entry.decode_congr h]
      cases Entry.decode index raw' with
      | error fault => rfl
      | ok entry => cases decodeEntries (index + 1) back <;> rfl
  | cons other front ih =>
      rw [List.cons_append, List.cons_append, decodeEntries, decodeEntries, ih]
      cases Entry.decode index other with
      | error fault => rfl
      | ok entry => cases decodeEntries (index + 1) (front ++ raw' :: back) <;> rfl

/-- A payload that splits is decoded entry by entry, unless there are none. -/
theorem decodeBatch_of_split {payload : Bytes} {raws : List Bytes}
    (h : decode payload = .ok (⟨raws⟩ : RawBatch)) (hraws : raws ≠ []) :
    decodeBatch payload = decodeEntries 0 raws := by
  have hpayload : payload.isEmpty = false := by
    cases payload with
    | nil =>
        have hnil : decode [] = .ok (⟨[]⟩ : RawBatch) := Folds.nil.decode_eq
        rw [hnil] at h
        cases h
        exact absurd rfl hraws
    | cons byte rest => rfl
  rw [decodeBatch, hpayload, h]
  rfl

/-- Complete fields that a state does not know and that it accepts, put between complete fields and
any bytes, change nothing: the state or the error stays the same, and so do the entry and its batch,
but for the bytes that the entry was delivered in. -/
theorem unknown_fields_inert {levels : Nat} {numbers : List Nat} {first unknown : Bytes}
    {state accepted : DeviceState} (hfirst : decode first = .ok state)
    (hfields : IsFields levels numbers unknown) (haccepted : decode unknown = .ok accepted)
    (hunknown : ∀ number ∈ numbers, ¬ (1 ≤ number ∧ number ≤ 6)) (second : Bytes) :
    let between := first ++ unknown ++ second
    let without := first ++ second
    decode between = (decode without : Except DecodeError DeviceState) ∧
      (∀ index, Entry.decode index between =
        (Entry.decode index without).map (Entry.withRaw between)) ∧
      ∀ (front back : List Bytes) (payload payload' : Bytes),
        decode payload = .ok (⟨front ++ between :: back⟩ : RawBatch) →
        decode payload' = .ok (⟨front ++ without :: back⟩ : RawBatch) →
          decodeBatch payload = (decodeBatch payload').map
            (List.modify · front.length (Entry.withRaw between)) := by
  intro between without
  have hsame : decode between = (decode without : Except DecodeError DeviceState) :=
    decode_unknown hfirst hfields haccepted hunknown second
  refine ⟨hsame, Entry.decode_congr hsame, fun front back payload payload' h h' => ?_⟩
  rw [decodeBatch_of_split h (by simp), decodeBatch_of_split h' (by simp)]
  exact decodeEntries_congr hsame 0 front back

/-- A group that holds fields with known numbers and a field with number seven, between the clock
with a temperature and a humidity of one report: the report is read as if it stood in one piece, and
what is cut off behind it is missed all the same. -/
theorem news_amid_telemetry :
    let first : Bytes := [8, 7, 18, 5, 13, 0, 0, 172, 65]
    let unknown : Bytes := [75, 18, 1, 255, 8, 0, 76, 56, 1]
    let second : Bytes := [18, 5, 29, 0, 0, 0, 64]
    let reading := { (blank : Reading) with tempIndoor := ⟨0x41ac0000⟩, humidity := ⟨0x40000000⟩ }
    IsFields maxDepth [9, 7] unknown ∧
      decode (first ++ unknown ++ second) = .ok (⟨7, some (.telemetry reading)⟩ : DeviceState) ∧
      Entry.decode 3 (first ++ unknown ++ second) =
        .ok ⟨.telemetry reading, 7, first ++ unknown ++ second⟩ ∧
      Message.decode (μ := DeviceState) (first ++ unknown ++ [18, 5]) =
        .error ⟨.underflow, [⟨"State", "state"⟩]⟩ := by
  intro first unknown second reading
  have hgroup : IsFields maxDepth [9] [75, 18, 1, 255, 8, 0, 76] :=
    isFields_singleton_iff.mpr ⟨.startGroup, [75], [18, 1, 255, 8, 0, 76], rfl,
      isLocal_readKey.takes (by decide +kernel),
      (Skipper.passesLocally_skip _ _).passes (by decide +kernel)⟩
  have hnumber : IsFields maxDepth [7] [56, 1] :=
    isFields_singleton_iff.mpr ⟨.varint, [56], [1], rfl,
      isLocal_readKey.takes (by decide +kernel),
      (Skipper.passesLocally_skip _ _).passes (by decide +kernel)⟩
  have hfields : IsFields maxDepth [9, 7] unknown := hgroup.append hnumber
  let early : Reading := { (blank : Reading) with tempIndoor := ⟨0x41ac0000⟩ }
  have hfirst : decode first = .ok (⟨7, some (.telemetry early)⟩ : DeviceState) := by
    decide +kernel
  have haccepted : decode unknown = .ok (blank : DeviceState) := by decide +kernel
  have hinert := unknown_fields_inert hfirst hfields haccepted (by decide)
  refine ⟨hfields, (hinert second).1.trans (by decide +kernel), ?_, ?_⟩
  · exact ((hinert second).2.1 3).trans (by decide +kernel)
  · exact (hinert [18, 5]).1.trans (by decide +kernel)

end Glasshouse.Status
