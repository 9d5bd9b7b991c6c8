import Mathlib.Data.List.Forall2
import Glasshouse.Proofs.Regularity

/-!
# Two views of a batch

A payload can be decoded as nested states, or be split into entries that are decoded one by one. The
nested view reads a state out of the input around it and has one level less for it; the split view
cuts the bytes of the state out first. Main statement: `batch_views_agree`.
-/

namespace Glasshouse.Status

open Wire Message

variable {depth : Nat} {key : Key} {value : Bytes}

/-! ## One field of the payload -/

/-- A batch of states knows the field with number one alone. -/
theorem find?_state_none (h : key.number ≠ 1) :
    (fields (μ := StateBatch)).find? (·.number = key.number) = none := by
  simp [Message.fields, Field.messages, Ne.symm h]

/-- A batch of entries knows the field with number one alone. -/
theorem find?_entry_none (h : key.number ≠ 1) :
    (fields (μ := RawBatch)).find? (·.number = key.number) = none := by
  simp [Message.fields, Field.repeated, Ne.symm h]

/-- The field of a batch of states. -/
theorem find?_state (h : key.number = 1) :
    (fields (μ := StateBatch)).find? (·.number = key.number) = some
      (.messages 1 "state" (·.states) fun v _ => ⟨v⟩) := by
  simp [Message.fields, Field.messages, h]

/-- The field of a batch of entries. -/
theorem find?_entry (h : key.number = 1) :
    (fields (μ := RawBatch)).find? (·.number = key.number) = some
      (.repeated .bytes 1 "state" (·.entries) fun v _ => ⟨v⟩) := by
  simp [Message.fields, Field.repeated, h]

/-- An occurrence of the known field adds a state, which has one level less. -/
theorem takes_state_iff {batch merged : StateBatch} (hnumber : key.number = 1) :
    Takes (mergeField (depth + 1) key batch) value merged ↔
      key.wire = .lengthDelimited ∧ ∃ size raw, value = size ++ raw ∧
        Takes readVarint size raw.length ∧ ∃ state, Folds depth blank raw state ∧
          merged = ⟨batch.states ++ [state]⟩ := by
  rw [takes_mergeField_known_iff (find?_state hnumber), Field.takes_messages_iff]

/-- An occurrence of the known field adds an entry. -/
theorem takes_entry_iff {batch merged : RawBatch} (hnumber : key.number = 1) :
    Takes (mergeField depth key batch) value merged ↔
      key.wire = .lengthDelimited ∧ ∃ size raw, value = size ++ raw ∧
        Takes readVarint size raw.length ∧ merged = ⟨batch.entries ++ [raw]⟩ := by
  have hread (raw : Bytes) : Takes Scalar.bytes.read value raw ↔
      ∃ size, value = size ++ raw ∧ Takes readVarint size raw.length :=
    Scalar.takes_readBytes_iff
  rw [takes_mergeField_known_iff (find?_entry hnumber),
    Field.takes_repeated_iff Scalar.isLocal_bytes]
  refine and_congr_right fun _ => ?_
  constructor
  · rintro ⟨raw, htakes, rfl⟩
    obtain ⟨size, hvalue, hsize⟩ := (hread raw).mp htakes
    exact ⟨size, raw, hvalue, hsize, rfl⟩
  · rintro ⟨size, raw, hvalue, hsize, rfl⟩
    exact ⟨raw, (hread raw).mpr ⟨size, hvalue, hsize⟩, rfl⟩

/-! ## All fields of the payload -/

/-- Entries and the states that they decode to, in order. -/
abbrev Decodes (raws : List Bytes) (states : List DeviceState) : Prop :=
  List.Forall₂ (Folds maxDepth blank) raws states

/-- What the nested view reads, the split view reads as the same states. -/
theorem entries_of_states {bytes : Bytes} {batch merged : StateBatch} {entries : List Bytes}
    (h : Folds maxDepth batch bytes merged) (hentries : Decodes entries batch.states) :
    ∃ raws, Folds maxDepth (⟨entries⟩ : RawBatch) bytes ⟨raws⟩ ∧ Decodes raws merged.states := by
  induction h generalizing entries with
  | nil => exact ⟨entries, .nil, hentries⟩
  | @cons batch middle merged key head value rest hhead hvalue _ ih =>
      by_cases hnumber : key.number = 1
      · obtain ⟨hwire, size, raw, rfl, hsize, state, hfolds, rfl⟩ :=
          (takes_state_iff hnumber).mp hvalue
        obtain ⟨raws, hraws, hdecodes⟩ :=
          ih (List.rel_append hentries (.cons hfolds.deepen .nil))
        have hentry : Takes (mergeField maxDepth key (⟨entries⟩ : RawBatch)) (size ++ raw)
            ⟨entries ++ [raw]⟩ :=
          (takes_entry_iff hnumber).mpr ⟨hwire, size, raw, rfl, hsize, rfl⟩
        exact ⟨raws, .cons hhead hentry hraws, hdecodes⟩
      · obtain ⟨hpass, rfl⟩ := (takes_mergeField_unknown_iff (find?_state_none hnumber)).mp hvalue
        obtain ⟨raws, hraws, hdecodes⟩ := ih hentries
        have hother : Takes (mergeField maxDepth key (⟨entries⟩ : RawBatch)) value ⟨entries⟩ :=
          (takes_mergeField_unknown_iff (find?_entry_none hnumber)).mpr ⟨hpass, rfl⟩
        exact ⟨raws, .cons hhead hother hraws, hdecodes⟩

/-- Entries are only ever added. -/
theorem entries_prefix {bytes : Bytes} {batch merged : RawBatch}
    (h : Folds depth batch bytes merged) : batch.entries <+: merged.entries := by
  induction h with
  | nil => exact List.prefix_rfl
  | @cons batch middle merged key head value rest hhead hvalue _ ih =>
      by_cases hnumber : key.number = 1
      · obtain ⟨_, _, raw, _, _, rfl⟩ := (takes_entry_iff hnumber).mp hvalue
        exact (List.prefix_append _ _).trans ih
      · obtain ⟨_, rfl⟩ := (takes_mergeField_unknown_iff (find?_entry_none hnumber)).mp hvalue
        exact ih

/-- What the split view reads and decodes, the nested view reads as the same states, unless it runs
out of levels. -/
theorem states_of_entries {bytes : Bytes} {batch merged : RawBatch} {states : List DeviceState}
    (h : Folds maxDepth batch bytes merged) (hstates : Decodes batch.entries states)
    (hall : ∀ raw ∈ merged.entries, ∃ state : DeviceState, Folds maxDepth blank raw state) :
    RunsOut (mergeFields maxDepth bytes.length (⟨states⟩ : StateBatch) bytes) ∨
      ∃ decoded, Folds maxDepth (⟨states⟩ : StateBatch) bytes ⟨decoded⟩ ∧
        Decodes merged.entries decoded := by
  induction h generalizing states with
  | nil => exact Or.inr ⟨states, .nil, hstates⟩
  | @cons batch middle merged key head value rest hhead hvalue hrest ih =>
      have hfront := entries_prefix hrest
      -- When the nested view reads the first field too, the rest decides.
      have hgoesOn (more : List DeviceState)
          (hfirst : Takes (mergeField maxDepth key (⟨states⟩ : StateBatch)) value ⟨more⟩)
          (hmore : Decodes middle.entries more) :
          RunsOut (mergeFields maxDepth (head ++ value ++ rest).length (⟨states⟩ : StateBatch)
              (head ++ value ++ rest)) ∨
            ∃ decoded, Folds maxDepth (⟨states⟩ : StateBatch) (head ++ value ++ rest) ⟨decoded⟩ ∧
              Decodes merged.entries decoded := by
        rcases ih hmore hall with hbehind | ⟨decoded, hdecoded, hdecodes⟩
        · exact Or.inl (runsOut_mergeFields_behind hhead hfirst hbehind)
        · exact Or.inr ⟨decoded, .cons hhead hfirst hdecoded, hdecodes⟩
      by_cases hnumber : key.number = 1
      · obtain ⟨hwire, size, raw, rfl, hsize, rfl⟩ := (takes_entry_iff hnumber).mp hvalue
        obtain ⟨state, hstate⟩ := hall raw (hfront.subset (by simp))
        have hlevels : Folds (99 + 1) blank raw state := hstate
        rcases hlevels.shallow with hfolds | hdeep
        · refine hgoesOn (states ++ [state]) ?_ (List.rel_append hstates (.cons hstate .nil))
          exact (takes_state_iff hnumber).mpr ⟨hwire, size, raw, rfl, hsize, state, hfolds, rfl⟩
        · left
          have hnested := runsOut_mergeDelimited hsize (hdeep rest)
          rw [← hwire] at hnested
          have hfield : RunsOut
              (mergeField maxDepth key (⟨states⟩ : StateBatch) (size ++ raw ++ rest)) :=
            runsOut_mergeField (find?_state hnumber) (hnested.map _)
          have hpos := hhead.length_pos
          rw [List.append_assoc head]
          exact runsOut_mergeFields hhead hfield (by simp only [List.length_append]; omega)
      · obtain ⟨hpass, rfl⟩ := (takes_mergeField_unknown_iff (find?_entry_none hnumber)).mp hvalue
        refine hgoesOn states ?_ hstates
        exact (takes_mergeField_unknown_iff (find?_state_none hnumber)).mpr ⟨hpass, rfl⟩

/-! ## Whole payloads -/

/-- Entries decode to states one by one if and only if their decodings are these states. -/
theorem decodes_iff {raws : List Bytes} {states : List DeviceState} :
    Decodes raws states ↔ raws.map Message.decode = states.map Except.ok := by
  rw [← List.forall₂_eq_eq_eq, List.forall₂_map_left_iff, List.forall₂_map_right_iff]
  simp only [decode_eq_ok_iff]

/-- When the nested view decodes a payload, the split view finds as many entries and each decodes to
the state at its place. When the split view decodes a payload and all of its entries decode, the
nested view decodes it to the same states or runs out of levels. -/
theorem batch_views_agree (payload : Bytes) :
    (∀ batch : StateBatch, Message.decode payload = .ok batch →
      ∃ raw : RawBatch, Message.decode payload = .ok raw ∧
        raw.entries.length = batch.states.length ∧
        raw.entries.map Message.decode = batch.states.map Except.ok) ∧
    ∀ (raw : RawBatch) (states : List DeviceState), Message.decode payload = .ok raw →
      raw.entries.map Message.decode = states.map Except.ok →
        Message.decode payload = .ok (⟨states⟩ : StateBatch) ∨
          ∃ error : DecodeError, Message.decode (μ := StateBatch) payload = .error error ∧
            error.fault.description = "recursion limit reached" := by
  constructor
  · intro batch hdecode
    obtain ⟨raws, hraws, hdecodes⟩ := entries_of_states (decode_eq_ok_iff.mp hdecode) .nil
    exact ⟨⟨raws⟩, hraws.decode_eq, hdecodes.length_eq, decodes_iff.mp hdecodes⟩
  · intro raw states hdecode hall
    have hexists : ∀ entry ∈ raw.entries,
        ∃ state : DeviceState, Folds maxDepth blank entry state := by
      intro entry hentry
      have hmem := List.mem_map_of_mem (f := Message.decode (μ := DeviceState)) hentry
      rw [hall] at hmem
      obtain ⟨state, _, hstate⟩ := List.mem_map.mp hmem
      exact ⟨state, decode_eq_ok_iff.mp hstate.symm⟩
    rcases states_of_entries (decode_eq_ok_iff.mp hdecode) .nil hexists with
      ⟨trail, hdeep⟩ | ⟨decoded, hdecoded, hdecodes⟩
    · right
      have hfails : Message.decode (μ := StateBatch) payload = .error ⟨.tooDeep, trail⟩ := by
        rw [Message.decode]
        exact congrArg (Except.map Prod.fst) hdeep
      exact ⟨⟨.tooDeep, trail⟩, hfails, rfl⟩
    · left
      have hsame : states.map Except.ok = decoded.map Except.ok :=
        hall.symm.trans (decodes_iff.mp hdecodes)
      obtain rfl := List.map_injective_iff.mpr (fun _ _ => Except.ok.inj) hsame
      exact hdecoded.decode_eq

/-- An unknown group that holds a group and so on, a hundred in all. -/
def deepEntry : Bytes :=
  List.replicate 100 59 ++ List.replicate 100 60

/-- Both views read a batch of telemetry and figures of the memory alike; an entry that takes all
levels by itself is left to the split view. -/
theorem views_of_two_states_and_deepEntry :
    (∃ raw : RawBatch, Message.decode [10, 2, 18, 0, 10, 2, 34, 0] = .ok raw ∧
      raw.entries.length = 2 ∧
      raw.entries.map Message.decode =
        [.ok ⟨0, some (.telemetry blank)⟩, .ok (⟨0, some (.memory blank)⟩ : DeviceState)]) ∧
      ∃ error : DecodeError,
        Message.decode (μ := StateBatch) ([10, 200, 1] ++ deepEntry) = .error error ∧
          error.fault.description = "recursion limit reached" := by
  constructor
  · exact (batch_views_agree _).1 ⟨[⟨0, some (.telemetry blank)⟩, ⟨0, some (.memory blank)⟩]⟩
      (by decide +kernel)
  · have hviews := (batch_views_agree ([10, 200, 1] ++ deepEntry)).2 ⟨[deepEntry]⟩ [blank]
      (by decide +kernel) (by decide +kernel)
    exact hviews.resolve_left (by decide +kernel)

end Glasshouse.Status
