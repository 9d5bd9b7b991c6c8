import Glasshouse.Proofs.WrittenFields
import Glasshouse.Status.Combine

/-!
# Messages that are read back

Every message of the status schema that is written is read back, up to the sign of zeros, and takes
as many bytes as its size says. A message is followed field by field from the blank message on;
nested messages come before those that hold them. Main statement: `messages_read_back`.
-/

namespace Glasshouse.Status

open Wire Wire.Message Wire.Field Wire.Scalar

/-! ## Sizes -/

instance : Sized TaskEntry :=
  ⟨by simp [Message.fields, uint32, uint64, int32]⟩

instance : Sized TaskList :=
  ⟨by simp [Message.fields]⟩

instance : Sized Memory :=
  ⟨by simp [Message.fields, uint32]⟩

instance : Sized (Measurements Number.Binary32) :=
  ⟨by simp [Message.fields]⟩

instance : Sized OutputGroup :=
  ⟨by simp [Message.fields, int32]⟩

instance : Sized OutputList :=
  ⟨by simp [Message.fields]⟩

instance : Sized Reboot :=
  ⟨by simp [Message.fields]⟩

instance : Sized DeviceState :=
  ⟨by simp [Message.fields, uint64]⟩

instance : Sized StateBatch :=
  ⟨by simp [Message.fields]⟩

instance : Sized RawBatch :=
  ⟨by simp [Message.fields]⟩

/-! ## Field numbers -/

instance : Numbered TaskEntry := ⟨by decide⟩

instance : Numbered TaskList := ⟨by decide⟩

instance : Numbered Memory := ⟨by decide⟩

instance : Numbered (Measurements Number.Binary32) := ⟨by decide⟩

instance : Numbered OutputGroup := ⟨by decide⟩

instance : Numbered OutputList := ⟨by decide⟩

instance : Numbered Reboot := ⟨by decide⟩

instance : Numbered DeviceState := ⟨by decide⟩

instance : Numbered StateBatch := ⟨by decide⟩

instance : Numbered RawBatch := ⟨by decide⟩

/-! ## Messages without nested messages -/

/-- Tasks are read back. -/
theorem readsBack_taskEntry : ReadsBack TaskEntry 0 id := by
  intro depth task _ hshort
  have hcarries : CarriesAll depth task fields blank task :=
    .cons (carries_single rfl readsBack_text isLocal_text rfl) <|
    .cons (carries_single rfl readsBack_int32 isLocal_ofNumber rfl) <|
    .cons (carries_single rfl readsBack_uint32 isLocal_ofNumber rfl) <|
    .cons (carries_single rfl readsBack_uint64 isLocal_ofNumber rfl) <|
    .cons (carries_single rfl readsBack_uint32 isLocal_ofNumber rfl) <|
    .cons (carries_single rfl readsBack_uint32 isLocal_ofNumber rfl) .nil
  exact hcarries.folds hshort

/-- Figures of the memory are combined with those that are there. -/
theorem combines_memory : Combines Memory 0 Memory.combine id where
  folds depth target memory _ hshort := by
    have hcarries : CarriesAll depth memory fields target (target.combine memory) :=
      .cons (carries_single_keeping target.minFree rfl readsBack_uint32 isLocal_ofNumber rfl) <|
      .cons (carries_single_keeping target.free rfl readsBack_uint32 isLocal_ofNumber rfl) .nil
    exact hcarries.folds hshort
  blank := Memory.blank_combine

/-- Figures of the memory are read back. -/
theorem readsBack_memory : ReadsBack Memory 0 id :=
  combines_memory.readsBack

/-- Readings are combined with those that are there, with positive zeros. -/
theorem combines_reading : Combines Reading 0
    (fun target reading => target.combine reading.positiveZeros) Reading.positiveZeros where
  folds depth target reading _ hshort := by
    have hcarries : CarriesAll depth reading fields target (target.combine reading) :=
      .cons (carries_single_keeping target.tempIndoor rfl readsBack_float isLocal_float rfl) <|
      .cons (carries_single_keeping target.tempProbe rfl readsBack_float isLocal_float rfl) <|
      .cons (carries_single_keeping target.humidity rfl readsBack_float isLocal_float rfl) <|
      .cons (carries_single_keeping target.pressure rfl readsBack_float isLocal_float rfl) <|
      .cons (carries_single_keeping target.ecA rfl readsBack_float isLocal_float rfl) <|
      .cons (carries_single_keeping target.ecB rfl readsBack_float isLocal_float rfl) <|
      .cons (carries_single_keeping target.phA rfl readsBack_float isLocal_float rfl) <|
      .cons (carries_single_keeping target.phB rfl readsBack_float isLocal_float rfl) <|
      .cons (carries_single_keeping target.tankA rfl readsBack_float isLocal_float rfl) <|
      .cons (carries_single_keeping target.tankB rfl readsBack_float isLocal_float rfl) .nil
    rw [Reading.combine_positiveZeros]
    exact hcarries.folds hshort
  blank reading := Reading.combine_positiveZeros blank reading

/-- Readings are read back with positive zeros. -/
theorem readsBack_reading : ReadsBack Reading 0 Reading.positiveZeros :=
  combines_reading.readsBack

/-- Output groups are read back. -/
theorem readsBack_outputGroup : ReadsBack OutputGroup 0 id := by
  intro depth group _ hshort
  have hcarries : CarriesAll depth group fields blank group :=
    .cons (carries_packed rfl readsBack_int32
      ⟨fun _ _ => rfl, fun _ => rfl, fun _ _ _ => rfl⟩) <|
    .cons (carries_single rfl readsBack_int32 isLocal_ofNumber rfl) .nil
  exact hcarries.folds hshort

/-- Reboot marks take the place of those that are there. -/
theorem combines_reboot : Combines Reboot 0 (fun _ mark => mark) id where
  folds _ _ _ _ _ := .nil
  blank _ := rfl

/-- Reboot marks are read back. -/
theorem readsBack_reboot : ReadsBack Reboot 0 id :=
  combines_reboot.readsBack

/-- Batches of entries are read back. -/
theorem readsBack_rawBatch : ReadsBack RawBatch 0 id := by
  intro depth batch _ hshort
  have hcarries : CarriesAll depth batch fields blank batch :=
    .cons (carries_repeated rfl readsBack_bytes isLocal_bytes
      ⟨fun _ _ => rfl, fun _ => rfl, fun _ _ _ => rfl⟩) .nil
  exact hcarries.folds hshort

/-! ## Messages that hold others -/

/-- Task lists are joined to those that are there. -/
theorem combines_taskList :
    Combines TaskList 1 (fun target list => ⟨target.tasks ++ list.tasks⟩) id where
  folds depth target list hdepth hshort := by
    have hcarries : CarriesAll depth list fields target ⟨target.tasks ++ list.tasks.map id⟩ :=
      .cons (carries_messages rfl readsBack_taskEntry hdepth
        ⟨fun _ _ => rfl, fun _ => rfl, fun _ _ _ => rfl⟩) .nil
    rw [List.map_id] at hcarries
    exact hcarries.folds hshort
  blank _ := rfl

/-- Task lists are read back. -/
theorem readsBack_taskList : ReadsBack TaskList 1 id :=
  combines_taskList.readsBack

/-- Output lists are joined to those that are there. -/
theorem combines_outputList :
    Combines OutputList 1 (fun target list => ⟨target.groups ++ list.groups⟩) id where
  folds depth target list hdepth hshort := by
    have hcarries : CarriesAll depth list fields target ⟨target.groups ++ list.groups.map id⟩ :=
      .cons (carries_messages rfl readsBack_outputGroup hdepth
        ⟨fun _ _ => rfl, fun _ => rfl, fun _ _ _ => rfl⟩) .nil
    rw [List.map_id] at hcarries
    exact hcarries.folds hshort
  blank _ := rfl

/-- Output lists are read back. -/
theorem readsBack_outputList : ReadsBack OutputList 1 id :=
  combines_outputList.readsBack

/-- States are combined with those that are there, with positive zeros. -/
theorem combines_deviceState : Combines DeviceState 2
    (fun target state => target.combine state.positiveZeros) DeviceState.positiveZeros where
  folds depth target state hdepth hshort := by
    have hcarries : ∃ carried, carried = target.combine state.positiveZeros ∧
        CarriesAll depth state fields target carried := by
      refine ⟨_, ?_, .cons (carries_single_keeping target.timestamp rfl readsBack_uint64
          isLocal_ofNumber rfl) <|
        .cons (carries_variant rfl combines_reading (by omega)) <|
        .cons (carries_variant rfl combines_taskList (by omega)) <|
        .cons (carries_variant rfl combines_memory (by omega)) <|
        .cons (carries_variant rfl combines_outputList (by omega)) <|
        .cons (carries_variant rfl combines_reboot (by omega)) .nil⟩
      -- A report is of one kind: only its own field is written, which meets a report of that kind,
      -- of another one, or none.
      rcases state with ⟨timestamp, _ | report⟩
      · rcases target with ⟨timestamp', _ | report'⟩ <;> rfl
      · rcases target with ⟨timestamp', _ | report'⟩
        · cases report <;> rfl
        · cases report <;> cases report' <;> rfl
    obtain ⟨_, rfl, hcarries⟩ := hcarries
    exact hcarries.folds hshort
  blank state := DeviceState.blank_combine state.positiveZeros

/-- States are read back with positive zeros. -/
theorem readsBack_deviceState : ReadsBack DeviceState 2 DeviceState.positiveZeros :=
  combines_deviceState.readsBack

/-- Batches of states are read back with positive zeros. -/
theorem readsBack_stateBatch : ReadsBack StateBatch 3 StateBatch.positiveZeros := by
  intro depth batch hdepth hshort
  have hcarries : CarriesAll depth batch fields blank batch.positiveZeros :=
    .cons (carries_messages rfl readsBack_deviceState hdepth
      ⟨fun _ _ => rfl, fun _ => rfl, fun _ _ _ => rfl⟩) .nil
  exact hcarries.folds hshort

/-! ## The schema -/

/-- Every message of a type takes as many bytes as its size says and, unless it is too long for a
buffer, is decoded as `normal` makes it. -/
def Survives (μ : Type) [Message μ] (normal : μ → μ) : Prop :=
  ∀ message : μ, encodedSize message = (encode message).length ∧
    ((encode message).length < Nat.pow 2 63 → decode (encode message) = .ok (normal message))

/-- Messages that are read back within the levels of a decoder survive. -/
theorem survives_of_readsBack {μ : Type} [Message μ] [Sized μ] {normal : μ → μ} {levels : Nat}
    (hreads : ReadsBack μ levels normal) (hlevels : levels ≤ maxDepth) : Survives μ normal :=
  fun message => ⟨encodedSize_eq message,
    fun hshort => (hreads maxDepth message hlevels hshort).decode_eq⟩

/-- Every message of the schema is decoded from its bytes with positive zeros in the place of
negative ones and is otherwise the same, and its size is the number of its bytes. -/
theorem messages_read_back :
    Survives TaskEntry id ∧ Survives TaskList id ∧ Survives Memory id ∧
    Survives Reading Reading.positiveZeros ∧ Survives OutputGroup id ∧ Survives OutputList id ∧
    Survives Reboot id ∧ Survives DeviceState DeviceState.positiveZeros ∧
    Survives StateBatch StateBatch.positiveZeros ∧ Survives RawBatch id :=
  ⟨survives_of_readsBack readsBack_taskEntry (by decide),
    survives_of_readsBack readsBack_taskList (by decide),
    survives_of_readsBack readsBack_memory (by decide),
    survives_of_readsBack readsBack_reading (by decide),
    survives_of_readsBack readsBack_outputGroup (by decide),
    survives_of_readsBack readsBack_outputList (by decide),
    survives_of_readsBack readsBack_reboot (by decide),
    survives_of_readsBack readsBack_deviceState (by decide),
    survives_of_readsBack readsBack_stateBatch (by decide),
    survives_of_readsBack readsBack_rawBatch (by decide)⟩

/-- A batch with a given temperature, a humidity that is not a number, a task in an unknown run
state, a reboot and a state without a report. -/
def unusualBatch (temperature : Number.Binary32) : StateBatch :=
  let reading := { (blank : Reading) with tempIndoor := temperature, humidity := ⟨0x7fc00001⟩ }
  ⟨[⟨7, some (.telemetry reading)⟩, ⟨0, some (.tasks ⟨[⟨"pump", -3, 0, 0, 0, 0⟩]⟩)⟩,
    ⟨0, some (.reboot {})⟩, ⟨1, none⟩]⟩

/-- The batch with a negative zero is decoded to the batch with the positive one. -/
theorem unusualBatch_reads_back :
    decode (encode (unusualBatch ⟨0x80000000⟩)) = .ok (unusualBatch 0) :=
  (messages_read_back.2.2.2.2.2.2.2.2.1 (unusualBatch ⟨0x80000000⟩)).2 (by decide +kernel)

end Glasshouse.Status
