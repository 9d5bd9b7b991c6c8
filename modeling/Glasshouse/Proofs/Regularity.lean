import Glasshouse.Proofs.Folding
import Glasshouse.Status.Message

/-!
# Regular fields

Every way of describing a field reads off the front, whatever it reads, and only nested messages and
unknown groups spend levels. So all messages of the status schema are regular.
-/

namespace Glasshouse.Wire

variable {μ α β : Type}

/-! ## Readers of values -/

/-- What is made of a value does not change where it is read. -/
theorem IsLocal.map {ε : Type} {read : Bytes → Except ε (α × Bytes)} (h : IsLocal read)
    (f : α → β) : IsLocal fun input => (read input).map fun (value, rest) => (f value, rest) := by
  intro input value rest hread
  cases hvalue : read input with
  | error error =>
      simp only [hvalue, Except.map] at hread
      cases hread
  | ok result =>
      simp only [hvalue, Except.map] at hread
      cases hread
      obtain ⟨used, hinput, hused⟩ := h hvalue
      exact ⟨used, hinput, fun tail => by simp only [hused tail, Except.map]⟩

/-- What is made of a value is taken where the value is. -/
theorem IsLocal.takes_map_iff {ε : Type} {read : Bytes → Except ε (α × Bytes)} (h : IsLocal read)
    {f : α → β} {used : Bytes} {made : β} :
    Takes (fun input => (read input).map fun (value, rest) => (f value, rest)) used made ↔
      ∃ value, Takes read used value ∧ made = f value := by
  constructor
  · intro htakes
    have hread := htakes []
    simp only [List.append_nil] at hread
    cases hvalue : read used with
    | error error =>
        simp only [hvalue, Except.map] at hread
        cases hread
    | ok result =>
        obtain ⟨value, rest⟩ := result
        simp only [hvalue, Except.map, Except.ok.injEq, Prod.mk.injEq] at hread
        obtain ⟨rfl, rfl⟩ := hread
        exact ⟨value, h.takes hvalue, rfl⟩
  · rintro ⟨value, hvalue, rfl⟩ tail
    simp only [hvalue tail, Except.map]

/-- Nothing is made of a value that runs out of levels. -/
theorem RunsOut.map {result : Except DecodeError α} (h : RunsOut result) (f : α → β) :
    RunsOut (result.map f) := by
  obtain ⟨trail, rfl⟩ := h
  exact ⟨trail, rfl⟩

namespace Field

variable {kind : Scalar α}

/-- Scalars are read off the front. -/
theorem isLocal_readScalar (h : IsLocal kind.read) (wire : WireType) :
    IsLocal (readScalar kind wire) := by
  intro input value rest hread
  unfold readScalar at hread
  split at hread
  · next hwire =>
      cases hvalue : kind.read input with
      | error fault =>
          rw [hvalue] at hread
          cases hread
      | ok result =>
          rw [hvalue] at hread
          cases hread
          obtain ⟨used, hinput, hused⟩ := h hvalue
          refine ⟨used, hinput, fun tail => ?_⟩
          rw [readScalar, if_pos hwire, hused tail]
          rfl
  · cases hread

/-- A scalar is taken if its wire type is right. -/
theorem takes_readScalar_iff {wire : WireType} {used : Bytes} {value : α} :
    Takes (readScalar kind wire) used value ↔ wire = kind.wire ∧ Takes kind.read used value := by
  by_cases hwire : wire = kind.wire
  · simp only [hwire, true_and]
    refine forall_congr' fun tail => ?_
    rw [readScalar, if_pos rfl]
    exact mapError_eq_ok_iff
  · simp only [hwire, false_and, iff_false]
    intro h
    have hread := h []
    rw [readScalar, if_neg hwire] at hread
    cases hread

/-- What reading packed values does with the next one. -/
theorem readPacked_eq (kind : Scalar α) (left : Nat) (input : Bytes) :
    readPacked kind left input =
      if left = 0 then .ok ([], input)
      else match kind.read input with
        | .error fault => .error fault
        | .ok (value, rest) =>
            if input.length - rest.length ≤ left then
              match readPacked kind (left - (input.length - rest.length)) rest with
              | .error fault => .error fault
              | .ok (values, rest) => .ok (value :: values, rest)
            else .error .overrun := by
  rw [readPacked]
  split
  · rfl
  · split
    · next hread => simp only [hread]
    · next value rest hread =>
        cases hmore : readPacked kind (left - (input.length - rest.length)) rest <;>
          simp only [hread, hmore]

/-- No packed values are read in no bytes. -/
theorem takes_readPacked_nil : Takes (readPacked kind 0) [] [] := by
  intro tail
  rw [readPacked_eq, if_pos rfl]
  rfl

/-- Values that are packed one after the other are read, whatever follows them. -/
theorem takes_readPacked_cons {value : α} {values : List α} {head others : Bytes}
    (hhead : Takes kind.read head value)
    (hothers : Takes (readPacked kind others.length) others values) :
    Takes (readPacked kind (head ++ others).length) (head ++ others) (value :: values) := by
  intro tail
  have hpos : 0 < head.length := by simpa using kind.shortens (hhead [])
  have htaken : (head ++ others ++ tail).length - (others ++ tail).length = head.length := by
    simp only [List.length_append]
    omega
  have hleft : (head ++ others).length - head.length = others.length := by simp
  have hread : kind.read (head ++ others ++ tail) = .ok (value, others ++ tail) := by
    simpa using hhead (others ++ tail)
  rw [readPacked_eq, if_neg (by simp only [List.length_append]; omega), hread]
  simp only [htaken, hleft, hothers tail]
  rw [if_pos (by simp)]

/-- Packed values are read off the front, and they are as long as announced. -/
theorem readPacked_front (h : IsLocal kind.read) {left : Nat} {input rest : Bytes}
    {values : List α} (hread : readPacked kind left input = .ok (values, rest)) :
    ∃ used, input = used ++ rest ∧ used.length = left ∧
      Takes (readPacked kind left) used values := by
  fun_induction readPacked kind left input generalizing values rest with
  | case1 input =>
      cases hread
      exact ⟨[], rfl, rfl, takes_readPacked_nil⟩
  | case2 => cases hread
  | case3 => cases hread
  | case4 left input hleft value behind hvalue taken htaken values' rest' hmore =>
      rename_i ih
      cases hread
      obtain ⟨head, rfl, hhead⟩ := h hvalue
      obtain ⟨others, rfl, hlength, hothers⟩ := ih hmore
      have htotal : (head ++ others).length = left := by
        simp only [List.length_append, taken] at hlength htaken ⊢
        omega
      rw [← hlength] at hothers
      exact ⟨head ++ others, by simp, htotal, htotal ▸ takes_readPacked_cons hhead hothers⟩
  | case5 => cases hread

/-- Packed values behind their length are read, whatever follows them. -/
theorem takes_readPackable {size bytes : Bytes} {values : List α}
    (hsize : Takes readVarint size bytes.length)
    (hvalues : Takes (readPacked kind bytes.length) bytes values) :
    Takes (readPackable kind .lengthDelimited) (size ++ bytes) values := by
  intro tail
  rw [readPackable, if_pos rfl, List.append_assoc, hsize]
  simp only [hvalues tail]
  rw [if_pos (by simp)]
  rfl

/-- An occurrence of packable values is read off the front. -/
theorem isLocal_readPackable (h : IsLocal kind.read) (wire : WireType) :
    IsLocal (readPackable kind wire) := by
  intro input values rest hread
  by_cases hwire : wire = .lengthDelimited
  · subst hwire
    rw [readPackable, if_pos rfl] at hread
    split at hread
    · cases hread
    · next length body hlength =>
        obtain ⟨size, rfl, hsize⟩ := isLocal_readVarint hlength
        split at hread
        · cases hpacked : readPacked kind length body with
          | error fault =>
              rw [hpacked] at hread
              cases hread
          | ok result =>
              rw [hpacked] at hread
              cases hread
              obtain ⟨used, rfl, rfl, hused⟩ := readPacked_front h hpacked
              exact ⟨size ++ used, by simp, takes_readPackable hsize hused⟩
        · cases hread
  · have hscalar : ∀ input, readPackable kind wire input =
        (readScalar kind wire input).map fun (value, rest) => ([value], rest) := by
      intro input
      rw [readPackable, if_neg hwire]
    rw [hscalar] at hread
    obtain ⟨used, hinput, hused⟩ := (isLocal_readScalar h wire).map (fun value => [value]) hread
    exact ⟨used, hinput, fun tail => (hscalar _).trans (hused tail)⟩

end Field

/-! ## Nested messages -/

namespace Message

variable [Message α] {depth : Nat} {message merged : α} {size bytes : Bytes}

/-- Complete fields behind their length are read as a nested message, whatever follows them. -/
theorem Folds.takes_mergeDelimited (h : Folds depth message bytes merged)
    (hsize : Takes readVarint size bytes.length) :
    Takes (mergeDelimited (depth + 1) .lengthDelimited message) (size ++ bytes) merged := by
  intro tail
  rw [mergeDelimited, if_pos rfl, List.append_assoc, hsize]
  simp only [h.takes_mergeFields tail]
  rw [if_pos (by simp)]

/-- What is read as a nested message is a length and so many bytes of complete fields. -/
theorem mergeDelimited_front [Regular α] {wire : WireType} {input rest : Bytes}
    (h : mergeDelimited depth wire message input = .ok (merged, rest)) :
    wire = .lengthDelimited ∧ ∃ levels size bytes, depth = levels + 1 ∧
      input = size ++ bytes ++ rest ∧ Takes readVarint size bytes.length ∧
      Folds levels message bytes merged := by
  unfold mergeDelimited at h
  split at h
  · next hwire =>
      split at h
      · cases h
      · next levels =>
          split at h
          · cases h
          · next length body hlength =>
              obtain ⟨size, rfl, hsize⟩ := isLocal_readVarint hlength
              split at h
              · obtain ⟨bytes, rfl, rfl, hfolds⟩ := folds_of_mergeFields h
                exact ⟨hwire, levels, size, bytes, rfl, by simp, hsize, hfolds⟩
              · cases h
  · cases h

/-- A nested message is read off the front. -/
theorem isLocal_mergeDelimited [Regular α] (depth : Nat) (wire : WireType) (message : α) :
    IsLocal (mergeDelimited depth wire message) := by
  intro input merged rest h
  obtain ⟨rfl, levels, size, bytes, rfl, rfl, hsize, hfolds⟩ := mergeDelimited_front h
  exact ⟨size ++ bytes, rfl, hfolds.takes_mergeDelimited hsize⟩

/-- A nested message is a length and so many bytes of complete fields. -/
theorem takes_mergeDelimited_iff [Regular α] {wire : WireType} {used : Bytes} :
    Takes (mergeDelimited (depth + 1) wire message) used merged ↔
      wire = .lengthDelimited ∧ ∃ size bytes, used = size ++ bytes ∧
        Takes readVarint size bytes.length ∧ Folds depth message bytes merged := by
  constructor
  · intro h
    have hread := h []
    rw [List.append_nil] at hread
    obtain ⟨hwire, levels, size, bytes, hlevels, rfl, hsize, hfolds⟩ := mergeDelimited_front hread
    obtain rfl := Nat.succ.inj hlevels
    exact ⟨hwire, size, bytes, List.append_nil _, hsize, hfolds⟩
  · rintro ⟨rfl, size, bytes, rfl, hsize, hfolds⟩
    exact hfolds.takes_mergeDelimited hsize

/-- A nested message runs out of levels if its fields do. -/
theorem runsOut_mergeDelimited {input : Bytes} (hsize : Takes readVarint size bytes.length)
    (h : RunsOut (mergeFields depth bytes.length message (bytes ++ input))) :
    RunsOut (mergeDelimited (depth + 1) .lengthDelimited message (size ++ bytes ++ input)) := by
  rw [mergeDelimited, if_pos rfl, List.append_assoc, hsize]
  simpa using h

/-- Another level for a nested message changes nothing, unless the levels run out. -/
theorem mergeDelimited_deepens [Regular α] (depth : Nat) (wire : WireType) (message : α)
    (input : Bytes) :
    RunsOut (mergeDelimited depth wire message input) ∨
      mergeDelimited depth wire message input = mergeDelimited (depth + 1) wire message input := by
  unfold mergeDelimited
  split
  · cases depth with
    | zero => exact Or.inl ⟨[], rfl⟩
    | succ depth =>
        cases readVarint input with
        | error fault => exact Or.inr rfl
        | ok result =>
            obtain ⟨length, body⟩ := result
            simp only
            split
            · exact mergeFields_deepens depth length message body
            · exact Or.inr rfl
  · exact Or.inr rfl

end Message

/-! ## Descriptions of fields -/

namespace Field

variable {kind : Scalar α} {number : Nat} {name : String}

/-- A single value is regular. -/
@[simp] theorem regular_single (h : IsLocal kind.read) {get : μ → α} {set : α → μ → μ} :
    (single kind number name get set).Regular where
  isLocal _ wire message := (isLocal_readScalar h wire).map fun value => set value message
  deepens _ _ _ _ := Or.inr rfl

/-- Repeated values are regular. -/
@[simp] theorem regular_repeated (h : IsLocal kind.read) {get : μ → List α}
    {set : List α → μ → μ} : (repeated kind number name get set).Regular where
  isLocal _ wire message :=
    (isLocal_readScalar h wire).map fun value => set (get message ++ [value]) message
  deepens _ _ _ _ := Or.inr rfl

/-- Packed values are regular. -/
@[simp] theorem regular_packed (h : IsLocal kind.read) {get : μ → List α}
    {set : List α → μ → μ} : (packed kind number name get set).Regular where
  isLocal _ wire message :=
    (isLocal_readPackable h wire).map fun values => set (get message ++ values) message
  deepens _ _ _ _ := Or.inr rfl

/-- Nested messages are regular. -/
@[simp] theorem regular_messages [Message α] [Message.Regular α] {get : μ → List α}
    {set : List α → μ → μ} : (messages number name get set).Regular where
  isLocal depth wire message :=
    (Message.isLocal_mergeDelimited depth wire _).map fun value =>
      set (get message ++ [value]) message
  deepens depth wire _ input :=
    (Message.mergeDelimited_deepens depth wire _ input).imp (·.map _) (congrArg (Except.map _))

/-- A nested message that shares its place is regular. -/
@[simp] theorem regular_variant [Message α] [Message.Regular α] {get? : μ → Option α}
    {set : α → μ → μ} : (variant number name get? set).Regular where
  isLocal depth wire message :=
    (Message.isLocal_mergeDelimited depth wire _).map fun value => set value message
  deepens depth wire _ input :=
    (Message.mergeDelimited_deepens depth wire _ input).imp (·.map _) (congrArg (Except.map _))

/-! ## Occurrences of fields -/

variable {depth : Nat} {wire : WireType} {message merged : μ} {used : Bytes}

/-- An occurrence of a single value sets it. -/
theorem takes_single_iff (h : IsLocal kind.read) {get : μ → α} {set : α → μ → μ} :
    Takes ((single kind number name get set).merge depth wire message) used merged ↔
      wire = kind.wire ∧ ∃ value, Takes kind.read used value ∧ merged = set value message := by
  refine ((isLocal_readScalar h wire).takes_map_iff (f := fun value => set value message)).trans ?_
  simp only [takes_readScalar_iff, and_assoc, exists_and_left]

/-- An occurrence of repeated values adds one. -/
theorem takes_repeated_iff (h : IsLocal kind.read) {get : μ → List α} {set : List α → μ → μ} :
    Takes ((repeated kind number name get set).merge depth wire message) used merged ↔
      wire = kind.wire ∧
        ∃ value, Takes kind.read used value ∧ merged = set (get message ++ [value]) message := by
  refine ((isLocal_readScalar h wire).takes_map_iff
    (f := fun value => set (get message ++ [value]) message)).trans ?_
  simp only [takes_readScalar_iff, and_assoc, exists_and_left]

/-- An occurrence of nested messages adds one. -/
theorem takes_messages_iff [Message α] [Message.Regular α] {get : μ → List α}
    {set : List α → μ → μ} :
    Takes ((messages number name get set).merge (depth + 1) wire message) used merged ↔
      wire = .lengthDelimited ∧ ∃ size bytes, used = size ++ bytes ∧
        Takes readVarint size bytes.length ∧ ∃ value,
          Message.Folds depth Message.blank bytes value ∧
            merged = set (get message ++ [value]) message := by
  refine ((Message.isLocal_mergeDelimited (depth + 1) wire (Message.blank : α)).takes_map_iff
    (f := fun value => set (get message ++ [value]) message)).trans ?_
  simp only [Message.takes_mergeDelimited_iff]
  constructor
  · rintro ⟨value, ⟨hwire, size, bytes, hused, hsize, hfolds⟩, rfl⟩
    exact ⟨hwire, size, bytes, hused, hsize, value, hfolds, rfl⟩
  · rintro ⟨hwire, size, bytes, hused, hsize, value, hfolds, rfl⟩
    exact ⟨value, ⟨hwire, size, bytes, hused, hsize, hfolds⟩, rfl⟩

end Field

end Glasshouse.Wire

/-! ## The status schema -/

namespace Glasshouse.Status

open Wire

instance : Message.Regular TaskEntry :=
  ⟨by simp [Message.fields, Scalar.uint32, Scalar.uint64, Scalar.int32]⟩

instance : Message.Regular TaskList :=
  ⟨by simp [Message.fields]⟩

instance : Message.Regular Memory :=
  ⟨by simp [Message.fields, Scalar.uint32]⟩

instance : Message.Regular (Measurements Number.Binary32) :=
  ⟨by simp [Message.fields]⟩

instance : Message.Regular OutputGroup :=
  ⟨by simp [Message.fields, Scalar.int32]⟩

instance : Message.Regular OutputList :=
  ⟨by simp [Message.fields]⟩

instance : Message.Regular Reboot :=
  ⟨by simp [Message.fields]⟩

instance : Message.Regular DeviceState :=
  ⟨by simp [Message.fields, Scalar.uint64]⟩

instance : Message.Regular StateBatch :=
  ⟨by simp [Message.fields]⟩

instance : Message.Regular RawBatch :=
  ⟨by simp [Message.fields]⟩

end Glasshouse.Status
