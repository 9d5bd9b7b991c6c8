import Glasshouse.Proofs.Regularity
import Glasshouse.Proofs.WrittenValues

/-!
# Written fields

A message is written field by field. `Field.Sized` says that a field takes as many bytes as its size
says, and `Field.Carries` that what is written of it in one message folds it into another. For a
whole message, `CarriesAll` follows the fields from the blank message on.
-/

namespace Glasshouse.Wire

variable {μ α : Type}

/-! ## Sizes -/

/-- A field takes as many bytes as its size says. -/
def Field.Sized (field : Field μ) : Prop :=
  ∀ message, field.size message = (field.write message).length

/-- All fields of a type of messages have the right size. -/
class Message.Sized (μ : Type) [Message μ] : Prop where
  sized : ∀ field ∈ Message.fields (μ := μ), field.Sized

/-- All fields of a type of messages have numbers that a key can carry. -/
class Message.Numbered (μ : Type) [Message μ] : Prop where
  numbered : ∀ field ∈ Message.fields (μ := μ), 0 < field.number ∧ field.number ≤ maxFieldNumber

/-- A message takes as many bytes as its size says. -/
theorem Message.encodedSize_eq [Message μ] [Message.Sized μ] (message : μ) :
    encodedSize message = (encode message).length := by
  rw [encodedSize, encode, List.length_flatMap, List.sum]
  congr 1
  exact List.map_congr_left fun field hfield => Sized.sized field hfield message

/-- A nested message takes as many bytes as its size says. -/
theorem Message.delimitedSize_eq [Message α] [Message.Sized α] (message : α) :
    delimitedSize message = (writeDelimited message).length := by
  rw [delimitedSize, writeDelimited, Scalar.length_writeBytes, encodedSize_eq]

namespace Field

variable {kind : Scalar α} {number : Nat} {name : String}

/-- A single value has the right size. -/
@[simp] theorem sized_single (hkind : kind.Sized) (hpos : 0 < number) {get : μ → α}
    {set : α → μ → μ} : (single kind number name get set).Sized := by
  intro message
  simp only [single]
  split
  · rfl
  · rw [List.length_append, length_writeKey hpos, hkind]

/-- Repeated values have the right size. -/
@[simp] theorem sized_repeated (hkind : kind.Sized) (hpos : 0 < number) {get : μ → List α}
    {set : List α → μ → μ} : (repeated kind number name get set).Sized := by
  intro message
  simp only [repeated, List.length_flatMap, List.length_append, length_writeKey hpos, hkind _]
  rfl

/-- Packed values have the right size. -/
@[simp] theorem sized_packed (hkind : kind.Sized) (hpos : 0 < number) {get : μ → List α}
    {set : List α → μ → μ} : (packed kind number name get set).Sized := by
  intro message
  simp only [packed]
  split
  · rfl
  · rw [List.length_append, length_writeKey hpos, Scalar.length_writeBytes, packedSize,
      List.length_flatMap, funext hkind]
    rfl

/-- Nested messages have the right size. -/
@[simp] theorem sized_messages [Message α] [Message.Sized α] (hpos : 0 < number)
    {get : μ → List α} {set : List α → μ → μ} : (messages number name get set).Sized := by
  intro message
  simp only [messages, List.length_flatMap, List.length_append, length_writeKey hpos,
    Message.delimitedSize_eq]
  rfl

/-- A nested message that shares its place has the right size. -/
@[simp] theorem sized_variant [Message α] [Message.Sized α] (hpos : 0 < number)
    {get? : μ → Option α} {set : α → μ → μ} : (variant number name get? set).Sized := by
  intro message
  simp only [variant]
  split
  · rfl
  · rw [List.length_append, length_writeKey hpos, Message.delimitedSize_eq]

end Field

/-! ## Fields that are carried over -/

/-- What is written of a field in the message `source` folds it into the message `target`, which
becomes `carried`. -/
def Field.Carries [Message μ] (field : Field μ) (depth : Nat) (source target carried : μ) : Prop :=
  (field.write source).length < Nat.pow 2 63 →
    Message.Folds depth target (field.write source) carried

/-- A way to take out and to put in one part of a message. -/
structure IsLens {β : Type} (get : μ → β) (set : β → μ → μ) : Prop where
  get_set : ∀ part message, get (set part message) = part
  set_get : ∀ message, set (get message) message = message
  set_set : ∀ part other message, set part (set other message) = set part message

namespace Message

/-- Messages of a type are read back as `normal` makes them by decoders that go down so many
levels. -/
def ReadsBack (μ : Type) [Message μ] (levels : Nat) (normal : μ → μ) : Prop :=
  ∀ depth message, levels ≤ depth → (encode message).length < Nat.pow 2 63 →
    Folds depth blank (encode message) (normal message)

/-- Messages of a type are folded into others as `combined` makes them, and into the blank one as
`normal` does, by decoders that go down so many levels. -/
structure Combines (μ : Type) [Message μ] (levels : Nat) (combined : μ → μ → μ) (normal : μ → μ) :
    Prop where
  folds : ∀ depth target message, levels ≤ depth → (encode message).length < Nat.pow 2 63 →
    Folds depth target (encode message) (combined target message)
  blank : ∀ message, combined blank message = normal message

/-- Messages that are folded into others are read back. -/
theorem Combines.readsBack [Message μ] {levels : Nat} {combined : μ → μ → μ} {normal : μ → μ}
    (h : Combines μ levels combined normal) : ReadsBack μ levels normal := by
  intro depth message hdepth hshort
  rw [← h.blank]
  exact h.folds depth Message.blank message hdepth hshort

/-- Fields that are written one after the other carry one message over into another. -/
inductive CarriesAll [Message μ] (depth : Nat) (source : μ) :
    List (Field μ) → (target carried : μ) → Prop where
  | nil {target : μ} : CarriesAll depth source [] target target
  | cons {field : Field μ} {fields : List (Field μ)} {target middle carried : μ}
      (hfirst : field.Carries depth source target middle)
      (hrest : CarriesAll depth source fields middle carried) :
      CarriesAll depth source (field :: fields) target carried

/-- What is written of fields that carry over folds. -/
theorem CarriesAll.folds [Message μ] {depth : Nat} {source target carried : μ}
    {fields : List (Field μ)} (h : CarriesAll depth source fields target carried)
    (hshort : (fields.flatMap fun field => field.write source).length < Nat.pow 2 63) :
    Folds depth target (fields.flatMap fun field => field.write source) carried := by
  induction h with
  | nil => exact .nil
  | cons hfirst _ ih =>
      rw [List.flatMap_cons, List.length_append] at hshort
      exact (hfirst (by omega)).append (ih (by omega))

end Message

namespace Field

variable [Message μ] {kind : Scalar α} {normal : α → α} {number depth : Nat} {name : String}
  {source target : μ}

/-- What is written of one part is no longer than what is written of all. -/
theorem length_le_flatMap {β : Type} (write : β → Bytes) {values : List β} {value : β}
    (h : value ∈ values) : (write value).length ≤ (values.flatMap write).length :=
  (List.sublist_flatten_of_mem (List.mem_map_of_mem h)).length_le

/-- Parts that are written one after the other are added one after the other. -/
theorem folds_flatMap {β : Type} {get : μ → List β} {set : List β → μ → μ} (hlens : IsLens get set)
    {write : β → Bytes} {made : β → β} {values : List β}
    (hvalue : ∀ value ∈ values, ∀ target,
      Message.Folds depth target (write value) (set (get target ++ [made value]) target))
    (target : μ) :
    Message.Folds depth target (values.flatMap write)
      (set (get target ++ values.map made) target) := by
  induction values generalizing target with
  | nil =>
      rw [List.map_nil, List.append_nil, hlens.set_get]
      exact .nil
  | cons value values ih =>
      have hfirst := hvalue value List.mem_cons_self target
      have hrest := ih (fun other hother => hvalue other (List.mem_cons_of_mem _ hother))
        (set (get target ++ [made value]) target)
      rw [hlens.get_set, hlens.set_set, List.append_assoc] at hrest
      exact hfirst.append hrest

variable [Message.Numbered μ]

/-- One occurrence that is written with its key folds. -/
theorem folds_occurrence {field : Field μ} {wire : WireType} {value : Bytes} {carried : μ}
    (hfield : (Message.fields (μ := μ)).find? (·.number = number) = some field)
    (hvalue : Takes (field.merge depth wire target) value carried) :
    Message.Folds depth target (writeKey ⟨number, wire⟩ ++ value) carried := by
  have hnumber : field.number = number := by simpa using List.find?_some hfield
  obtain ⟨hpos, hmax⟩ := Message.Numbered.numbered field (List.mem_of_find?_eq_some hfield)
  rw [hnumber] at hpos hmax
  have hhead : Takes readKey (writeKey ⟨number, wire⟩) ⟨number, wire⟩ := takes_writeKey hpos hmax
  have hmerge : Takes (Message.mergeField depth ⟨number, wire⟩ target) value carried :=
    (Message.takes_mergeField_known_iff hfield).mpr hvalue
  simpa using Message.Folds.cons hhead hmerge .nil

/-- A single value is carried over in the place of the one that is there, which is kept if the value
is not written. -/
theorem carries_single_keeping {get : μ → α} {set : α → μ → μ} (kept : α)
    (hfield : (Message.fields (μ := μ)).find? (·.number = number) =
      some (single kind number name get set))
    (hkind : kind.ReadsBack normal)
    (hlocal : IsLocal kind.read) (hkept : set kept target = target) :
    (single kind number name get set).Carries depth source target
      (set (if kind.isDefault (get source) then kept else get source) target) := by
  intro hshort
  simp only [single] at hshort ⊢
  split
  · rw [hkept]
    exact .nil
  · next hset =>
      rw [if_neg hset, List.length_append] at hshort
      have htakes := hkind.takes (get source) (by omega)
      exact folds_occurrence hfield
        ((takes_single_iff hlocal).mpr ⟨rfl, get source, htakes, rfl⟩)

/-- A single value is carried over into a message that holds the default. -/
theorem carries_single {get : μ → α} {set : α → μ → μ}
    (hfield : (Message.fields (μ := μ)).find? (·.number = number) =
      some (single kind number name get set))
    (hkind : kind.ReadsBack normal)
    (hlocal : IsLocal kind.read) (hunset : set kind.default target = target) :
    (single kind number name get set).Carries depth source target
      (set (normal (get source)) target) := by
  rw [hkind.normal_eq]
  exact carries_single_keeping kind.default hfield hkind hlocal hunset

/-- Repeated values are carried over to the end of those that are there. -/
theorem carries_repeated {get : μ → List α} {set : List α → μ → μ}
    (hfield : (Message.fields (μ := μ)).find? (·.number = number) =
      some (repeated kind number name get set))
    (hkind : kind.ReadsBack normal)
    (hlocal : IsLocal kind.read) (hlens : IsLens get set) :
    (repeated kind number name get set).Carries depth source target
      (set (get target ++ get source) target) := by
  intro hshort
  rw [← List.map_id (get source)]
  refine folds_flatMap hlens (fun value hvalue target => ?_) target
  have hlength := length_le_flatMap (fun value => writeKey ⟨number, kind.wire⟩ ++ kind.write value)
    hvalue
  simp only [repeated, List.length_append] at hshort hlength
  have htakes := hkind.takes value (by omega)
  exact folds_occurrence hfield
    ((takes_repeated_iff hlocal).mpr ⟨rfl, value, htakes, rfl⟩)

/-- Packed values are read back. -/
theorem takes_readPacked_flatMap (hkind : kind.ReadsBack normal) {values : List α}
    (hshort : (values.flatMap kind.write).length < Nat.pow 2 63) :
    Takes (readPacked kind (values.flatMap kind.write).length) (values.flatMap kind.write)
      values := by
  induction values with
  | nil => exact takes_readPacked_nil
  | cons value values ih =>
      rw [List.flatMap_cons, List.length_append] at hshort
      exact takes_readPacked_cons (hkind.takes value (by omega)) (ih (by omega))

/-- Packed values are carried over to the end of those that are there. -/
theorem carries_packed {get : μ → List α} {set : List α → μ → μ}
    (hfield : (Message.fields (μ := μ)).find? (·.number = number) =
      some (packed kind number name get set))
    (hkind : kind.ReadsBack normal)
    (hlens : IsLens get set) :
    (packed kind number name get set).Carries depth source target
      (set (get target ++ get source) target) := by
  intro hshort
  simp only [packed] at hshort ⊢
  split
  · next hempty =>
      rw [List.isEmpty_iff.mp hempty, List.append_nil, hlens.set_get]
      exact .nil
  · next hvalues =>
      rw [if_neg hvalues, Scalar.writeBytes, List.length_append, List.length_append] at hshort
      refine folds_occurrence hfield fun tail => ?_
      have hpow : Nat.pow 2 63 < Nat.pow 2 64 := by decide
      have hsize := takes_writeVarint
        (show ((get source).flatMap kind.write).length < Nat.pow 2 64 by omega)
      have hpacked := takes_readPacked_flatMap hkind
        (show ((get source).flatMap kind.write).length < Nat.pow 2 63 by omega)
      simp only [packed, Scalar.writeBytes, takes_readPackable hsize hpacked tail, Except.map]

/-- A nested message that is written is folded into the one that is there. -/
theorem takes_writeDelimited [Message α] {value onto made : α}
    (hvalue : (Message.encode value).length < Nat.pow 2 63 →
      Message.Folds depth onto (Message.encode value) made)
    (hshort : (Message.writeDelimited value).length < Nat.pow 2 63) :
    Takes (Message.mergeDelimited (depth + 1) .lengthDelimited onto)
      (Message.writeDelimited value) made := by
  simp only [Message.writeDelimited, Scalar.writeBytes, List.length_append] at hshort
  have hpow : Nat.pow 2 63 < Nat.pow 2 64 := by decide
  exact (hvalue (by omega)).takes_mergeDelimited (takes_writeVarint (by omega))

/-- Nested messages are carried over to the end of those that are there. -/
theorem carries_messages [Message α] {levels : Nat} {get : μ → List α} {set : List α → μ → μ}
    (hfield : (Message.fields (μ := μ)).find? (·.number = number) =
      some (messages number name get set))
    (hvalue : Message.ReadsBack α levels normal) (hdepth : levels < depth)
    (hlens : IsLens get set) :
    (messages number name get set).Carries depth source target
      (set (get target ++ (get source).map normal) target) := by
  intro hshort
  refine folds_flatMap hlens (fun value hmem target => ?_) target
  have hlength := length_le_flatMap
    (fun value => writeKey ⟨number, .lengthDelimited⟩ ++ Message.writeDelimited value) hmem
  simp only [messages, List.length_append] at hshort hlength
  obtain ⟨outer, rfl⟩ : ∃ outer, depth = outer + 1 := ⟨depth - 1, by omega⟩
  have htakes := takes_writeDelimited (hvalue outer value (by omega))
    (show (Message.writeDelimited value).length < _ by omega)
  refine folds_occurrence hfield fun tail => ?_
  simp only [messages, htakes tail, Except.map]

/-- A nested message that shares its place is carried over into a message of its type, if that is
there, and otherwise takes the place. -/
theorem carries_variant [Message α] {levels : Nat} {combined : α → α → α} {get? : μ → Option α}
    {set : α → μ → μ}
    (hfield : (Message.fields (μ := μ)).find? (·.number = number) =
      some (variant number name get? set))
    (hvalue : Message.Combines α levels combined normal) (hdepth : levels < depth) :
    (variant number name get? set).Carries depth source target
      ((get? source).elim target fun value =>
        set ((get? target).elim (normal value) (combined · value)) target) := by
  intro hshort
  cases hget : get? source with
  | none =>
      simp only [variant, hget]
      exact .nil
  | some value =>
      simp only [variant, hget, List.length_append, Option.elim_some] at hshort ⊢
      obtain ⟨outer, rfl⟩ : ∃ outer, depth = outer + 1 := ⟨depth - 1, by omega⟩
      have htakes := takes_writeDelimited
        (hvalue.folds outer ((get? target).getD Message.blank) value (by omega))
        (show (Message.writeDelimited value).length < _ by omega)
      have hmade : combined ((get? target).getD Message.blank) value =
          (get? target).elim (normal value) (combined · value) := by
        cases get? target with
        | none => exact hvalue.blank value
        | some held => rfl
      rw [hmade] at htakes
      refine folds_occurrence hfield fun tail => ?_
      simp only [variant, htakes tail, Except.map]

end Field

end Glasshouse.Wire
