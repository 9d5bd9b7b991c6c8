import Glasshouse.Wire.Scalar

/-!
# Messages as lists of fields

A message type is described by data: its name, its blank value and its fields. A field knows how to
take one occurrence of itself off the input and how to write itself. Decoding folds the occurrences
into the blank message in the order in which they arrive; encoding writes the fields in the order
of the description. A nested message is read from the input of the message around it and must end
exactly where its announced length ends.
-/

namespace Glasshouse.Wire

/-- One field of a message type `μ`. -/
structure Field (μ : Type) where
  number : Nat
  name : String
  /-- Takes the value of one occurrence off the input; `depth` levels of nesting are left. -/
  merge : (depth : Nat) → WireType → μ → Bytes → Except DecodeError (μ × Bytes)
  write : μ → Bytes
  size : μ → Nat
  length_le : ∀ {depth wire message input merged rest},
    merge depth wire message input = .ok (merged, rest) → rest.length ≤ input.length

/-- A type of messages: the name used in error texts, the message with no field set, and the
fields. -/
class Message (μ : Type) where
  name : String
  blank : μ
  fields : List (Field μ)

namespace Message

variable {μ : Type} [Message μ]

/-- The bytes of a message. -/
def encode (message : μ) : Bytes :=
  (fields (μ := μ)).flatMap fun field => field.write message

/-- The number of bytes of a message, found without writing it. -/
def encodedSize (message : μ) : Nat :=
  ((fields (μ := μ)).map fun field => field.size message).foldr (· + ·) 0

/-- Folds one occurrence into the message: a field that the message knows is merged, any other is
passed over. -/
def mergeField (depth : Nat) (key : Key) (message : μ) (input : Bytes) :
    Except DecodeError (μ × Bytes) :=
  match (fields (μ := μ)).find? (·.number = key.number) with
  | some field =>
      (field.merge depth key.wire message input).mapError (·.within ⟨name μ, field.name⟩)
  | none =>
      match (Skipper.ofDepth depth).skip key input with
      | .error fault => .error (.ofFault fault)
      | .ok rest => .ok (message, rest)

/-- Folding in an occurrence leaves no more bytes than there were. -/
theorem mergeField_length_le {depth : Nat} {key : Key} {message merged : μ} {input rest : Bytes}
    (h : mergeField depth key message input = .ok (merged, rest)) :
    rest.length ≤ input.length := by
  unfold mergeField at h
  split at h
  · next field _ =>
    cases hmerge : field.merge depth key.wire message input with
    | error =>
      rw [hmerge] at h
      cases h
    | ok result =>
      rw [hmerge] at h
      exact field.length_le (Except.ok.inj h ▸ hmerge)
  · split at h
    · simp at h
    · next rest' hskip =>
      simp only [Except.ok.injEq, Prod.mk.injEq] at h
      exact h.2 ▸ (Skipper.ofDepth depth).length_le hskip

/-- Folds in the fields of the next `left` bytes, which the last field has to end with. -/
def mergeFields (depth left : Nat) (message : μ) (input : Bytes) :
    Except DecodeError (μ × Bytes) :=
  if left = 0 then .ok (message, input)
  else match _ : readKey input with
    | .error fault => .error (.ofFault fault)
    | .ok (key, body) =>
      match _ : mergeField depth key message body with
      | .error error => .error error
      | .ok (merged, rest) =>
          let taken := input.length - rest.length
          if taken ≤ left then mergeFields depth (left - taken) merged rest
          else .error (.ofFault .overrun)
termination_by left
decreasing_by
  have := readKey_shortens ‹_›
  have := mergeField_length_le ‹_›
  omega

/-- Folding in fields leaves no more bytes than there were. -/
theorem mergeFields_length_le {depth left : Nat} {message merged : μ} {input rest : Bytes}
    (h : mergeFields depth left message input = .ok (merged, rest)) :
    rest.length ≤ input.length := by
  fun_induction mergeFields depth left message input with
  | case1 =>
    simp only [Except.ok.injEq, Prod.mk.injEq] at h
    exact h.2 ▸ Nat.le_refl _
  | case2 => simp at h
  | case3 => simp at h
  | case4 _ _ _ _ key body hkey _ rest' hfield _ _ ih =>
    have := readKey_shortens hkey
    have := mergeField_length_le hfield
    have := ih h
    omega
  | case5 => simp at h

/-- The levels of nesting that a decoder goes down. -/
def maxDepth : Nat := 100

/-- Decodes a message that takes up the whole input. -/
def decode (input : Bytes) : Except DecodeError μ :=
  (mergeFields maxDepth input.length blank input).map Prod.fst

/-- Folds the content of a nested message, which follows as a length and its bytes, into one that
was read before or is blank. -/
def mergeDelimited (depth : Nat) (wire : WireType) (message : μ) (input : Bytes) :
    Except DecodeError (μ × Bytes) :=
  if wire = .lengthDelimited then
    match depth with
    | 0 => .error (.ofFault .tooDeep)
    | depth + 1 =>
        match readVarint input with
        | .error fault => .error (.ofFault fault)
        | .ok (length, body) =>
            if length ≤ body.length then mergeFields depth length message body
            else .error (.ofFault .underflow)
  else .error (.ofFault (.unexpectedWireType wire .lengthDelimited))

/-- A nested message leaves no more bytes than there were. -/
theorem mergeDelimited_length_le {depth : Nat} {wire : WireType} {message merged : μ}
    {input rest : Bytes} (h : mergeDelimited depth wire message input = .ok (merged, rest)) :
    rest.length ≤ input.length := by
  unfold mergeDelimited at h
  split at h
  · split at h
    · simp at h
    · split at h
      · simp at h
      · next length body hread =>
        split at h
        · exact Nat.le_trans (mergeFields_length_le h) (Nat.le_of_lt (readVarint_shortens hread))
        · simp at h
  · simp at h

/-- The bytes of a nested message after its key. -/
def writeDelimited (message : μ) : Bytes :=
  Scalar.writeBytes (encode message)

/-- The number of bytes of a nested message after its key. -/
def delimitedSize (message : μ) : Nat :=
  Scalar.delimitedSize (encodedSize message)

end Message

namespace Field

variable {μ α : Type}

/-- Reads one value of a scalar kind, after a look at its wire type. -/
def readScalar (kind : Scalar α) (wire : WireType) (input : Bytes) :
    Except DecodeError (α × Bytes) :=
  if wire = kind.wire then (kind.read input).mapError .ofFault
  else .error (.ofFault (.unexpectedWireType wire kind.wire))

/-- Reading a scalar leaves no more bytes than there were. -/
theorem readScalar_length_le {kind : Scalar α} {wire : WireType} {input rest : Bytes} {value : α}
    (h : readScalar kind wire input = .ok (value, rest)) : rest.length ≤ input.length := by
  unfold readScalar at h
  split at h
  · cases hread : kind.read input with
    | error =>
      rw [hread] at h
      cases h
    | ok result =>
      rw [hread] at h
      exact Nat.le_of_lt (kind.shortens (Except.ok.inj h ▸ hread))
  · simp at h

/-- A value that is written with its key, unless the reader assumes it. -/
def single (kind : Scalar α) (number : Nat) (name : String) (get : μ → α) (set : α → μ → μ) :
    Field μ where
  number := number
  name := name
  merge _ wire message input :=
    (readScalar kind wire input).map fun (value, rest) => (set value message, rest)
  write message :=
    if kind.isDefault (get message) then []
    else writeKey ⟨number, kind.wire⟩ ++ kind.write (get message)
  size message :=
    if kind.isDefault (get message) then 0 else keySize number + kind.size (get message)
  length_le {_ wire message input merged rest} h := by
    cases hread : readScalar kind wire input with
    | error => simp [hread, Except.map] at h
    | ok result =>
      simp only [hread, Except.map, Except.ok.injEq, Prod.mk.injEq] at h
      exact readScalar_length_le (by rw [hread, ← h.2])

/-- Values of which every occurrence adds one. -/
def repeated (kind : Scalar α) (number : Nat) (name : String) (get : μ → List α)
    (set : List α → μ → μ) : Field μ where
  number := number
  name := name
  merge _ wire message input :=
    (readScalar kind wire input).map fun (value, rest) =>
      (set (get message ++ [value]) message, rest)
  write message :=
    (get message).flatMap fun value => writeKey ⟨number, kind.wire⟩ ++ kind.write value
  size message := ((get message).map fun value => keySize number + kind.size value).foldr (· + ·) 0
  length_le {_ wire message input merged rest} h := by
    cases hread : readScalar kind wire input with
    | error => simp [hread, Except.map] at h
    | ok result =>
      simp only [hread, Except.map, Except.ok.injEq, Prod.mk.injEq] at h
      exact readScalar_length_le (by rw [hread, ← h.2])

/-- Reads the values of the next `left` bytes, which the last value has to end with. -/
def readPacked (kind : Scalar α) (left : Nat) (input : Bytes) : Reading (List α) :=
  if left = 0 then .ok ([], input)
  else match _ : kind.read input with
    | .error fault => .error fault
    | .ok (value, rest) =>
        let taken := input.length - rest.length
        if taken ≤ left then
          match readPacked kind (left - taken) rest with
          | .error fault => .error fault
          | .ok (values, rest) => .ok (value :: values, rest)
        else .error .overrun
termination_by left
decreasing_by
  have := kind.shortens ‹_›
  omega

/-- Reading packed values leaves no more bytes than there were. -/
theorem readPacked_length_le {kind : Scalar α} {left : Nat} {input rest : Bytes} {values : List α}
    (h : readPacked kind left input = .ok (values, rest)) : rest.length ≤ input.length := by
  fun_induction readPacked kind left input generalizing values rest with
  | case1 =>
    simp only [Except.ok.injEq, Prod.mk.injEq] at h
    exact h.2 ▸ Nat.le_refl _
  | case2 => simp at h
  | case3 => simp at h
  | case4 left input _ value rest' hread _ _ values' rest'' hmore =>
    rename_i ih
    simp only [Except.ok.injEq, Prod.mk.injEq] at h
    have := kind.shortens hread
    have := ih hmore
    rw [← h.2]
    omega
  | case5 => simp at h

/-- Reads the values of one occurrence: packed behind a length, or a single one. -/
def readPackable (kind : Scalar α) (wire : WireType) (input : Bytes) :
    Except DecodeError (List α × Bytes) :=
  if wire = .lengthDelimited then
    match readVarint input with
    | .error fault => .error (.ofFault fault)
    | .ok (length, body) =>
        if length ≤ body.length then (readPacked kind length body).mapError .ofFault
        else .error (.ofFault .underflow)
  else (readScalar kind wire input).map fun (value, rest) => ([value], rest)

/-- Reading one occurrence of packable values leaves no more bytes than there were. -/
theorem readPackable_length_le {kind : Scalar α} {wire : WireType} {input rest : Bytes}
    {values : List α} (h : readPackable kind wire input = .ok (values, rest)) :
    rest.length ≤ input.length := by
  unfold readPackable at h
  split at h
  · split at h
    · simp at h
    · next length body hread =>
      split at h
      · cases hpacked : readPacked kind length body with
        | error =>
          rw [hpacked] at h
          cases h
        | ok result =>
          rw [hpacked] at h
          exact Nat.le_trans (readPacked_length_le (Except.ok.inj h ▸ hpacked))
            (Nat.le_of_lt (readVarint_shortens hread))
      · simp at h
  · cases hread : readScalar kind wire input with
    | error => simp [hread, Except.map] at h
    | ok result =>
      simp only [hread, Except.map, Except.ok.injEq, Prod.mk.injEq] at h
      exact readScalar_length_le (by rw [hread, ← h.2])

/-- The number of bytes of packed values without their length. -/
def packedSize (kind : Scalar α) (values : List α) : Nat :=
  (values.map kind.size).foldr (· + ·) 0

/-- Values that are written together behind one key and one length, and read either way. -/
def packed (kind : Scalar α) (number : Nat) (name : String) (get : μ → List α)
    (set : List α → μ → μ) : Field μ where
  number := number
  name := name
  merge _ wire message input :=
    (readPackable kind wire input).map fun (values, rest) =>
      (set (get message ++ values) message, rest)
  write message :=
    if (get message).isEmpty then []
    else writeKey ⟨number, .lengthDelimited⟩
      ++ Scalar.writeBytes ((get message).flatMap kind.write)
  size message :=
    if (get message).isEmpty then 0
    else keySize number + Scalar.delimitedSize (packedSize kind (get message))
  length_le {_ wire message input merged rest} h := by
    cases hread : readPackable kind wire input with
    | error => simp [hread, Except.map] at h
    | ok result =>
      simp only [hread, Except.map, Except.ok.injEq, Prod.mk.injEq] at h
      exact readPackable_length_le (by rw [hread, ← h.2])

/-- Nested messages of which every occurrence adds one. -/
def messages [Message α] (number : Nat) (name : String) (get : μ → List α)
    (set : List α → μ → μ) : Field μ where
  number := number
  name := name
  merge depth wire message input :=
    (Message.mergeDelimited depth wire (Message.blank : α) input).map fun (value, rest) =>
      (set (get message ++ [value]) message, rest)
  write message :=
    (get message).flatMap fun value =>
      writeKey ⟨number, .lengthDelimited⟩ ++ Message.writeDelimited value
  size message :=
    ((get message).map fun value => keySize number + Message.delimitedSize value).foldr (· + ·) 0
  length_le {depth wire message input merged rest} h := by
    cases hread : Message.mergeDelimited depth wire (Message.blank : α) input with
    | error => simp [hread, Except.map] at h
    | ok result =>
      simp only [hread, Except.map, Except.ok.injEq, Prod.mk.injEq] at h
      exact Message.mergeDelimited_length_le (by rw [hread, ← h.2])

/-- A nested message that shares its place with others: an occurrence is folded into what is there
if that is of the same kind, and replaces it otherwise. It is written even when it is blank. -/
def variant [Message α] (number : Nat) (name : String) (get? : μ → Option α) (set : α → μ → μ) :
    Field μ where
  number := number
  name := name
  merge depth wire message input :=
    (Message.mergeDelimited depth wire ((get? message).getD Message.blank) input).map
      fun (value, rest) => (set value message, rest)
  write message :=
    match get? message with
    | none => []
    | some value => writeKey ⟨number, .lengthDelimited⟩ ++ Message.writeDelimited value
  size message :=
    match get? message with
    | none => 0
    | some value => keySize number + Message.delimitedSize value
  length_le {depth wire message input merged rest} h := by
    cases hread :
        Message.mergeDelimited depth wire ((get? message).getD Message.blank) input with
    | error => simp [hread, Except.map] at h
    | ok result =>
      simp only [hread, Except.map, Except.ok.injEq, Prod.mk.injEq] at h
      exact Message.mergeDelimited_length_le (by rw [hread, ← h.2])

end Field

end Glasshouse.Wire
