import Glasshouse.Wire.Key

/-!
# Passing over unknown fields

A field whose number a message does not know is read only as far as its end. A group ends where its
own number is closed, and may hold groups in turn; every level of nesting spends one unit of a
budget.
-/

namespace Glasshouse.Wire

/-- Passes over a known number of bytes. -/
def dropBytes (count : Nat) (input : Bytes) : Except Fault Bytes :=
  if count ≤ input.length then .ok (input.drop count) else .error .underflow

/-- Passing over bytes leaves no more than there were. -/
theorem dropBytes_length_le {count : Nat} {input rest : Bytes}
    (h : dropBytes count input = .ok rest) : rest.length ≤ input.length := by
  unfold dropBytes at h
  split at h
  · simp only [Except.ok.injEq] at h
    simp [← h]
  · simp at h

/-- A way of passing over the value that belongs to a key. -/
structure Skipper where
  skip : Key → Bytes → Except Fault Bytes
  length_le : ∀ {key input rest}, skip key input = .ok rest → rest.length ≤ input.length

namespace Skipper

/-- Passes over the fields of the open group `number` and over the key that closes it. -/
def closeGroup (inner : Skipper) (number : Nat) (input : Bytes) : Except Fault Bytes :=
  match _ : readKey input with
  | .error fault => .error fault
  | .ok (key, body) =>
      if key.wire = .endGroup then
        if key.number = number then .ok body else .error .strayEndGroup
      else match _ : inner.skip key body with
        | .error fault => .error fault
        | .ok rest => inner.closeGroup number rest
termination_by input.length
decreasing_by
  have := readKey_shortens ‹_›
  have := inner.length_le ‹_›
  omega

/-- A closed group leaves no more bytes than there were. -/
theorem closeGroup_length_le (inner : Skipper) {number : Nat} {input rest : Bytes}
    (h : inner.closeGroup number input = .ok rest) : rest.length ≤ input.length := by
  fun_induction closeGroup inner number input with
  | case1 => simp at h
  | case2 input key body hkey =>
    simp only [Except.ok.injEq] at h
    exact h ▸ Nat.le_of_lt (readKey_shortens hkey)
  | case3 => simp at h
  | case4 => simp at h
  | case5 input key body hkey _ rest' hskip ih =>
    have := inner.length_le hskip
    have := readKey_shortens hkey
    have := ih h
    omega

/-- A value whose size is found without another level of nesting. -/
def flat (wire : WireType) (input : Bytes) : Except Fault Bytes :=
  match wire with
  | .varint => (readVarint input).map Prod.snd
  | .thirtyTwoBit => dropBytes 4 input
  | .sixtyFourBit => dropBytes 8 input
  | .lengthDelimited =>
      match readVarint input with
      | .error fault => .error fault
      | .ok (count, rest) => dropBytes count rest
  | .startGroup | .endGroup => .error .strayEndGroup

/-- Passing over a flat value leaves no more bytes than there were. -/
theorem flat_length_le {wire : WireType} {input rest : Bytes}
    (h : flat wire input = .ok rest) : rest.length ≤ input.length := by
  cases wire with
  | varint =>
    simp only [flat] at h
    cases hread : readVarint input with
    | error => simp [hread, Except.map] at h
    | ok result =>
      simp only [hread, Except.map, Except.ok.injEq] at h
      exact h ▸ Nat.le_of_lt (readVarint_shortens hread)
  | thirtyTwoBit => exact dropBytes_length_le h
  | sixtyFourBit => exact dropBytes_length_le h
  | lengthDelimited =>
    simp only [flat] at h
    split at h
    · simp at h
    · next count body hread =>
      exact Nat.le_trans (dropBytes_length_le h) (Nat.le_of_lt (readVarint_shortens hread))
  | startGroup => simp [flat] at h
  | endGroup => simp [flat] at h

/-- The skipper that may go down `depth` levels, the value's own among them. -/
def ofDepth : (depth : Nat) → Skipper
  | 0 => ⟨fun _ _ => .error .tooDeep, by simp⟩
  | depth + 1 =>
      { skip := fun key input =>
          if key.wire = .startGroup then (ofDepth depth).closeGroup key.number input
          else flat key.wire input
        length_le := by
          intro key input rest h
          split at h
          · exact closeGroup_length_le _ h
          · exact flat_length_le h }

end Skipper

end Glasshouse.Wire
