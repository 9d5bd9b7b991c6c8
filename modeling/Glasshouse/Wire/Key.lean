import Glasshouse.Wire.Varint

/-!
# Field keys

Every field starts with a key: the field's number and the wire type of its value, written as one
number. Main statement: `readKey_writeKey`.
-/

namespace Glasshouse.Wire

/-- What a key says about the value after it. -/
structure Key where
  number : Nat
  wire : WireType
deriving DecidableEq, Repr

/-- The largest number a field can have. -/
def maxFieldNumber : Nat :=
  Nat.pow 2 29 - 1

/-- Reads a key; a wire type that does not exist is noticed before a field number of zero. -/
def readKey (input : Bytes) : Reading Key :=
  match readVarint input with
  | .error fault => .error fault
  | .ok (key, rest) =>
      if Nat.pow 2 32 ≤ key then .error (.keyTooLarge key)
      else match WireType.ofCode? (key % 8) with
        | none => .error (.unknownWireType (key % 8))
        | some wire =>
            if key / 8 = 0 then .error .fieldNumberZero else .ok (⟨key / 8, wire⟩, rest)

/-- Writes a key. -/
def writeKey (key : Key) : Bytes :=
  writeVarint (8 * key.number + key.wire.code)

/-- The number of bytes of a key. -/
def keySize (number : Nat) : Nat :=
  varintSize (8 * number)

/-- A key is read off a number that fits 32 bits: its field number, which is not zero, in front of
the code of its wire type. -/
theorem readKey_eq_ok_iff {input rest : Bytes} {key : Key} :
    readKey input = .ok (key, rest) ↔
      readVarint input = .ok (8 * key.number + key.wire.code, rest) ∧
        8 * key.number + key.wire.code < Nat.pow 2 32 ∧ 0 < key.number := by
  have hcode := key.wire.code_lt
  constructor
  · intro h
    unfold readKey at h
    split at h
    · cases h
    · next n tail hread =>
      split at h
      · cases h
      · next hfits =>
        split at h
        · cases h
        · next wire hwire =>
          split at h
          · cases h
          · next hnumber =>
            cases h
            have hlow := WireType.ofCode?_eq_some_iff.mp hwire
            have hn : 8 * (n / 8) + wire.code = n := by omega
            show readVarint input = .ok (8 * (n / 8) + wire.code, rest) ∧
              8 * (n / 8) + wire.code < Nat.pow 2 32 ∧ 0 < n / 8
            rw [hn]
            exact ⟨hread, Nat.not_le.mp hfits, Nat.pos_of_ne_zero hnumber⟩
  · rintro ⟨hread, hfits, hpos⟩
    have hmod : (8 * key.number + key.wire.code) % 8 = key.wire.code := by omega
    have hdiv : (8 * key.number + key.wire.code) / 8 = key.number := by omega
    simp only [readKey, hread, hmod, hdiv, WireType.ofCode?_code]
    rw [if_neg (Nat.not_le.mpr hfits), if_neg (Nat.ne_of_gt hpos)]

/-- Reading a key takes at least one byte. -/
theorem readKey_shortens {input rest : Bytes} {key : Key}
    (h : readKey input = .ok (key, rest)) : rest.length < input.length :=
  readVarint_shortens (readKey_eq_ok_iff.mp h).1

/-- A written key is read back, and what follows it is left alone. -/
theorem readKey_writeKey {key : Key} (hpos : 0 < key.number) (hmax : key.number ≤ maxFieldNumber)
    (rest : Bytes) : readKey (writeKey key ++ rest) = .ok (key, rest) := by
  have hcode := key.wire.code_lt
  have hbound : key.number ≤ 2 ^ 29 - 1 := hmax
  have hfits : 8 * key.number + key.wire.code < Nat.pow 2 32 := by
    show _ < 2 ^ 32
    omega
  have hlong : 8 * key.number + key.wire.code < Nat.pow 2 64 := by
    show _ < 2 ^ 64
    omega
  exact readKey_eq_ok_iff.mpr ⟨readVarint_writeVarint hlong rest, hfits, hpos⟩

end Glasshouse.Wire
