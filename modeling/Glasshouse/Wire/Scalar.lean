import Glasshouse.Wire.Skip
import Glasshouse.Number.Binary

/-!
# Scalar values

A scalar kind says how one value is laid out after its key: its wire type, its bytes, their number,
and which value is left out because a reader assumes it. The kinds of the status messages are
unsigned and signed numbers, single-precision floats, texts and byte strings.
-/

namespace Glasshouse.Wire

open Number

/-- How values of one kind are written and read. -/
structure Scalar (α : Type) where
  wire : WireType
  read : Bytes → Reading α
  write : α → Bytes
  size : α → Nat
  default : α
  isDefault : α → Bool
  shortens : ∀ {input value rest}, read input = .ok (value, rest) → rest.length < input.length

namespace Scalar

/-- Reads a number and turns it into the value it stands for. -/
def readNumber {α : Type} (ofNat : Nat → α) (input : Bytes) : Reading α :=
  match readVarint input with
  | .error fault => .error fault
  | .ok (n, rest) => .ok (ofNat n, rest)

/-- Reading a number leaves fewer bytes than there were. -/
theorem readNumber_shortens {α : Type} {ofNat : Nat → α} {input rest : Bytes} {value : α}
    (h : readNumber ofNat input = .ok (value, rest)) : rest.length < input.length := by
  unfold readNumber at h
  split at h
  · simp at h
  · next n tail hread =>
    simp only [Except.ok.injEq, Prod.mk.injEq] at h
    exact h.2 ▸ readVarint_shortens hread

/-- The kind of the values that a number stands for. -/
def ofNumber {α : Type} [DecidableEq α] (ofNat : Nat → α) (toNat : α → Nat) (default : α) :
    Scalar α where
  wire := .varint
  read := readNumber ofNat
  write value := writeVarint (toNat value)
  size value := varintSize (toNat value)
  default := default
  isDefault value := value = default
  shortens h := readNumber_shortens h

/-- Unsigned numbers of 32 bits; the high bits of a larger number are dropped. -/
def uint32 : Scalar UInt32 :=
  ofNumber UInt32.ofNat UInt32.toNat 0

/-- Unsigned numbers of 64 bits. -/
def uint64 : Scalar UInt64 :=
  ofNumber UInt64.ofNat UInt64.toNat 0

/-- The 64-bit number that a signed number is written as: negative ones count down from 2^64. -/
def signedToNat (value : Int32) : Nat :=
  (value.toInt % Int.pow 2 64).toNat

/-- Signed numbers of 32 bits; the high bits of a larger number are dropped. -/
def int32 : Scalar Int32 :=
  ofNumber Int32.ofNat signedToNat 0

/-- Reads four bytes, lowest first. -/
def readFour (input : Bytes) : Reading Nat :=
  match input with
  | b₀ :: b₁ :: b₂ :: b₃ :: rest =>
      .ok (b₀.toNat + 256 * (b₁.toNat + 256 * (b₂.toNat + 256 * b₃.toNat)), rest)
  | _ => .error .underflow

/-- Writes four bytes, lowest first. -/
def writeFour (n : Nat) : Bytes :=
  [n.toUInt8, (n / 256).toUInt8, (n / Nat.pow 256 2).toUInt8, (n / Nat.pow 256 3).toUInt8]

/-- Reads the four bytes of a float. -/
def readFloat (input : Bytes) : Reading Binary32 :=
  match readFour input with
  | .error fault => .error fault
  | .ok (n, rest) => .ok (⟨UInt32.ofNat n⟩, rest)

/-- Single-precision floats; both zeros are assumed by a reader. -/
def float : Scalar Binary32 where
  wire := .thirtyTwoBit
  read := readFloat
  write value := writeFour value.bits.toNat
  size _ := 4
  default := 0
  isDefault value := value.isZero
  shortens {input value rest} h := by
    unfold readFloat readFour at h
    split at h
    · simp at h
    · next n tail hread =>
      split at hread
      · simp only [Except.ok.injEq, Prod.mk.injEq] at hread h
        rw [← h.2, ← hread.2]
        simp only [List.length_cons]
        omega
      · simp at hread

/-- Reads a length and that many bytes. -/
def readBytes (input : Bytes) : Reading Bytes :=
  match readVarint input with
  | .error fault => .error fault
  | .ok (count, rest) =>
      if count ≤ rest.length then .ok (rest.take count, rest.drop count) else .error .underflow

/-- Writes a length and the bytes it counts. -/
def writeBytes (content : Bytes) : Bytes :=
  writeVarint content.length ++ content

/-- The number of bytes of a content of `length` bytes together with its length. -/
def delimitedSize (length : Nat) : Nat :=
  varintSize length + length

/-- Reading a length and its bytes leaves fewer bytes than there were. -/
theorem readBytes_shortens {input content rest : Bytes}
    (h : readBytes input = .ok (content, rest)) : rest.length < input.length := by
  unfold readBytes at h
  split at h
  · simp at h
  · next count tail hread =>
    split at h
    · simp only [Except.ok.injEq, Prod.mk.injEq] at h
      have := readVarint_shortens hread
      rw [← h.2, List.length_drop]
      omega
    · simp at h

/-- Byte strings. -/
def bytes : Scalar Bytes where
  wire := .lengthDelimited
  read := readBytes
  write := writeBytes
  size content := delimitedSize content.length
  default := []
  isDefault content := content = []
  shortens h := readBytes_shortens h

/-- Reads a length and that many bytes of UTF-8. -/
def readText (input : Bytes) : Reading String :=
  match readBytes input with
  | .error fault => .error fault
  | .ok (content, rest) =>
      match String.fromUTF8? ⟨content.toArray⟩ with
      | some text => .ok (text, rest)
      | none => .error .notUtf8

/-- Texts. -/
def text : Scalar String where
  wire := .lengthDelimited
  read := readText
  write value := writeBytes value.toUTF8.toList
  size value := delimitedSize value.utf8ByteSize
  default := ""
  isDefault value := value = ""
  shortens {input value rest} h := by
    unfold readText at h
    split at h
    · simp at h
    · next content tail hread =>
      split at h
      · simp only [Except.ok.injEq, Prod.mk.injEq] at h
        exact h.2 ▸ readBytes_shortens hread
      · simp at h

end Scalar

end Glasshouse.Wire
