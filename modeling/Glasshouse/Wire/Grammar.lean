import Glasshouse.Wire.Message

/-!
# The grammar of encoded fields

Which bytes are numbers, keys and sequences of complete fields, said without a reader. A number may
be written in more bytes than it needs. Groups hold fields in turn; a budget of levels bounds how
deep they go.
-/

namespace Glasshouse.Wire

/-- The number that bytes stand for: seven bits of each, lowest first. -/
def varintValue : Bytes → Nat
  | [] => 0
  | byte :: rest => byte.toNat % 128 + 128 * varintValue rest

/-- At most ten bytes of which all but the last have their high bit set; a tenth holds one bit. -/
def IsVarint (bytes : Bytes) (n : Nat) : Prop :=
  ∃ init last, bytes = init ++ [last] ∧ (∀ byte ∈ init, 128 ≤ byte.toNat) ∧ last.toNat < 128 ∧
    init.length ≤ 9 ∧ (init.length = 9 → last.toNat ≤ 1) ∧ n = varintValue bytes

/-- The number of a field's number and wire type; it has to fit 32 bits. -/
def IsKey (bytes : Bytes) (key : Key) : Prop :=
  0 < key.number ∧ 8 * key.number + key.wire.code < Nat.pow 2 32 ∧
    IsVarint bytes (8 * key.number + key.wire.code)

/-- The bytes of a value of some wire type that is not a group. -/
inductive IsFlat : WireType → Bytes → Prop where
  | varint {bytes : Bytes} {n : Nat} (h : IsVarint bytes n) : IsFlat .varint bytes
  | thirtyTwoBit {bytes : Bytes} (h : bytes.length = 4) : IsFlat .thirtyTwoBit bytes
  | sixtyFourBit {bytes : Bytes} (h : bytes.length = 8) : IsFlat .sixtyFourBit bytes
  | lengthDelimited {size content : Bytes} (h : IsVarint size content.length) :
      IsFlat .lengthDelimited (size ++ content)

/-- The bytes of complete fields with these numbers, in order, when there are so many levels left
for them; the fields of a group have one level less than the group. -/
inductive IsFields : (levels : Nat) → (numbers : List Nat) → Bytes → Prop where
  | nil {levels : Nat} : IsFields levels [] []
  | flat {levels : Nat} {key : Key} {numbers : List Nat} {head value rest : Bytes}
      (hkey : IsKey head key) (hvalue : IsFlat key.wire value)
      (hrest : IsFields (levels + 1) numbers rest) :
      IsFields (levels + 1) (key.number :: numbers) (head ++ value ++ rest)
  | group {levels number : Nat} {inner numbers : List Nat} {opening content closing rest : Bytes}
      (hopening : IsKey opening ⟨number, .startGroup⟩) (hcontent : IsFields levels inner content)
      (hclosing : IsKey closing ⟨number, .endGroup⟩)
      (hrest : IsFields (levels + 1) numbers rest) :
      IsFields (levels + 1) (number :: numbers) (opening ++ content ++ closing ++ rest)

/-- Bytes that split into the contents of the fields with number one, which are written as a length
and so many bytes, and complete fields with other numbers. -/
inductive Splits : Bytes → (entries : List Bytes) → Prop where
  | nil : Splits [] []
  | entry {head size content rest : Bytes} {entries : List Bytes}
      (hkey : IsKey head ⟨1, .lengthDelimited⟩) (hsize : IsVarint size content.length)
      (hrest : Splits rest entries) :
      Splits (head ++ size ++ content ++ rest) (content :: entries)
  | other {number : Nat} {field rest : Bytes} {entries : List Bytes} (hnumber : number ≠ 1)
      (hfield : IsFields Message.maxDepth [number] field) (hrest : Splits rest entries) :
      Splits (field ++ rest) entries

/-- Complete fields can be put one after the other. -/
theorem IsFields.append {levels : Nat} {numbers others : List Nat} {bytes more : Bytes}
    (first : IsFields levels numbers bytes) (second : IsFields levels others more) :
    IsFields levels (numbers ++ others) (bytes ++ more) := by
  induction first with
  | nil => exact second
  | @flat levels key numbers head value rest hkey hvalue _ ih =>
    rw [List.append_assoc (head ++ value), List.cons_append]
    exact .flat hkey hvalue (ih second)
  | @group levels number inner numbers opening content closing rest hopening hcontent hclosing _ _
      ih =>
    rw [List.append_assoc (opening ++ content ++ closing), List.cons_append]
    exact .group hopening hcontent hclosing (ih second)

end Glasshouse.Wire
