/-!
# Causes of a failed wire decoding

The binary format writes a message as a run of fields, each a key followed by a value of one of
six wire types. This module names the wire types, the ways in which bytes can fail to be such a
run, and the text of a failure: its cause, preceded by the fields it happened in.
-/

namespace Glasshouse.Wire

/-- Undecoded input, and encoded output. -/
abbrev Bytes := List UInt8

/-- How the value of a field is laid out after its key. -/
inductive WireType where
  | varint
  | sixtyFourBit
  | lengthDelimited
  | startGroup
  | endGroup
  | thirtyTwoBit
deriving DecidableEq, Repr

namespace WireType

/-- The number that stands for the wire type in a key. -/
def code : WireType → Nat
  | varint => 0
  | sixtyFourBit => 1
  | lengthDelimited => 2
  | startGroup => 3
  | endGroup => 4
  | thirtyTwoBit => 5

/-- The wire type of a key's three low bits; six and seven stand for none. -/
def ofCode? : Nat → Option WireType
  | 0 => some varint
  | 1 => some sixtyFourBit
  | 2 => some lengthDelimited
  | 3 => some startGroup
  | 4 => some endGroup
  | 5 => some thirtyTwoBit
  | _ => none

/-- The name used in error texts. -/
def name : WireType → String
  | varint => "Varint"
  | sixtyFourBit => "SixtyFourBit"
  | lengthDelimited => "LengthDelimited"
  | startGroup => "StartGroup"
  | endGroup => "EndGroup"
  | thirtyTwoBit => "ThirtyTwoBit"

/-- Reading a code gives back the wire type it was written for. -/
@[simp] theorem ofCode?_code (wire : WireType) : ofCode? wire.code = some wire := by
  cases wire <;> rfl

/-- Only its code is read as a wire type. -/
theorem ofCode?_eq_some_iff {n : Nat} {wire : WireType} :
    ofCode? n = some wire ↔ n = wire.code := by
  constructor
  · intro h
    unfold ofCode? at h
    split at h <;> cases h <;> rfl
  · rintro rfl
    exact ofCode?_code wire

/-- A code fits the three low bits of a key. -/
theorem code_lt (wire : WireType) : wire.code < 8 := by
  cases wire <;> decide

end WireType

/-- Why bytes are not the encoding that was asked for. -/
inductive Fault where
  /-- A number ran on past ten bytes or 64 bits, or the input ended inside it. -/
  | invalidVarint
  /-- A key does not fit 32 bits. -/
  | keyTooLarge (key : Nat)
  /-- A key holds a wire type that does not exist. -/
  | unknownWireType (code : Nat)
  /-- A key holds the field number zero. -/
  | fieldNumberZero
  /-- A known field was written with a wire type its kind does not have. -/
  | unexpectedWireType (actual expected : WireType)
  /-- Fewer bytes are left than the value announces. -/
  | underflow
  /-- A message or list ran past the length it announced. -/
  | overrun
  /-- A text field holds bytes that are not UTF-8. -/
  | notUtf8
  /-- A group was closed that is not open. -/
  | strayEndGroup
  /-- Messages or groups are nested too deeply. -/
  | tooDeep
deriving DecidableEq, Repr

/-- The description of a cause. -/
def Fault.description : Fault → String
  | invalidVarint => "invalid varint"
  | keyTooLarge key => s!"invalid key value: {key}"
  | unknownWireType code => s!"invalid wire type value: {code}"
  | fieldNumberZero => "invalid tag value: 0"
  | unexpectedWireType actual expected =>
      s!"invalid wire type: {actual.name} (expected {expected.name})"
  | underflow => "buffer underflow"
  | overrun => "delimited length exceeded"
  | notUtf8 => "invalid string value: data is not UTF-8 encoded"
  | strayEndGroup => "unexpected end group tag"
  | tooDeep => "recursion limit reached"

/-- A field of a message, as error texts name it. -/
structure Place where
  message : String
  field : String
deriving DecidableEq, Repr

/-- A cause together with the fields whose values were being read, innermost first. -/
structure DecodeError where
  fault : Fault
  trail : List Place
deriving DecidableEq, Repr

namespace DecodeError

/-- A cause outside every field. -/
def ofFault (fault : Fault) : DecodeError :=
  ⟨fault, []⟩

/-- The error as seen from the field around the one it happened in. -/
def within (error : DecodeError) (place : Place) : DecodeError :=
  { error with trail := error.trail ++ [place] }

/-- The trail and the description, without the introduction. -/
def description (error : DecodeError) : String :=
  String.join (error.trail.map fun place => place.message ++ "." ++ place.field ++ ": ")
    ++ error.fault.description

/-- The whole text of the error. -/
def text (error : DecodeError) : String :=
  "failed to decode Protobuf message: " ++ error.description

end DecodeError

/-- The outcome of reading a value off the front of the input: the value and the bytes after it. -/
abbrev Reading (α : Type) := Except Fault (α × Bytes)

end Glasshouse.Wire
