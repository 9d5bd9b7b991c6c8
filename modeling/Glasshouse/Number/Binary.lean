/-!
# Binary floating-point values by their bits

Measurements arrive in single precision and are stored in double precision. Both are kept as bit
patterns, so that every zero, subnormal, infinity and NaN is told apart, and widening is exact
arithmetic on the parts of the pattern.
-/

namespace Glasshouse.Number

/-- A single-precision value: one sign bit, eight exponent bits and 23 fraction bits. -/
structure Binary32 where
  bits : UInt32
deriving DecidableEq, Repr

/-- A double-precision value: one sign bit, eleven exponent bits and 52 fraction bits. -/
structure Binary64 where
  bits : UInt64
deriving DecidableEq, Repr

namespace Binary32

instance : OfNat Binary32 0 := ⟨⟨0⟩⟩

instance : Inhabited Binary32 := ⟨0⟩

/-- The sign bit. -/
def sign (value : Binary32) : Nat :=
  value.bits.toNat / Nat.pow 2 31

/-- The biased exponent. -/
def exponent (value : Binary32) : Nat :=
  value.bits.toNat / Nat.pow 2 23 % Nat.pow 2 8

/-- The fraction bits. -/
def fraction (value : Binary32) : Nat :=
  value.bits.toNat % Nat.pow 2 23

/-- The value is a zero of either sign. -/
def isZero (value : Binary32) : Bool :=
  value.bits.toNat % Nat.pow 2 31 = 0

/-- The value is not a number. -/
def isNaN (value : Binary32) : Bool :=
  value.exponent = 255 ∧ value.fraction ≠ 0

/-- The value with a negative zero replaced by the positive one. -/
def positiveZero (value : Binary32) : Binary32 :=
  if value.isZero then 0 else value

end Binary32

namespace Binary64

instance : OfNat Binary64 0 := ⟨⟨0⟩⟩

instance : Inhabited Binary64 := ⟨0⟩

/-- The value with these sign, exponent and fraction bits. -/
def ofParts (sign exponent fraction : Nat) : Binary64 :=
  ⟨UInt64.ofNat (sign * Nat.pow 2 63 + exponent * Nat.pow 2 52 + fraction)⟩

/-- The value is not a number. -/
def isNaN (value : Binary64) : Bool :=
  value.bits.toNat / Nat.pow 2 52 % Nat.pow 2 11 = 2047 ∧ value.bits.toNat % Nat.pow 2 52 ≠ 0

end Binary64

/-- The double-precision value that equals a single-precision one. A subnormal one, which is its
fraction times 2^-149, becomes normal: its leading bit turns into the exponent. A NaN stays one and
becomes quiet. -/
def Binary32.widen (value : Binary32) : Binary64 :=
  if value.exponent = 255 then
    let quiet := if value.fraction = 0 then 0 else Nat.pow 2 51
    .ofParts value.sign 2047 (value.fraction % Nat.pow 2 22 * Nat.pow 2 29 + quiet)
  else if value.exponent = 0 then
    if value.fraction = 0 then .ofParts value.sign 0 0
    else
      let lead := value.fraction.log2
      .ofParts value.sign (lead + 874) ((value.fraction - Nat.pow 2 lead) * Nat.pow 2 (52 - lead))
  else .ofParts value.sign (value.exponent + 896) (value.fraction * Nat.pow 2 29)

end Glasshouse.Number
