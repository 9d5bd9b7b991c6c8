/-!
# Decimal numbers in text

Whole numbers as text: digits of the ASCII range, with an optional sign in front. Nothing else is
taken for a number, neither blanks nor separators.
-/

namespace Glasshouse.Text

/-- The value of a digit. -/
def digit? (c : Char) : Option Nat :=
  if '0' ≤ c ∧ c ≤ '9' then some (c.toNat - '0'.toNat) else none

/-- The number that digits stand for after a number read so far. -/
def digitsAfter? (acc : Nat) : List Char → Option Nat
  | [] => some acc
  | c :: cs =>
      match digit? c with
      | none => none
      | some d => digitsAfter? (10 * acc + d) cs

/-- The number that one or more digits stand for. -/
def digits? : List Char → Option Nat
  | [] => none
  | cs => digitsAfter? 0 cs

/-- A number with an optional plus sign. -/
def natural? : List Char → Option Nat
  | '+' :: cs => digits? cs
  | cs => digits? cs

/-- A number with an optional sign. -/
def integer? : List Char → Option Int
  | '-' :: cs => (digits? cs).map fun n => -(n : Int)
  | '+' :: cs => (digits? cs).map Int.ofNat
  | cs => (digits? cs).map Int.ofNat

/-- A number below 2^`width`. -/
def unsigned? (width : Nat) (text : String) : Option Nat :=
  (natural? text.toList).filter (· < Nat.pow 2 width)

/-- A number in the range of two's complement of `width` bits. -/
def signed? (width : Nat) (text : String) : Option Int :=
  (integer? text.toList).filter fun n => -Int.pow 2 (width - 1) ≤ n ∧ n < Int.pow 2 (width - 1)

end Glasshouse.Text
