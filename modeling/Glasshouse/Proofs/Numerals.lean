import Std.Data.String.ToInt
import Glasshouse.Text.Decimal
import Glasshouse.Text.LowerCase

/-!
# Numbers in text

A number written in decimal consists of digits, so bringing it to lower case changes nothing and
reading it gives the number back. Main statement: `unsigned?_toString`.
-/

namespace Glasshouse.Text

/-- A number in text consists of digits. -/
theorem isDigit_of_mem_toString {n : Nat} {c : Char} (h : c ∈ (toString n).toList) :
    c.isDigit = true := by
  rw [show toString n = n.repr from rfl, Nat.toList_repr] at h
  exact Nat.isDigit_of_mem_toDigits (by decide) (by decide) h

/-- A digit has its distance from zero as its value. -/
theorem digit?_of_isDigit {c : Char} (h : c.isDigit = true) :
    digit? c = some (c.toNat - '0'.toNat) := by
  have hrange : '0' ≤ c ∧ c ≤ '9' := by
    simpa [Char.isDigit, Char.le_def] using h
  rw [digit?, if_pos hrange]

/-- Digits are read from left to right. -/
theorem digitsAfter?_of_isDigit (acc : Nat) {digits : List Char}
    (h : ∀ c ∈ digits, c.isDigit = true) :
    digitsAfter? acc digits = some (Nat.ofDigitChars 10 digits acc) := by
  induction digits generalizing acc with
  | nil => rfl
  | cons c digits ih =>
      obtain ⟨hc, hdigits⟩ := List.forall_mem_cons.mp h
      rw [digitsAfter?, digit?_of_isDigit hc]
      exact ih _ hdigits

/-- Digits without a sign in front are read as the number that they stand for. -/
theorem natural?_of_isDigit {digits : List Char} (hne : digits ≠ [])
    (h : ∀ c ∈ digits, c.isDigit = true) :
    natural? digits = some (Nat.ofDigitChars 10 digits 0) := by
  cases digits with
  | nil => exact absurd rfl hne
  | cons c digits =>
      have hplus : c ≠ '+' := by
        rintro rfl
        exact absurd (h '+' List.mem_cons_self) (by decide)
      rw [natural?, digits?, digitsAfter?_of_isDigit 0 h]
      · exact nofun
      · intro others hcons
        exact hplus (List.cons.inj hcons).1

/-- A number that fits a width is read back. -/
theorem unsigned?_toString {width n : Nat} (h : n < Nat.pow 2 width) :
    unsigned? width (toString n) = some n := by
  have hdigits : (toString n).toList = Nat.toDigits 10 n := Nat.toList_repr
  have hread : natural? (toString n).toList = some n := by
    rw [natural?_of_isDigit (hdigits ▸ Nat.toDigits_ne_nil) fun c hc => isDigit_of_mem_toString hc,
      hdigits, Nat.ofDigitChars_ten_toDigits]
  rw [unsigned?, hread, Option.filter_some, if_pos (decide_eq_true h)]

/-- A digit is its own lower-case form. -/
theorem lowerChar_of_isDigit {c : Char} (h : c.isDigit = true) : lowerChar c = [c] := by
  have hrange : 48 ≤ c.toNat ∧ c.toNat ≤ 57 := by
    simpa [Char.isDigit, UInt32.le_iff_toNat_le] using h
  have hascii : c.toNat < 0x80 := by omega
  have hupper : ¬ (c.val ≥ 'A'.val ∧ c.val ≤ 'Z'.val) := by
    simp [UInt32.le_iff_toNat_le]
    omega
  have hlower : c.toLower = c := dif_neg hupper
  rw [lowerChar, if_pos hascii, hlower]

/-- Digits are in lower case already. -/
theorem lowerFrom_of_isDigit (before : List Char) {digits : List Char}
    (h : ∀ c ∈ digits, c.isDigit = true) : lowerFrom before digits = digits := by
  induction digits generalizing before with
  | nil => rfl
  | cons c digits ih =>
      obtain ⟨hc, hdigits⟩ := List.forall_mem_cons.mp h
      have hsigma : c ≠ capitalSigma := by
        rintro rfl
        exact absurd hc (by decide)
      rw [lowerFrom, if_neg hsigma, lowerChar_of_isDigit hc, ih _ hdigits]
      rfl

/-- A number in text is in lower case already. -/
theorem lowerCase_toString (n : Nat) : lowerCase (toString n) = toString n := by
  rw [lowerCase, lowerFrom_of_isDigit [] fun c h => isDigit_of_mem_toString h, String.ofList_toList]

end Glasshouse.Text
