import Glasshouse.Wire.Fault

/-!
# Variable-length numbers

A number is written in groups of seven bits, lowest group first, and every byte but the last has
its high bit set. A reader takes at most ten bytes, and the tenth may only hold the 64th bit. Main
statement: `readVarint_writeVarint`, a written 64-bit number is read back, whatever follows it.
-/

namespace Glasshouse.Wire

/-- Reads a number of at most `budget` bytes; the last byte of a full budget holds one bit. -/
def readVarintWithin : (budget : Nat) → Bytes → Option (Nat × Bytes)
  | 0, _ => none
  | _ + 1, [] => none
  | budget + 1, byte :: rest =>
      if byte.toNat < 128 then
        if budget = 0 ∧ 2 ≤ byte.toNat then none else some (byte.toNat, rest)
      else
        (readVarintWithin budget rest).map fun (high, rest) => (byte.toNat - 128 + 128 * high, rest)

/-- Reads a number of up to 64 bits off the front of the input. -/
def readVarint (input : Bytes) : Reading Nat :=
  match readVarintWithin 10 input with
  | some result => .ok result
  | none => .error .invalidVarint

/-- Writes a number in as few bytes as it needs. -/
def writeVarint (n : Nat) : Bytes :=
  if n < 128 then [n.toUInt8] else (n % 128 + 128).toUInt8 :: writeVarint (n / 128)
termination_by n
decreasing_by omega

/-- The number of bytes that a number needs: one, and one more for each further seven bits. -/
def varintSize (n : Nat) : Nat :=
  n.log2 / 7 + 1

/-- Reading takes at least one byte. -/
theorem readVarintWithin_shortens {budget : Nat} {input rest : Bytes} {n : Nat}
    (h : readVarintWithin budget input = some (n, rest)) : rest.length < input.length := by
  fun_induction readVarintWithin budget input generalizing n rest with
  | case1 => simp at h
  | case2 => simp at h
  | case3 => simp at h
  | case4 => simp_all
  | case5 budget byte tail _ ih =>
    obtain ⟨⟨high, rest'⟩, hread, hpair⟩ := Option.map_eq_some_iff.1 h
    have := ih hread
    simp only [Prod.mk.injEq] at hpair
    simp only [List.length_cons, ← hpair.2]
    omega

/-- Reading a number takes at least one byte. -/
theorem readVarint_shortens {input rest : Bytes} {n : Nat}
    (h : readVarint input = .ok (n, rest)) : rest.length < input.length := by
  unfold readVarint at h
  split at h
  · next result hread =>
    simp only [Except.ok.injEq] at h
    exact readVarintWithin_shortens (h ▸ hread)
  · simp at h

/-- A byte below 256 is kept by the conversion from a number. -/
theorem toNat_toUInt8 {n : Nat} (h : n < 256) : n.toUInt8.toNat = n := by
  simp [Nat.mod_eq_of_lt h]

/-- A number that fits seven bits for each byte but the tenth, and one bit for that, is read. -/
theorem readVarintWithin_writeVarint {budget n : Nat} (h : n < Nat.pow 2 (7 * budget + 1))
    (rest : Bytes) : readVarintWithin (budget + 1) (writeVarint n ++ rest) = some (n, rest) := by
  induction budget generalizing n with
  | zero =>
    have : n < 2 := by simpa using h
    rw [writeVarint, if_pos (by omega)]
    simp only [List.cons_append, List.nil_append, readVarintWithin,
      toNat_toUInt8 (by omega : n < 256)]
    rw [if_pos (by omega), if_neg (by omega)]
  | succ budget ih =>
    rw [writeVarint]
    split
    · next small =>
      simp [readVarintWithin, toNat_toUInt8 (by omega : n < 256), small]
    · next big =>
      have hdiv : n / 128 < Nat.pow 2 (7 * budget + 1) := by
        rw [Nat.div_lt_iff_lt_mul (by decide)]
        calc n < 2 ^ (7 * (budget + 1) + 1) := h
          _ = 2 ^ (7 * budget + 1) * 128 := by
            rw [show 7 * (budget + 1) + 1 = (7 * budget + 1) + 7 by omega, Nat.pow_add]
      have hbyte := toNat_toUInt8 (by omega : n % 128 + 128 < 256)
      simp only [List.cons_append, readVarintWithin, hbyte, ih hdiv]
      rw [if_neg (by omega)]
      simp only [Option.map_some, Option.some.injEq, Prod.mk.injEq, and_true]
      omega

/-- A written 64-bit number is read back, and what follows it is left alone. -/
theorem readVarint_writeVarint {n : Nat} (h : n < Nat.pow 2 64) (rest : Bytes) :
    readVarint (writeVarint n ++ rest) = .ok (n, rest) := by
  simp [readVarint, @readVarintWithin_writeVarint 9 n h rest]

end Glasshouse.Wire
