import Mathlib.Data.Nat.Log
import Glasshouse.Proofs.Fronts

/-!
# Written values

What is written of a number, a key or a scalar value is read back, whatever follows it, and is as
long as its size says. A default value is not written inside a message; `Scalar.ReadsBack` names the
value that a reader assumes instead.
-/

namespace Glasshouse.Wire

open Number

/-! ## Numbers and keys -/

/-- A number that is written is read. -/
theorem takes_writeVarint {n : Nat} (h : n < Nat.pow 2 64) : Takes readVarint (writeVarint n) n :=
  readVarint_writeVarint h

/-- A key that is written is read. -/
theorem takes_writeKey {key : Key} (hpos : 0 < key.number) (hmax : key.number ≤ maxFieldNumber) :
    Takes readKey (writeKey key) key :=
  readKey_writeKey hpos hmax

/-- A number takes as many bytes as its size says. -/
theorem length_writeVarint (n : Nat) : (writeVarint n).length = varintSize n := by
  fun_induction writeVarint n with
  | case1 n small =>
      have hlog : n.log2 < 7 := by
        by_cases hzero : n = 0
        · simp [hzero]
        · exact (Nat.log2_lt hzero).mpr small
      rw [varintSize, Nat.div_eq_of_lt hlog]
      rfl
  | case2 n big ih =>
      have hlog : (n / 128).log2 = n.log2 - 7 := by
        rw [Nat.log2_eq_log_two, Nat.log2_eq_log_two]
        exact Nat.log_div_base_pow 2 n 7
      have hseven : 7 ≤ n.log2 := (Nat.le_log2 (by omega)).mpr (by omega)
      rw [List.length_cons, ih, varintSize, varintSize, hlog]
      omega

/-- The wire type does not make a key longer. -/
theorem length_writeKey {number : Nat} {wire : WireType} (hpos : 0 < number) :
    (writeKey ⟨number, wire⟩).length = keySize number := by
  have hcode := wire.code_lt
  have hthree (m : Nat) (hm : 8 ≤ m) : m.log2 = (m / 8).log2 + 3 := by
    have hlog : (m / 8).log2 = m.log2 - 3 := by
      rw [Nat.log2_eq_log_two, Nat.log2_eq_log_two]
      exact Nat.log_div_base_pow 2 m 3
    have : 3 ≤ m.log2 := (Nat.le_log2 (by omega)).mpr (by omega)
    omega
  have hdiv : (8 * number + wire.code) / 8 = 8 * number / 8 := by omega
  have hlog : (8 * number + wire.code).log2 = (8 * number).log2 := by
    rw [hthree _ (by omega), hthree (8 * number) (by omega), hdiv]
  rw [writeKey, length_writeVarint, keySize, varintSize, varintSize, hlog]

/-! ## Scalar values -/

namespace Scalar

/-- Values of a scalar kind take as many bytes as their size says. -/
def Sized {α : Type} (kind : Scalar α) : Prop :=
  ∀ value, kind.size value = (kind.write value).length

/-- Values of a scalar kind are read as they were written, as far as their length can be counted,
and a reader that finds nothing assumes `normal` of the value that was left out. -/
structure ReadsBack {α : Type} (kind : Scalar α) (normal : α → α) : Prop where
  takes : ∀ value, (kind.write value).length < Nat.pow 2 63 →
    Takes kind.read (kind.write value) value
  normal_eq : ∀ value, normal value = if kind.isDefault value then kind.default else value

/-! ### Numbers -/

/-- Values that numbers stand for have the right size. -/
@[simp] theorem sized_ofNumber {α : Type} [DecidableEq α] {ofNat : Nat → α} {toNat : α → Nat}
    {default : α} : (ofNumber ofNat toNat default).Sized :=
  fun _ => (length_writeVarint _).symm

/-- Values that 64-bit numbers stand for are read back. -/
theorem readsBack_ofNumber {α : Type} [DecidableEq α] {ofNat : Nat → α} {toNat : α → Nat}
    {default : α} (hlt : ∀ value, toNat value < Nat.pow 2 64)
    (hinverse : ∀ value, ofNat (toNat value) = value) :
    (ofNumber ofNat toNat default).ReadsBack id where
  takes value _ tail := by
    simp only [ofNumber, readNumber, takes_writeVarint (hlt value) tail, hinverse]
  normal_eq value := by
    simp only [ofNumber, decide_eq_true_eq, id_eq]
    split <;> simp_all

/-- Unsigned numbers of 32 bits are read back. -/
theorem readsBack_uint32 : uint32.ReadsBack id :=
  readsBack_ofNumber
    (fun value => value.toNat_lt.trans (by decide)) (fun _ => UInt32.ofNat_toNat)

/-- Unsigned numbers of 64 bits are read back. -/
theorem readsBack_uint64 : uint64.ReadsBack id :=
  readsBack_ofNumber (fun value => value.toNat_lt) (fun _ => UInt64.ofNat_toNat)

/-- Signed numbers are read back. -/
theorem readsBack_int32 : int32.ReadsBack id := by
  refine readsBack_ofNumber (fun value => ?_) (fun value => ?_)
  · unfold signedToNat
    have hpos : (0 : Int) < Int.pow 2 64 := by decide
    have hmod := Int.emod_lt_of_pos value.toInt hpos
    have : (value.toInt % Int.pow 2 64).toNat < (Int.pow 2 64).toNat := by omega
    exact this
  · have hcast : ((signedToNat value : Nat) : Int) = value.toInt % Int.pow 2 64 :=
      Int.toNat_of_nonneg (Int.emod_nonneg _ (by decide))
    rw [← Int32.ofInt_eq_ofNat, hcast, Int32.ofInt_eq_iff_bmod_eq_toInt]
    have hlow := value.le_toInt
    have hhigh := value.toInt_lt
    have hpow : Int.pow 2 64 = 18446744073709551616 := rfl
    rw [hpow, Int.bmod_def]
    omega

/-! ### Floats -/

/-- Floats have the right size. -/
@[simp] theorem sized_float : float.Sized := fun _ => rfl

/-- Floats are read back, and a reader assumes the positive zero. -/
theorem readsBack_float : float.ReadsBack Binary32.positiveZero where
  takes value _ tail := by
    have hlt : value.bits.toNat < 4294967296 := value.bits.toNat_lt
    have hbytes : value.bits.toNat % 256 + 256 * (value.bits.toNat / 256 % 256 +
        256 * (value.bits.toNat / 65536 % 256 + 256 * (value.bits.toNat / 16777216 % 256))) =
          value.bits.toNat := by
      omega
    simp [float, readFloat, readFour, writeFour, hbytes]
  normal_eq _ := rfl

/-! ### Bytes and texts -/

/-- Bytes behind their length are read back. -/
theorem takes_writeBytes {content : Bytes} (h : (writeBytes content).length < Nat.pow 2 63) :
    Takes readBytes (writeBytes content) content := by
  have hpow : Nat.pow 2 63 < Nat.pow 2 64 := by decide
  rw [writeBytes, List.length_append] at h
  exact takes_readBytes_iff.mpr ⟨_, rfl, takes_writeVarint (by omega)⟩

/-- Bytes with their length take as many bytes as their size says. -/
theorem length_writeBytes (content : Bytes) :
    (writeBytes content).length = delimitedSize content.length := by
  rw [writeBytes, List.length_append, length_writeVarint, delimitedSize]

/-- Byte strings have the right size. -/
@[simp] theorem sized_bytes : bytes.Sized :=
  fun content => (length_writeBytes content).symm

/-- Byte strings are read back. -/
theorem readsBack_bytes : bytes.ReadsBack id where
  takes _ h := takes_writeBytes h
  normal_eq value := by
    simp only [bytes, decide_eq_true_eq, id_eq]
    split <;> simp_all

/-- The bytes of an array, listed from a place on. -/
theorem toList_loop (content : ByteArray) (place : Nat) (listed : Bytes) :
    ByteArray.toList.loop content place listed =
      listed.reverse ++ content.data.toList.drop place := by
  fun_induction ByteArray.toList.loop content place listed with
  | case1 place listed hplace ih =>
      have hlength : place < content.data.toList.length := hplace
      have hget : content.get! place = content.data.toList[place] := by
        show content.data[place]! = _
        exact getElem!_pos content.data place hplace
      rw [ih, List.reverse_cons, List.append_assoc, hget, List.singleton_append,
        List.getElem_cons_drop]
  | case2 place listed hplace =>
      have hall : content.data.toList.length ≤ place := Nat.not_lt.mp hplace
      rw [List.drop_eq_nil_of_le hall, List.append_nil]

/-- The UTF-8 bytes of a text are as many as its size says. -/
theorem length_toUTF8 (value : String) : value.toUTF8.toList.length = value.utf8ByteSize := by
  rw [ByteArray.toList, toList_loop]
  rfl

/-- The UTF-8 bytes of a text are a text. -/
theorem fromUTF8?_toUTF8 (value : String) :
    String.fromUTF8? ⟨value.toUTF8.toList.toArray⟩ = some value := by
  have hdata : (⟨value.toUTF8.toList.toArray⟩ : ByteArray) = value.toByteArray := by
    rw [ByteArray.toList, toList_loop]
    rfl
  rw [hdata]
  exact dif_pos value.isValidUTF8

/-- Texts have the right size. -/
@[simp] theorem sized_text : text.Sized := by
  intro value
  simp only [text, length_writeBytes, length_toUTF8]

/-- Texts are read back. -/
theorem readsBack_text : text.ReadsBack id where
  takes value h tail := by
    simp only [text, readText, takes_writeBytes h tail, fromUTF8?_toUTF8]
  normal_eq value := by
    simp only [text, decide_eq_true_eq, id_eq]
    split <;> simp_all

end Scalar

end Glasshouse.Wire
