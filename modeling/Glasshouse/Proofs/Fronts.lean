import Glasshouse.Wire.Message

/-!
# Reading off the front

A reader takes bytes off the front of its input and does not look at what follows them. `Takes` says
that certain bytes are read as a value whatever comes after, and `IsLocal` that everything a reader
reads it takes in this way. The facts are for numbers, keys and scalar values, and for the values of
unknown fields, which are passed over; what a group holds is passed over field by field
(`Skipper.PassesFields`).
-/

namespace Glasshouse.Wire

/-- A reader takes these bytes for this value, whatever follows them. -/
def Takes {ε α : Type} (read : Bytes → Except ε (α × Bytes)) (used : Bytes) (value : α) : Prop :=
  ∀ tail, read (used ++ tail) = .ok (value, tail)

/-- A reader takes whatever it reads off the front. -/
def IsLocal {ε α : Type} (read : Bytes → Except ε (α × Bytes)) : Prop :=
  ∀ ⦃input value rest⦄, read input = .ok (value, rest) →
    ∃ used, input = used ++ rest ∧ Takes read used value

/-- What a local reader reads to the end of its input it takes, whatever follows. -/
theorem IsLocal.takes {ε α : Type} {read : Bytes → Except ε (α × Bytes)} (h : IsLocal read)
    {bytes : Bytes} {value : α} (hread : read bytes = .ok (value, [])) :
    Takes read bytes value := by
  obtain ⟨used, hused, htakes⟩ := h hread
  rw [List.append_nil] at hused
  rwa [hused]

/-- A way of passing over a value passes over these bytes, whatever follows them. -/
def Passes (skip : Bytes → Except Fault Bytes) (used : Bytes) : Prop :=
  ∀ tail, skip (used ++ tail) = .ok tail

/-- A way of passing over values takes whatever it passes over off the front. -/
def PassesLocally (skip : Bytes → Except Fault Bytes) : Prop :=
  ∀ ⦃input rest⦄, skip input = .ok rest → ∃ used, input = used ++ rest ∧ Passes skip used

/-- What is passed over locally to the end of the input is passed over, whatever follows. -/
theorem PassesLocally.passes {skip : Bytes → Except Fault Bytes} (h : PassesLocally skip)
    {bytes : Bytes} (hskip : skip bytes = .ok []) : Passes skip bytes := by
  obtain ⟨used, hused, hpasses⟩ := h hskip
  rw [List.append_nil] at hused
  rwa [hused]

/-! ## Numbers and keys -/

/-- The bytes of a number determine it. -/
theorem readVarintWithin_front {budget n : Nat} {input rest : Bytes}
    (h : readVarintWithin budget input = some (n, rest)) :
    ∃ used, input = used ++ rest ∧
      ∀ tail, readVarintWithin budget (used ++ tail) = some (n, tail) := by
  fun_induction readVarintWithin budget input generalizing n rest with
  | case1 => cases h
  | case2 => cases h
  | case3 => cases h
  | case4 budget byte input small hbit =>
      cases h
      exact ⟨[byte], rfl, fun tail => by simp [readVarintWithin, small, hbit]⟩
  | case5 budget byte input big ih =>
      obtain ⟨⟨high, rest'⟩, hread, hpair⟩ := Option.map_eq_some_iff.mp h
      cases hpair
      obtain ⟨used, rfl, hused⟩ := ih hread
      exact ⟨byte :: used, rfl, fun tail => by simp [readVarintWithin, big, hused tail]⟩

/-- Numbers are read off the front. -/
theorem isLocal_readVarint : IsLocal readVarint := by
  intro input n rest h
  unfold readVarint at h
  split at h
  · next result hread =>
      cases h
      obtain ⟨used, rfl, hused⟩ := readVarintWithin_front hread
      exact ⟨used, rfl, fun tail => by simp [readVarint, hused tail]⟩
  · cases h

/-- Keys are read off the front. -/
theorem isLocal_readKey : IsLocal readKey := by
  intro input key rest h
  obtain ⟨hread, hfits, hpos⟩ := readKey_eq_ok_iff.mp h
  obtain ⟨used, rfl, hused⟩ := isLocal_readVarint hread
  exact ⟨used, rfl, fun tail => readKey_eq_ok_iff.mpr ⟨hused tail, hfits, hpos⟩⟩

/-- A key has at least one byte. -/
theorem Takes.length_pos {key : Key} {head : Bytes} (h : Takes readKey head key) :
    0 < head.length := by
  have := readKey_shortens (h [])
  simpa using this

/-! ## Scalar values -/

namespace Scalar

/-- Values that numbers stand for are read off the front. -/
@[simp] theorem isLocal_ofNumber {α : Type} [DecidableEq α] {ofNat : Nat → α} {toNat : α → Nat}
    {default : α} : IsLocal (ofNumber ofNat toNat default).read := by
  intro input value rest h
  simp only [ofNumber, readNumber] at h
  split at h
  · cases h
  · next n body hread =>
      cases h
      obtain ⟨used, rfl, hused⟩ := isLocal_readVarint hread
      exact ⟨used, rfl, fun tail => by simp [ofNumber, readNumber, hused tail]⟩

/-- Floats are read off the front. -/
@[simp] theorem isLocal_float : IsLocal float.read := by
  intro input value rest h
  simp only [float, readFloat, readFour] at h
  split at h
  · cases h
  · next n body hread =>
      split at hread
      · next b₀ b₁ b₂ b₃ body =>
          cases hread
          cases h
          exact ⟨[b₀, b₁, b₂, b₃], rfl, fun tail => rfl⟩
      · cases hread

/-- A length and the bytes it counts are read off the front. -/
@[simp] theorem isLocal_bytes : IsLocal bytes.read := by
  intro input content rest h
  simp only [bytes, readBytes] at h
  split at h
  · cases h
  · next count body hread =>
      obtain ⟨used, rfl, hused⟩ := isLocal_readVarint hread
      split at h
      · next hcount =>
          cases h
          refine ⟨used ++ body.take count, by simp, fun tail => ?_⟩
          have hlength : (body.take count).length = count := List.length_take_of_le hcount
          simp only [bytes, readBytes]
          rw [List.append_assoc, hused]
          simp [hlength]
      · cases h

/-- Byte strings are a length and so many bytes. -/
theorem takes_readBytes_iff {used content : Bytes} :
    Takes readBytes used content ↔
      ∃ size, used = size ++ content ∧ Takes readVarint size content.length := by
  constructor
  · intro h
    have hread := h []
    rw [List.append_nil] at hread
    unfold readBytes at hread
    split at hread
    · cases hread
    · next count body hcount =>
        obtain ⟨size, rfl, hsize⟩ := isLocal_readVarint hcount
        split at hread
        · next hfits =>
            simp only [Except.ok.injEq, Prod.mk.injEq, List.drop_eq_nil_iff] at hread
            obtain ⟨rfl, hcovers⟩ := hread
            obtain rfl := Nat.le_antisymm hfits hcovers
            rw [List.take_length]
            exact ⟨size, rfl, hsize⟩
        · cases hread
  · rintro ⟨size, rfl, hsize⟩ tail
    rw [List.append_assoc, readBytes, hsize]
    simp

/-- Texts are read off the front. -/
@[simp] theorem isLocal_text : IsLocal text.read := by
  intro input value rest h
  simp only [text, readText] at h
  split at h
  · cases h
  · next content body hread =>
      obtain ⟨used, rfl, hused⟩ := isLocal_bytes hread
      have hcontent : ∀ tail, readBytes (used ++ tail) = .ok (content, tail) := hused
      split at h
      · next decoded htext =>
          cases h
          exact ⟨used, rfl, fun tail => by simp [text, readText, hcontent tail, htext]⟩
      · cases h

end Scalar

/-! ## Unknown values -/

/-- Counted bytes are passed over at the front. -/
theorem passesLocally_dropBytes (count : Nat) : PassesLocally (dropBytes count) := by
  intro input rest h
  unfold dropBytes at h
  split at h
  · next hcount =>
      cases h
      refine ⟨input.take count, by simp, fun tail => ?_⟩
      have hlength : (input.take count).length = count := List.length_take_of_le hcount
      simp [dropBytes, hlength]
  · cases h

namespace Skipper

/-- Flat values are passed over at the front. -/
theorem passesLocally_flat (wire : WireType) : PassesLocally (flat wire) := by
  intro input rest h
  cases wire with
  | thirtyTwoBit => exact passesLocally_dropBytes 4 h
  | sixtyFourBit => exact passesLocally_dropBytes 8 h
  | startGroup => cases h
  | endGroup => cases h
  | varint =>
      simp only [flat] at h
      cases hread : readVarint input with
      | error fault =>
          rw [hread] at h
          cases h
      | ok result =>
          obtain ⟨n, body⟩ := result
          rw [hread] at h
          cases h
          obtain ⟨used, rfl, hused⟩ := isLocal_readVarint hread
          exact ⟨used, rfl, fun tail => by simp [flat, hused tail, Except.map]⟩
  | lengthDelimited =>
      simp only [flat] at h
      split at h
      · cases h
      · next count body hread =>
          obtain ⟨used, rfl, hused⟩ := isLocal_readVarint hread
          obtain ⟨content, rfl, hcontent⟩ := passesLocally_dropBytes count h
          refine ⟨used ++ content, by simp, fun tail => ?_⟩
          rw [List.append_assoc, flat, hused]
          exact hcontent tail

/-- What a group does with its next key. -/
theorem closeGroup_eq (inner : Skipper) (number : Nat) (input : Bytes) :
    inner.closeGroup number input =
      match readKey input with
      | .error fault => .error fault
      | .ok (key, body) =>
          if key.wire = .endGroup then
            if key.number = number then .ok body else .error .strayEndGroup
          else match inner.skip key body with
            | .error fault => .error fault
            | .ok rest => inner.closeGroup number rest := by
  rw [closeGroup]
  split <;> simp only [*]
  split
  · rfl
  · split <;> simp only [*]

/-- Bytes that are fields with these numbers, in order, none of which closes a group, and whose
values are passed over. -/
inductive PassesFields (skipper : Skipper) : (numbers : List Nat) → Bytes → Prop where
  | nil : PassesFields skipper [] []
  | cons {key : Key} {numbers : List Nat} {head value rest : Bytes} (hhead : Takes readKey head key)
      (hopen : key.wire ≠ .endGroup) (hvalue : Passes (skipper.skip key) value)
      (hrest : PassesFields skipper numbers rest) :
      PassesFields skipper (key.number :: numbers) (head ++ value ++ rest)

/-- A group is passed over if its fields are, and then the key that closes it. -/
theorem PassesFields.closeGroup {inner : Skipper} {number : Nat} {numbers : List Nat}
    {content closing : Bytes} (h : inner.PassesFields numbers content)
    (hclosing : Takes readKey closing ⟨number, .endGroup⟩) :
    Passes (inner.closeGroup number) (content ++ closing) := by
  intro tail
  induction h with
  | nil =>
      rw [List.nil_append, closeGroup_eq, hclosing tail]
      simp
  | @cons key numbers head value rest hhead hopen hvalue _ ih =>
      have hread : readKey (head ++ value ++ rest ++ closing ++ tail) =
          .ok (key, value ++ (rest ++ closing ++ tail)) := by
        simpa using hhead (value ++ (rest ++ closing ++ tail))
      rw [closeGroup_eq, hread]
      simp only [if_neg hopen, hvalue _]
      exact ih

/-- What is passed over of a group is its fields and the key that closes it. -/
theorem closeGroup_sound {inner : Skipper} (hinner : ∀ key, PassesLocally (inner.skip key))
    {number : Nat} {input rest : Bytes} (h : inner.closeGroup number input = .ok rest) :
    ∃ numbers content closing, input = content ++ closing ++ rest ∧
      inner.PassesFields numbers content ∧ Takes readKey closing ⟨number, .endGroup⟩ := by
  fun_induction closeGroup inner number input with
  | case1 => cases h
  | case2 input key body hkey hend hnumber =>
      cases h
      obtain ⟨closing, rfl, hclosing⟩ := isLocal_readKey hkey
      obtain ⟨number', wire⟩ := key
      obtain rfl : number' = number := hnumber
      obtain rfl : wire = .endGroup := hend
      exact ⟨[], [], closing, rfl, .nil, hclosing⟩
  | case3 => cases h
  | case4 => cases h
  | case5 input key body hkey hend middle hskip ih =>
      obtain ⟨head, rfl, hhead⟩ := isLocal_readKey hkey
      obtain ⟨value, rfl, hvalue⟩ := hinner key hskip
      obtain ⟨numbers, content, closing, rfl, hcontent, hclosing⟩ := ih h
      exact ⟨key.number :: numbers, head ++ value ++ content, closing, by simp,
        .cons hhead hend hvalue hcontent, hclosing⟩

/-- An open group is passed over at the front if its fields are. -/
theorem passesLocally_closeGroup {inner : Skipper}
    (hinner : ∀ key, PassesLocally (inner.skip key)) (number : Nat) :
    PassesLocally (inner.closeGroup number) := by
  intro input rest h
  obtain ⟨numbers, content, closing, rfl, hcontent, hclosing⟩ := closeGroup_sound hinner h
  exact ⟨content ++ closing, rfl, hcontent.closeGroup hclosing⟩

/-- Unknown values are passed over at the front. -/
theorem passesLocally_skip (depth : Nat) (key : Key) :
    PassesLocally ((ofDepth depth).skip key) := by
  induction depth generalizing key with
  | zero =>
      intro input rest h
      cases h
  | succ depth ih =>
      unfold ofDepth
      by_cases hgroup : key.wire = .startGroup
      · simpa [hgroup] using passesLocally_closeGroup ih key.number
      · simpa [hgroup] using passesLocally_flat key.wire

/-! ## Another level of nesting -/

/-- Another level for the fields of a group changes nothing, unless the levels run out. -/
theorem closeGroup_deepens {inner deeper : Skipper}
    (h : ∀ key input, inner.skip key input = .error .tooDeep ∨
      inner.skip key input = deeper.skip key input) (number : Nat) (input : Bytes) :
    inner.closeGroup number input = .error .tooDeep ∨
      inner.closeGroup number input = deeper.closeGroup number input := by
  fun_induction closeGroup inner number input with
  | case1 input fault hkey =>
      right
      rw [closeGroup_eq, hkey]
  | case2 input key body hkey hend hnumber =>
      right
      rw [closeGroup_eq, hkey]
      simp only [hend, hnumber, if_true]
  | case3 input key body hkey hend hnumber =>
      right
      rw [closeGroup_eq, hkey]
      simp only [hend, hnumber, if_true, if_false]
  | case4 input key body hkey hend fault hskip =>
      rcases h key body with hdeep | hsame
      · left
        exact hskip.symm.trans hdeep
      · right
        rw [closeGroup_eq, hkey]
        simp only [hend, if_false, ← hsame, hskip]
  | case5 input key body hkey hend middle hskip ih =>
      rcases h key body with hdeep | hsame
      · rw [hskip] at hdeep
        cases hdeep
      · rw [closeGroup_eq deeper, hkey]
        simp only [hend, if_false, ← hsame, hskip]
        exact ih

/-- Another level for an unknown value changes nothing, unless the levels run out. -/
theorem skip_deepens (depth : Nat) (key : Key) (input : Bytes) :
    (ofDepth depth).skip key input = .error .tooDeep ∨
      (ofDepth depth).skip key input = (ofDepth (depth + 1)).skip key input := by
  induction depth generalizing key input with
  | zero => exact Or.inl rfl
  | succ depth ih =>
      by_cases hgroup : key.wire = .startGroup
      · simpa [ofDepth, hgroup] using closeGroup_deepens ih key.number input
      · simp [ofDepth, hgroup]

end Skipper

end Glasshouse.Wire
