import Glasshouse.Proofs.Fronts

/-!
# Folding fields into a message

`Folds` says without a reader's bounds which bytes are complete fields and what they make of a
message. A decoder reads the fields of a stretch of its input exactly if the stretch folds, so that
a nested message can be cut out of the input around it, and stretches can be put one after the
other. Main statements: `Folds.mergeFields_append` and `folds_of_mergeFields`.

Decoding goes down a bounded number of levels. `mergeFields_deepens` says that a further level
makes no difference, unless the levels run out.
-/

namespace Glasshouse.Wire

/-- Changing the error leaves the results. -/
theorem mapError_eq_ok_iff {α ε ε' : Type} {result : Except ε α} {f : ε → ε'} {value : α} :
    result.mapError f = .ok value ↔ result = .ok value := by
  constructor <;> intro h <;> cases result <;> cases h <;> rfl

/-- Decoding failed because too many levels are nested. -/
def RunsOut {α : Type} (result : Except DecodeError α) : Prop :=
  ∃ trail, result = .error ⟨.tooDeep, trail⟩

/-- What decoding relies on in a field: it reads its value off the front, and another level changes
nothing unless the levels run out. -/
structure Field.Regular {μ : Type} (field : Field μ) : Prop where
  isLocal : ∀ depth wire message, IsLocal (field.merge depth wire message)
  deepens : ∀ depth wire message input, RunsOut (field.merge depth wire message input) ∨
    field.merge depth wire message input = field.merge (depth + 1) wire message input

namespace Message

/-- All fields of a type of messages are regular. -/
class Regular (μ : Type) [Message μ] : Prop where
  regular : ∀ field ∈ fields (μ := μ), field.Regular

/-- Bytes that are complete fields and turn one message into another. -/
inductive Folds {μ : Type} [Message μ] (depth : Nat) : μ → Bytes → μ → Prop where
  | nil {message : μ} : Folds depth message [] message
  | cons {message middle merged : μ} {key : Key} {head value rest : Bytes}
      (hhead : Takes readKey head key) (hvalue : Takes (mergeField depth key message) value middle)
      (hrest : Folds depth middle rest merged) : Folds depth message (head ++ value ++ rest) merged

variable {μ : Type} [Message μ] {depth left : Nat} {message middle merged : μ}
  {bytes more input rest : Bytes}

/-! ## One field -/

/-- Occurrences of a regular message's fields are read off the front. -/
theorem isLocal_mergeField [Regular μ] (depth : Nat) (key : Key) (message : μ) :
    IsLocal (mergeField depth key message) := by
  intro input merged rest h
  unfold mergeField at h
  split at h
  · next field hfield =>
      cases hmerge : field.merge depth key.wire message input with
      | error error =>
          rw [hmerge] at h
          cases h
      | ok result =>
          rw [hmerge] at h
          cases h
          have hregular := Regular.regular field (List.mem_of_find?_eq_some hfield)
          obtain ⟨used, rfl, hused⟩ := hregular.isLocal _ _ _ hmerge
          refine ⟨used, rfl, fun tail => ?_⟩
          rw [mergeField, hfield]
          exact mapError_eq_ok_iff.mpr (hused tail)
  · next hunknown =>
      split at h
      · cases h
      · next body hskip =>
          cases h
          obtain ⟨used, rfl, hused⟩ := Skipper.passesLocally_skip depth key hskip
          refine ⟨used, rfl, fun tail => ?_⟩
          rw [mergeField, hunknown]
          simp only [hused tail]

/-- Another level for an occurrence changes nothing, unless the levels run out. -/
theorem mergeField_deepens [Regular μ] (depth : Nat) (key : Key) (message : μ) (input : Bytes) :
    RunsOut (mergeField depth key message input) ∨
      mergeField depth key message input = mergeField (depth + 1) key message input := by
  unfold mergeField
  split
  · next field hfield =>
      have hregular := Regular.regular field (List.mem_of_find?_eq_some hfield)
      rcases hregular.deepens depth key.wire message input with ⟨trail, hdeep⟩ | hsame
      · left
        rw [hdeep]
        exact ⟨_, rfl⟩
      · right
        rw [hsame]
  · rcases Skipper.skip_deepens depth key input with hdeep | hsame
    · left
      rw [hdeep]
      exact ⟨_, rfl⟩
    · right
      rw [hsame]

/-- Bytes of a known field are read by the field. -/
theorem takes_mergeField_known_iff {key : Key} {field : Field μ}
    (hfield : (fields (μ := μ)).find? (·.number = key.number) = some field) :
    Takes (mergeField depth key message) bytes merged ↔
      Takes (field.merge depth key.wire message) bytes merged := by
  refine forall_congr' fun tail => ?_
  simp only [mergeField, hfield]
  exact mapError_eq_ok_iff

/-- A known field that runs out of levels makes the message run out. -/
theorem runsOut_mergeField {key : Key} {field : Field μ}
    (hfield : (fields (μ := μ)).find? (·.number = key.number) = some field)
    (h : RunsOut (field.merge depth key.wire message input)) :
    RunsOut (mergeField depth key message input) := by
  obtain ⟨trail, hdeep⟩ := h
  simp only [mergeField, hfield, hdeep]
  exact ⟨_, rfl⟩

/-- Bytes of an unknown field are passed over and change nothing. -/
theorem takes_mergeField_unknown_iff {key : Key}
    (hunknown : (fields (μ := μ)).find? (·.number = key.number) = none) :
    Takes (mergeField depth key message) bytes merged ↔
      Passes ((Skipper.ofDepth depth).skip key) bytes ∧ merged = message := by
  constructor
  · intro h
    have hpass (tail : Bytes) : (Skipper.ofDepth depth).skip key (bytes ++ tail) = .ok tail ∧
        merged = message := by
      have htail := h tail
      cases hskip : (Skipper.ofDepth depth).skip key (bytes ++ tail) with
      | error fault =>
          simp only [mergeField, hunknown, hskip] at htail
          cases htail
      | ok rest =>
          simp only [mergeField, hunknown, hskip] at htail
          cases htail
          exact ⟨rfl, rfl⟩
    exact ⟨fun tail => (hpass tail).1, (hpass []).2⟩
  · rintro ⟨hpass, rfl⟩ tail
    simp only [mergeField, hunknown, hpass tail]

/-! ## Many fields -/

/-- What decoding fields does with the next key. -/
theorem mergeFields_eq (depth left : Nat) (message : μ) (input : Bytes) :
    mergeFields depth left message input =
      if left = 0 then .ok (message, input)
      else match readKey input with
        | .error fault => .error (.ofFault fault)
        | .ok (key, body) =>
          match mergeField depth key message body with
          | .error error => .error error
          | .ok (merged, rest) =>
              if input.length - rest.length ≤ left then
                mergeFields depth (left - (input.length - rest.length)) merged rest
              else .error (.ofFault .overrun) := by
  rw [mergeFields]
  split
  · rfl
  · split <;> simp only [*]
    split <;> simp only [*]

/-- Fields can be put one after the other. -/
theorem Folds.append (first : Folds depth message bytes middle)
    (second : Folds depth middle more merged) : Folds depth message (bytes ++ more) merged := by
  induction first with
  | nil => exact second
  | cons hhead hvalue _ ih =>
      rw [List.append_assoc]
      exact .cons hhead hvalue (ih second)

/-- Complete fields in front of the input are folded in, and decoding goes on behind them. -/
theorem Folds.mergeFields_append (h : Folds depth message bytes merged) (left : Nat)
    (input : Bytes) :
    mergeFields depth (bytes.length + left) message (bytes ++ input) =
      mergeFields depth left merged input := by
  induction h with
  | nil => simp
  | @cons message middle merged key head value rest hhead hvalue _ ih =>
      have hpos := hhead.length_pos
      have htaken : (head ++ value ++ rest ++ input).length - (rest ++ input).length =
          head.length + value.length := by
        simp only [List.length_append]
        omega
      have hleft : (head ++ value ++ rest).length + left - (head.length + value.length) =
          rest.length + left := by
        simp only [List.length_append]
        omega
      rw [mergeFields_eq, if_neg (by simp only [List.length_append]; omega)]
      have hread : readKey (head ++ value ++ rest ++ input) =
          .ok (key, value ++ (rest ++ input)) := by
        simpa using hhead (value ++ (rest ++ input))
      rw [hread]
      simp only [hvalue (rest ++ input), htaken, hleft]
      rw [if_pos (by simp only [List.length_append]; omega), ih]

/-- Complete fields are read as a stretch of the input, whatever follows them. -/
theorem Folds.takes_mergeFields (h : Folds depth message bytes merged) :
    Takes (mergeFields depth bytes.length message) bytes merged := by
  intro tail
  have hmerge := h.mergeFields_append 0 tail
  rwa [mergeFields_eq depth 0, if_pos rfl] at hmerge

/-- Fields that are read to the end of a stretch of the input are complete there. -/
theorem folds_of_mergeFields [Regular μ]
    (h : mergeFields depth left message input = .ok (merged, rest)) :
    ∃ used, input = used ++ rest ∧ used.length = left ∧ Folds depth message used merged := by
  fun_induction mergeFields depth left message input with
  | case1 message input =>
      cases h
      exact ⟨[], rfl, rfl, .nil⟩
  | case2 => cases h
  | case3 => cases h
  | case4 left message input hleft key body hkey middle behind hfield taken htaken ih =>
      obtain ⟨head, rfl, hhead⟩ := isLocal_readKey hkey
      obtain ⟨value, rfl, hvalue⟩ := isLocal_mergeField depth key message hfield
      obtain ⟨others, rfl, hlength, hfolds⟩ := ih h
      refine ⟨head ++ value ++ others, by simp, ?_, .cons hhead hvalue hfolds⟩
      simp only [List.length_append, taken] at hlength htaken ⊢
      omega
  | case5 => cases h

/-- Another level for fields changes nothing, unless the levels run out. -/
theorem mergeFields_deepens [Regular μ] (depth left : Nat) (message : μ) (input : Bytes) :
    RunsOut (mergeFields depth left message input) ∨
      mergeFields depth left message input = mergeFields (depth + 1) left message input := by
  fun_induction mergeFields depth left message input with
  | case1 message input =>
      right
      rw [mergeFields_eq, if_pos rfl]
  | case2 left message input hleft fault hkey =>
      right
      rw [mergeFields_eq, if_neg hleft, hkey]
  | case3 left message input hleft key body hkey error hfield =>
      rcases mergeField_deepens depth key message body with hdeep | hsame
      · left
        rwa [hfield] at hdeep
      · right
        rw [mergeFields_eq, if_neg hleft, hkey]
        simp only [← hsame, hfield]
  | case4 left message input hleft key body hkey middle behind hfield taken htaken ih =>
      rcases mergeField_deepens depth key message body with ⟨trail, hdeep⟩ | hsame
      · rw [hfield] at hdeep
        cases hdeep
      · rw [mergeFields_eq (depth + 1), if_neg hleft, hkey]
        simp only [← hsame, hfield]
        rw [if_pos htaken]
        exact ih
  | case5 left message input hleft key body hkey middle behind hfield taken htaken =>
      right
      rcases mergeField_deepens depth key message body with ⟨trail, hdeep⟩ | hsame
      · rw [hfield] at hdeep
        cases hdeep
      · rw [mergeFields_eq, if_neg hleft, hkey]
        simp only [← hsame, hfield]
        rw [if_neg htaken]

/-- A field that runs out of levels makes all of the decoding run out. -/
theorem runsOut_mergeFields {key : Key} {head value : Bytes} (hhead : Takes readKey head key)
    (hvalue : RunsOut (mergeField depth key message value)) (hleft : left ≠ 0) :
    RunsOut (mergeFields depth left message (head ++ value)) := by
  obtain ⟨trail, hdeep⟩ := hvalue
  rw [mergeFields_eq, if_neg hleft, hhead value]
  simp only [hdeep]
  exact ⟨trail, rfl⟩

/-- Decoding that runs out behind a field runs out. -/
theorem runsOut_mergeFields_behind {key : Key} {head value : Bytes} (hhead : Takes readKey head key)
    (hvalue : Takes (mergeField depth key message) value middle)
    (hrest : RunsOut (mergeFields depth rest.length middle rest)) :
    RunsOut (mergeFields depth (head ++ value ++ rest).length message (head ++ value ++ rest)) := by
  have hfirst : Folds depth message (head ++ value) middle := by
    simpa using Folds.cons hhead hvalue .nil
  rwa [List.length_append, hfirst.mergeFields_append]

/-- Fields that are complete with some levels are so with one more. -/
theorem Folds.deepen [Regular μ] (h : Folds depth message bytes merged) :
    Folds (depth + 1) message bytes merged := by
  induction h with
  | nil => exact .nil
  | @cons message middle merged key head value rest hhead hvalue _ ih =>
      refine .cons hhead (fun tail => ?_) ih
      rcases mergeField_deepens depth key message (value ++ tail) with ⟨trail, hdeep⟩ | hsame
      · rw [hvalue tail] at hdeep
        cases hdeep
      · rw [← hsame, hvalue tail]

/-- Fields that are complete with some levels are so with one less, or run out of them. -/
theorem Folds.shallow [Regular μ] (h : Folds (depth + 1) message bytes merged) :
    Folds depth message bytes merged ∨
      ∀ tail, RunsOut (mergeFields depth bytes.length message (bytes ++ tail)) := by
  by_cases hfolds : Folds depth message bytes merged
  · exact Or.inl hfolds
  · right
    intro tail
    rcases mergeFields_deepens depth bytes.length message (bytes ++ tail) with hdeep | hsame
    · exact hdeep
    · have hmerge := hsame.trans (h.takes_mergeFields tail)
      obtain ⟨used, hused, hlength, hfolds'⟩ := folds_of_mergeFields hmerge
      obtain rfl := List.append_cancel_right hused
      exact absurd hfolds' hfolds

/-! ## Whole messages -/

/-- Bytes that fold into a blank message are decoded. -/
theorem Folds.decode_eq (h : Folds maxDepth blank bytes merged) :
    decode bytes = .ok merged := by
  have hmerge := h.takes_mergeFields []
  rw [List.append_nil] at hmerge
  rw [decode, hmerge]
  rfl

/-- Decoding goes on behind complete fields. -/
theorem Folds.decode_append (h : Folds maxDepth blank bytes merged) (more : Bytes) :
    decode (bytes ++ more) = (mergeFields maxDepth more.length merged more).map Prod.fst := by
  rw [decode, List.length_append, h.mergeFields_append]

/-- Bytes are decoded if and only if they fold into a blank message. -/
theorem decode_eq_ok_iff [Regular μ] :
    decode bytes = .ok merged ↔ Folds maxDepth blank bytes merged := by
  refine ⟨fun h => ?_, Folds.decode_eq⟩
  unfold decode at h
  cases hmerge : mergeFields maxDepth bytes.length (blank : μ) bytes with
  | error error =>
      rw [hmerge] at h
      cases h
  | ok result =>
      obtain ⟨merged', rest⟩ := result
      rw [hmerge] at h
      cases h
      obtain ⟨used, hused, hlength, hfolds⟩ := folds_of_mergeFields hmerge
      have hrest : rest = [] := by
        have := congrArg List.length hused
        simp only [List.length_append, hlength] at this
        exact List.length_eq_zero_iff.mp (by omega)
      rw [hrest, List.append_nil] at hused
      rwa [hused]

end Message

end Glasshouse.Wire
