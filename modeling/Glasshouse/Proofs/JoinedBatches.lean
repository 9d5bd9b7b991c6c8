import Std.Data.String.ToNat
import Glasshouse.Proofs.BatchViews
import Glasshouse.Status.Batch

/-!
# Batches one after the other

A payload that decodes ends between two fields, so whatever is put behind it is read as if it stood
alone, except that its entries are counted on. `decodeBatch_append` says so for the causes of
failure and `batches_compose` for their texts. The text of a fault names its entry by a number, and
`recordText_inj` tells that number and the rest of the text apart.
-/

namespace Glasshouse.Status

open Wire Message

/-! ## Splitting -/

variable {depth left : Nat} {key : Key} {batch : RawBatch} {input : Bytes}

/-- A field adds to the entries that are there and does not look at them. -/
theorem mergeField_behind (kept : List Bytes) :
    mergeField depth key (⟨kept ++ batch.entries⟩ : RawBatch) input =
      (mergeField depth key batch input).map fun (merged, rest) =>
        (⟨kept ++ merged.entries⟩, rest) := by
  unfold mergeField
  by_cases hnumber : key.number = 1
  · simp only [find?_entry hnumber, Field.repeated]
    cases Field.readScalar Scalar.bytes key.wire input with
    | error error => rfl
    | ok result => simp [Except.map, Except.mapError]
  · simp only [find?_entry_none hnumber]
    cases (Skipper.ofDepth depth).skip key input <;> rfl

/-- Fields add to the entries that are there and do not look at them. -/
theorem mergeFields_behind (kept : List Bytes) :
    mergeFields depth left (⟨kept ++ batch.entries⟩ : RawBatch) input =
      (mergeFields depth left batch input).map fun (merged, rest) =>
        (⟨kept ++ merged.entries⟩, rest) := by
  fun_induction mergeFields depth left batch input with
  | case1 batch input =>
      rw [mergeFields_eq, if_pos rfl]
      rfl
  | case2 left batch input hleft fault hkey =>
      rw [mergeFields_eq, if_neg hleft, hkey]
      rfl
  | case3 left batch input hleft key body hkey error hfield =>
      rw [mergeFields_eq, if_neg hleft, hkey]
      simp only [mergeField_behind, hfield]
      rfl
  | case4 left batch input hleft key body hkey merged rest hfield taken htaken ih =>
      rw [mergeFields_eq, if_neg hleft, hkey]
      simp only [mergeField_behind, hfield, Except.map]
      rw [if_pos htaken]
      exact ih
  | case5 left batch input hleft key body hkey merged rest hfield taken htaken =>
      rw [mergeFields_eq, if_neg hleft, hkey]
      simp only [mergeField_behind, hfield, Except.map]
      rw [if_neg htaken]

/-- A payload that splits leaves what is behind it to be split alone. -/
theorem decode_append {first : Bytes} (h : Message.decode first = .ok batch) (second : Bytes) :
    Message.decode (first ++ second) =
      (Message.decode second).map fun other : RawBatch =>
        (⟨batch.entries ++ other.entries⟩ : RawBatch) := by
  have hbatch : batch = ⟨batch.entries ++ (blank : RawBatch).entries⟩ :=
    congrArg RawBatch.mk (List.append_nil _).symm
  have hsecond : mergeFields maxDepth second.length batch second = _ :=
    (congrArg (mergeFields maxDepth second.length · second) hbatch).trans
      (mergeFields_behind batch.entries)
  rw [(decode_eq_ok_iff.mp h).decode_append, hsecond, Message.decode]
  cases mergeFields maxDepth second.length (blank : RawBatch) second <;> rfl

/-! ## Decoding entry by entry -/

/-- The fault as it is met behind so many entries. -/
def BatchFault.behind (count : Nat) : BatchFault → BatchFault
  | empty => empty
  | notSplit error => notSplit error
  | notState index error => notState (count + index) error
  | noReport index => noReport (count + index)

/-- An entry is decoded alike wherever it stands. -/
theorem Entry.decode_behind (count index : Nat) (raw : Bytes) :
    Entry.decode (count + index) raw = (Entry.decode index raw).mapError (·.behind count) := by
  unfold Entry.decode
  split
  · rfl
  · split <;> rfl

/-- Entries are decoded alike wherever they stand. -/
theorem decodeEntries_behind (count index : Nat) (raws : List Bytes) :
    decodeEntries (count + index) raws = (decodeEntries index raws).mapError (·.behind count) := by
  induction raws generalizing index with
  | nil => rfl
  | cons raw raws ih =>
      rw [decodeEntries, decodeEntries, Entry.decode_behind, Nat.add_assoc, ih]
      cases Entry.decode index raw with
      | error fault => rfl
      | ok entry => cases decodeEntries (index + 1) raws <;> rfl

/-- Good entries leave those behind them to be decoded, counted on. -/
theorem decodeEntries_append {index : Nat} {raws : List Bytes} {entries : List Entry}
    (h : decodeEntries index raws = .ok entries) (others : List Bytes) :
    decodeEntries index (raws ++ others) =
      (decodeEntries (index + entries.length) others).map (entries ++ ·) := by
  fun_induction decodeEntries index raws generalizing entries with
  | case1 index =>
      cases h
      cases hothers : decodeEntries index others <;> simp [Except.map, hothers]
  | case2 => cases h
  | case3 => cases h
  | case4 index raw raws entry hentry entries hentries ih =>
      cases h
      rw [List.cons_append, decodeEntries, hentry, ih hentries, List.length_cons,
        Nat.add_right_comm, Nat.add_assoc]
      cases decodeEntries (index + (entries.length + 1)) others <;> rfl

/-- A payload behind one that decodes is decoded as if it stood alone, with its entries counted
on. -/
theorem decodeBatch_append {first second : Bytes} {entries : List Entry}
    (h : decodeBatch first = .ok entries) (hsecond : second ≠ []) :
    decodeBatch (first ++ second) =
      ((decodeBatch second).mapError (·.behind entries.length)).map (entries ++ ·) := by
  unfold decodeBatch at h
  split at h
  · cases h
  · split at h
    · cases h
    · next batch hfirst =>
        have hboth : (first ++ second).isEmpty = false := by simp [hsecond]
        have hnot : second.isEmpty = false := by simp [hsecond]
        rw [decodeBatch, decodeBatch, hboth, hnot, decode_append hfirst]
        simp only [Bool.false_eq_true, if_false]
        cases Message.decode (μ := RawBatch) second with
        | error error => rfl
        | ok other =>
            show decodeEntries 0 (batch.entries ++ other.entries) = _
            rw [decodeEntries_append h, Nat.zero_add]
            exact congrArg _ (decodeEntries_behind entries.length 0 other.entries)

/-! ## Texts -/

/-- The text about an entry tells its number and what is wrong with it. -/
theorem recordText_inj {index other : Nat} {text further : String}
    (h : s!"record {index}: {text}" = s!"record {other}: {further}") :
    index = other ∧ text = further := by
  have hdigits (n : Nat) (rest : List Char) :
      (n.repr.toList ++ ':' :: rest).takeWhile Char.isDigit = n.repr.toList := by
    rw [List.takeWhile_append_of_pos, List.takeWhile_cons_of_neg (by decide), List.append_nil]
    intro digit hmem
    rw [Nat.toList_repr] at hmem
    exact Nat.isDigit_of_mem_toDigits (by decide) (by decide) hmem
  have htext (n : Nat) (text : String) : s!"record {n}: {text}".toList =
      "record ".toList ++ (n.repr.toList ++ ':' :: ' ' :: text.toList) := by
    simp [toString, String.toList_append]
  have hlists := congrArg String.toList h
  rw [htext, htext, List.append_right_inj] at hlists
  have hnumber := congrArg (List.takeWhile Char.isDigit) hlists
  rw [hdigits, hdigits, String.toList_inj] at hnumber
  obtain rfl := Nat.repr_inj.mp hnumber
  rw [List.append_right_inj] at hlists
  exact ⟨rfl, String.toList_inj.mp (List.cons.inj (List.cons.inj hlists).2).2⟩

/-- The text of a wire fault is not one about an entry. -/
theorem text_ne_recordText (error : DecodeError) (index : Nat) (text : String) :
    error.text ≠ s!"record {index}: {text}" := by
  intro h
  have hfailed (rest : String) :
      ("failed to decode Protobuf message: " ++ rest).toList.head? = some 'f' := by
    rw [String.toList_append]
    rfl
  have hrecord : s!"record {index}: {text}".toList.head? = some 'r' := by
    rw [String.toList_append, String.toList_append, String.toList_append]
    rfl
  have hletter : error.text.toList.head? = some 'f' := hfailed error.description
  rw [h, hrecord] at hletter
  exact absurd (Option.some.inj hletter) (by decide)

/-- A fault whose text names an entry names it counted on when it is met behind others. -/
theorem toFailure_behind {fault : BatchFault} {index : Nat} {text : String} (count : Nat)
    (h : fault.toFailure = .malformedBatch s!"record {index}: {text}") :
    (fault.behind count).toFailure = .malformedBatch s!"record {count + index}: {text}" := by
  cases fault with
  | empty => cases h
  | notSplit error => exact absurd (Failure.malformedBatch.inj h) (text_ne_recordText _ _ _)
  | notState other error =>
      obtain ⟨rfl, rfl⟩ := recordText_inj (Failure.malformedBatch.inj h)
      rfl
  | noReport other =>
      obtain ⟨rfl, rfl⟩ := recordText_inj (Failure.malformedBatch.inj h)
      rfl

/-- Behind a payload that decodes, a payload that decodes adds its entries as they are, one that does
not split fails with the same text, and one with a bad entry fails with the text about that entry,
counted on. -/
theorem batches_compose {first second : Bytes} {entries : List Entry}
    (hfirst : decodeBatch first = .ok entries) (hsecond : second ≠ []) :
    (∀ others, decodeBatch second = .ok others →
      decodeBatch (first ++ second) = .ok (entries ++ others)) ∧
    (∀ error : DecodeError, Message.decode (μ := RawBatch) second = .error error →
      (decodeBatch second).mapError BatchFault.toFailure = .error (.malformedBatch error.text) ∧
      (decodeBatch (first ++ second)).mapError BatchFault.toFailure =
        .error (.malformedBatch error.text)) ∧
    ∀ (index : Nat) (text : String),
      (decodeBatch second).mapError BatchFault.toFailure =
        .error (.malformedBatch s!"record {index}: {text}") →
      (decodeBatch (first ++ second)).mapError BatchFault.toFailure =
        .error (.malformedBatch s!"record {entries.length + index}: {text}") := by
  rw [decodeBatch_append hfirst hsecond]
  refine ⟨fun others hothers => ?_, fun error herror => ?_, fun index text hbad => ?_⟩
  · rw [hothers]
    rfl
  · have hnot : second.isEmpty = false := by simp [hsecond]
    have hdecode : decodeBatch second = .error (.notSplit error) := by
      simp [decodeBatch, hnot, herror]
    rw [hdecode]
    exact ⟨rfl, rfl⟩
  · cases hdecode : decodeBatch second with
    | ok others =>
        rw [hdecode] at hbad
        cases hbad
    | error fault =>
        rw [hdecode] at hbad
        have htext := toFailure_behind entries.length (Except.error.inj hbad)
        exact congrArg Except.error htext

/-- Behind telemetry and figures of the memory, a mark of a reboot is the third entry, an entry that
is cut off fails as it does alone, and a state without a report in second place is called the
fourth. -/
theorem three_payloads_behind_two_states :
    let front : Bytes := [10, 2, 18, 0, 10, 2, 34, 0]
    let entries : List Entry := [⟨.telemetry blank, 0, [18, 0]⟩, ⟨.memory blank, 0, [34, 0]⟩]
    let cutOff : DecodeError := ⟨.underflow, [⟨"EncodedStates", "state"⟩]⟩
    decodeBatch front = .ok entries ∧
      decodeBatch (front ++ [10, 2, 50, 0]) = .ok (entries ++ [⟨.reboot, 0, [50, 0]⟩]) ∧
      (decodeBatch (front ++ [10, 5, 1])).mapError BatchFault.toFailure =
        .error (.malformedBatch cutOff.text) ∧
      (decodeBatch (front ++ [10, 2, 34, 0, 10, 0])).mapError BatchFault.toFailure =
        .error (.malformedBatch s!"record {3}: {noReportText}") := by
  intro front entries cutOff
  have hfront : decodeBatch front = .ok entries := by decide +kernel
  have hbad : decodeBatch [10, 2, 34, 0, 10, 0] = .error (.noReport 1) := by decide +kernel
  refine ⟨hfront, ?_, ?_, ?_⟩
  · exact (batches_compose hfront (by decide)).1 _ (by decide +kernel)
  · exact ((batches_compose hfront (by decide)).2.1 cutOff (by decide +kernel)).2
  · exact (batches_compose hfront (by decide)).2.2 1 noReportText (by rw [hbad]; rfl)

end Glasshouse.Status
