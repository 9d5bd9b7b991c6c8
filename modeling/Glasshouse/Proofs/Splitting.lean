import Glasshouse.Proofs.BatchViews
import Glasshouse.Proofs.CompleteFields

/-!
# Splitting payloads

A payload splits into entries exactly if it is a row of complete fields, of which those with number
one are the entries. The reader's fields and the grammar's are followed one by one; a batch of
entries grows by those that are found. Main statement: `decode_eq_ok_iff_splits`.
-/

namespace Glasshouse.Wire

open Status Message

variable {bytes : Bytes} {entries : List Bytes}

/-- The fields that are read of a payload split it, and their entries are added. -/
theorem Splits.of_folds {batch merged : RawBatch} (h : Folds maxDepth batch bytes merged) :
    ∃ entries, merged = ⟨batch.entries ++ entries⟩ ∧ Splits bytes entries := by
  induction h with
  | nil => exact ⟨[], by simp, .nil⟩
  | @cons batch middle merged key head value rest hhead hvalue _ ih =>
      obtain ⟨number, wire⟩ := key
      obtain ⟨entries, rfl, hrest⟩ := ih
      by_cases hnumber : number = 1
      · subst hnumber
        obtain ⟨rfl, size, raw, rfl, hsize, rfl⟩ := (takes_entry_iff rfl).mp hvalue
        have hsplits := Splits.entry (takes_readKey_iff.mp hhead) (takes_readVarint_iff.mp hsize)
          hrest
        exact ⟨raw :: entries, by simp, by simpa using hsplits⟩
      · obtain ⟨hpass, rfl⟩ := (takes_mergeField_unknown_iff (find?_entry_none hnumber)).mp hvalue
        have hfield : IsFields maxDepth [number] (head ++ value) :=
          isFields_singleton_iff.mpr ⟨wire, head, value, rfl, hhead, hpass⟩
        exact ⟨entries, rfl, .other hnumber hfield hrest⟩

/-- A payload that splits is read as its fields, and their entries are added. -/
theorem Splits.folds (h : Splits bytes entries) (batch : RawBatch) :
    Folds maxDepth batch bytes ⟨batch.entries ++ entries⟩ := by
  induction h generalizing batch with
  | nil =>
      rw [List.append_nil]
      exact .nil
  | @entry head size content rest entries hkey hsize _ ih =>
      have hentry : Takes (mergeField maxDepth ⟨1, .lengthDelimited⟩ batch) (size ++ content)
          ⟨batch.entries ++ [content]⟩ :=
        (takes_entry_iff rfl).mpr ⟨rfl, size, content, rfl, takes_readVarint_iff.mpr hsize, rfl⟩
      have hfolds := Folds.cons (takes_readKey_iff.mpr hkey) hentry (ih _)
      simpa using hfolds
  | @other number field rest entries hnumber hfield _ ih =>
      obtain ⟨wire, head, value, rfl, hhead, hpass⟩ := isFields_singleton_iff.mp hfield
      have hother : Takes (mergeField maxDepth ⟨number, wire⟩ batch) value batch :=
        (takes_mergeField_unknown_iff (find?_entry_none hnumber)).mpr ⟨hpass, rfl⟩
      exact .cons hhead hother (ih batch)

/-- A payload is decoded to entries if and only if it is made of complete fields and the entries are
the contents of those with number one, in order. -/
theorem decode_eq_ok_iff_splits (payload : Bytes) (entries : List Bytes) :
    Message.decode payload = .ok (⟨entries⟩ : RawBatch) ↔ Splits payload entries := by
  rw [decode_eq_ok_iff]
  constructor
  · intro h
    obtain ⟨found, hfound, hsplits⟩ := Splits.of_folds h
    obtain rfl : entries = found := congrArg RawBatch.entries hfound
    exact hsplits
  · intro h
    exact h.folds blank

end Glasshouse.Wire
