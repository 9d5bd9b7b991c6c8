/-!
# Queries as templates

The client library takes the text of a query for a template: a question mark asks for a value that
is bound to it, and two of them stand for a plain one. No values are bound to the queries here, so a
query is sent if its question marks come in pairs. Main statement: `expand_eq_ok_iff`.
-/

namespace Glasshouse.Analytics

/-- What a question mark asks for. -/
inductive Placeholder where
  | value
  /-- The names of the columns of a row. -/
  | columns
deriving DecidableEq, Repr

/-- The text about a placeholder to which nothing is bound. -/
def Placeholder.complaint : Placeholder → String
  | value => "invalid SQL: unbound query argument"
  | columns => "invalid SQL: unbound query argument ?fields"

namespace Template

/-- The placeholder that a question mark is with this text behind it. -/
def placeholderBefore (rest : List Char) : Placeholder :=
  if "fields".toList.isPrefixOf rest then .columns else .value

/-- The text that is sent for a template, or its first placeholder. -/
def expand : List Char → Except Placeholder (List Char)
  | [] => .ok []
  | '?' :: '?' :: rest => (expand rest).map ('?' :: ·)
  | '?' :: rest => .error (placeholderBefore rest)
  | c :: rest => (expand rest).map (c :: ·)

/-- A text with every question mark written twice. -/
def double : List Char → List Char
  | [] => []
  | c :: text => if c = '?' then c :: c :: double text else c :: double text

/-- A character that is not a question mark stands for itself. -/
theorem expand_cons {c : Char} (h : c ≠ '?') (rest : List Char) :
    expand (c :: rest) = (expand rest).map (c :: ·) := by
  rw [expand]
  · exact fun others hc _ => h hc
  · exact h

/-- A character in front of a template is sent in front of what is sent for the template. -/
theorem map_cons_eq_ok_iff {expanded : Except Placeholder (List Char)} {c : Char}
    {sent : List Char} :
    expanded.map (c :: ·) = .ok sent ↔ ∃ rest, expanded = .ok rest ∧ c :: rest = sent := by
  cases expanded <;> simp [Except.map]

/-- A template is sent as a text exactly if it is this text with every question mark twice. -/
theorem expand_eq_ok_iff {text sent : List Char} : expand text = .ok sent ↔ text = double sent := by
  constructor
  · intro h
    induction text using expand.induct generalizing sent with
    | case1 =>
        cases h
        rfl
    | case2 rest ih =>
        rw [expand, map_cons_eq_ok_iff] at h
        obtain ⟨others, hothers, rfl⟩ := h
        rw [double, if_pos rfl, ← ih hothers]
    | case3 rest hsingle =>
        rw [expand] at h
        · cases h
        · exact hsingle
    | case4 c rest _ hplain ih =>
        rw [expand_cons hplain, map_cons_eq_ok_iff] at h
        obtain ⟨others, hothers, rfl⟩ := h
        rw [double, if_neg hplain, ← ih hothers]
  · rintro rfl
    induction sent with
    | nil => rfl
    | cons c sent ih =>
        by_cases hc : c = '?'
        · rw [double, if_pos hc, hc, expand, ih]
          rfl
        · rw [double, if_neg hc, expand_cons hc, ih]
          rfl

/-- A text without a question mark is sent as it is. -/
theorem expand_of_notMem {text : List Char} (h : '?' ∉ text) : expand text = .ok text := by
  rw [expand_eq_ok_iff]
  induction text with
  | nil => rfl
  | cons c text ih =>
      obtain ⟨hc, htext⟩ := not_or.mp (mt List.mem_cons.mpr h)
      rw [double, if_neg (Ne.symm hc), ← ih htext]

end Template

end Glasshouse.Analytics
