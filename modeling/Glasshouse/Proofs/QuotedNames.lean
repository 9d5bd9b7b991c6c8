import Glasshouse.Analytics.Statement

/-!
# Quoted names

The names of a dataset and a table come from outside and stand in statements between marks. Reading
a quoted name gives the name back and ends with its last character, whatever follows it
(`scan_quoteWith`), so a statement is read in one way only: the text outside of its names is that of
the statement's author. Main statement: `quoted_names_stay_inside`.
-/

namespace Glasshouse.Analytics

open Store

namespace Identifier

variable {special : List Char}

/-! ## Reading back -/

/-- Inside a quoted name a backslash takes the next character with it. -/
theorem scanInside_backslash (c : Char) (rest : List Char) :
    scanInside ('\\' :: c :: rest) =
      (scanInside rest).map fun (name, after) => (c :: name, after) := by
  rw [scanInside]

/-- The first mark that no backslash takes ends the name. -/
theorem scanInside_mark (rest : List Char) : scanInside (mark :: rest) = some ([], rest) := by
  simp [scanInside, mark]

/-- Any other character stands for itself. -/
theorem scanInside_cons {c : Char} (hbackslash : c ≠ '\\') (hmark : c ≠ mark) (rest : List Char) :
    scanInside (c :: rest) =
      (scanInside rest).map fun (name, after) => (c :: name, after) := by
  rw [scanInside, if_neg hmark]
  exact fun _ _ h => absurd h hbackslash

/-- An escaped name is read back up to the mark behind it, if backslashes and marks are escaped. -/
theorem scanInside_escape (hbackslash : '\\' ∈ special) (hmark : mark ∈ special)
    (name rest : List Char) :
    scanInside (escape special name ++ mark :: rest) = some (name, rest) := by
  induction name with
  | nil => exact scanInside_mark rest
  | cons c name ih =>
      by_cases hc : c ∈ special
      · rw [escape, if_pos hc, List.cons_append, List.cons_append, scanInside_backslash, ih]
        rfl
      · have hplain : c ≠ '\\' := fun h => hc (h ▸ hbackslash)
        have hunmarked : c ≠ mark := fun h => hc (h ▸ hmark)
        rw [escape, if_neg hc, List.cons_append, scanInside_cons hplain hunmarked, ih]
        rfl

/-- A quoted name is read back, and the text behind it is left as it stands. -/
theorem scan_quoteWith (hbackslash : '\\' ∈ special) (hmark : mark ∈ special)
    (name rest : List Char) : scan (quoteWith special name ++ rest) = some (name, rest) := by
  rw [quoteWith, List.cons_append, scan, if_pos rfl, List.append_assoc, List.singleton_append]
  exact scanInside_escape hbackslash hmark name rest

/-- Escaping two characters at once is escaping the first and then the second in what results,
if the first is the backslash that is put in front. -/
theorem escape_escape {c : Char} (hc : c ≠ '\\') (name : List Char) :
    escape [c] (escape ['\\'] name) = escape ['\\', c] name := by
  induction name with
  | nil => rfl
  | cons d name ih =>
      by_cases hbackslash : d = '\\'
      · simp [escape, hbackslash, hc.symm, ih]
      · by_cases hd : d = c
        · simp [escape, hd, hc, ih]
        · simp [escape, hbackslash, hd, ih]

/-! ## Texts with quoted names -/

/-- A text is read from its front: what stands outside of quoted names, with one mark in the place
of each name, and the names in order. -/
inductive ReadsAs : (text outside : List Char) → (names : List (List Char)) → Prop
  | nil : ReadsAs [] [] []
  | plain {c : Char} {text outside : List Char} {names : List (List Char)} (hplain : c ≠ mark)
      (hrest : ReadsAs text outside names) : ReadsAs (c :: text) (c :: outside) names
  | quoted {text name rest outside : List Char} {names : List (List Char)}
      (hname : scan text = some (name, rest)) (hrest : ReadsAs rest outside names) :
      ReadsAs text (mark :: outside) (name :: names)

namespace ReadsAs

variable {text outside outside' : List Char} {names names' : List (List Char)}

/-- A text is read in one way only. -/
theorem unique (h : ReadsAs text outside names) (h' : ReadsAs text outside' names') :
    outside = outside' ∧ names = names' := by
  induction h generalizing outside' names' with
  | nil =>
      cases h' with
      | nil => exact ⟨rfl, rfl⟩
      | quoted hname hrest => cases hname
  | @plain c text outside names hplain hrest ih =>
      cases h' with
      | plain _ hrest' =>
          obtain ⟨rfl, rfl⟩ := ih hrest'
          exact ⟨rfl, rfl⟩
      | quoted hname _ =>
          rw [scan, if_neg hplain] at hname
          cases hname
  | @quoted text name rest outside names hname hrest ih =>
      cases h' with
      | nil => cases hname
      | plain hplain _ =>
          rw [scan, if_neg hplain] at hname
          cases hname
      | quoted hname' hrest' =>
          cases hname.symm.trans hname'
          obtain ⟨rfl, rfl⟩ := ih hrest'
          exact ⟨rfl, rfl⟩

/-- A text without marks is outside of names as a whole. -/
theorem append_plain {front : List Char} (hfront : mark ∉ front) (h : ReadsAs text outside names) :
    ReadsAs (front ++ text) (front ++ outside) names := by
  induction front with
  | nil => exact h
  | cons c front ih =>
      obtain ⟨hc, hrest⟩ := not_or.mp (mt List.mem_cons.mpr hfront)
      exact .plain (Ne.symm hc) (ih hrest)

/-- A quoted name in front of a text is one more name of it. -/
theorem append_quoted (hbackslash : '\\' ∈ special) (hmark : mark ∈ special) (name : List Char)
    (h : ReadsAs text outside names) :
    ReadsAs (quoteWith special name ++ text) (mark :: outside) (name :: names) :=
  .quoted (scan_quoteWith hbackslash hmark name text) h

end ReadsAs

end Identifier

open Identifier

/-- The characters of a name as it stands in a statement. -/
theorem toList_quote (name : String) :
    (quote name).toList = quoteWith special name.toList :=
  String.toList_ofList

/-- What stands behind the names in the statement that creates a table. -/
def tableEnd : String :=
  " ( " ++ columnDefinitions ++ " ) ENGINE = MergeTree ORDER BY (device_id, time)"

/-- The text of the statement that creates a table outside of the names in it. -/
def tableFrame : List Char :=
  "CREATE TABLE IF NOT EXISTS ".toList ++ mark :: '.' :: mark :: tableEnd.toList

/-- Neither a mark nor a question mark stands behind the names. -/
theorem notMem_tableEnd : mark ∉ tableEnd.toList ∧ '?' ∉ tableEnd.toList := by
  have hcolumns : mark ∉ columnDefinitions.toList ∧ '?' ∉ columnDefinitions.toList := by
    rw [columnDefinitions, String.toList_intercalate]
    decide +kernel
  have hopening : mark ∉ " ( ".toList ∧ '?' ∉ " ( ".toList := by decide +kernel
  have hengine : mark ∉ " ) ENGINE = MergeTree ORDER BY (device_id, time)".toList ∧
      '?' ∉ " ) ENGINE = MergeTree ORDER BY (device_id, time)".toList := by
    decide +kernel
  simp only [tableEnd, String.toList_append, List.mem_append, not_or]
  exact ⟨⟨⟨hopening.1, hcolumns.1⟩, hengine.1⟩, ⟨hopening.2, hcolumns.2⟩, hengine.2⟩

/-- The parts of the statement that creates a table. -/
theorem toList_createTable (target : Target) :
    (Statement.createTable target).sql.toList = "CREATE TABLE IF NOT EXISTS ".toList ++
      (quoteWith special target.dataset.toList ++
        ('.' :: (quoteWith special target.table.toList ++ tableEnd.toList))) := by
  have hsql : (Statement.createTable target).sql = "CREATE TABLE IF NOT EXISTS " ++
      quote target.dataset ++ "." ++ quote target.table ++ " ( " ++ columnDefinitions ++
      " ) ENGINE = MergeTree ORDER BY (device_id, time)" := rfl
  have hdot : ".".toList = ['.'] := rfl
  simp only [hsql, hdot, tableEnd, String.toList_append, toList_quote, List.append_assoc,
    List.cons_append, List.nil_append]

/-- The statement that creates a table holds the names of its target and nothing else that depends
on the target. -/
theorem readsAs_createTable (target : Target) :
    ReadsAs (Statement.createTable target).sql.toList tableFrame
      [target.dataset.toList, target.table.toList] := by
  have hbackslash : '\\' ∈ special := by decide
  have hmark : mark ∈ special := by decide
  have hend : ReadsAs tableEnd.toList tableEnd.toList [] := by
    simpa using ReadsAs.nil.append_plain (notMem_tableEnd.1)
  have htable := ReadsAs.plain (show '.' ≠ mark by decide)
    (hend.append_quoted hbackslash hmark target.table.toList)
  have hdataset := (htable.append_quoted hbackslash hmark target.dataset.toList).append_plain
    (show mark ∉ "CREATE TABLE IF NOT EXISTS ".toList by decide +kernel)
  rw [toList_createTable]
  exact hdataset

/-- Statements that create a table with the same text are for the same target. -/
theorem createTable_inj {target other : Target} :
    (Statement.createTable target).sql = (Statement.createTable other).sql ↔ target = other := by
  constructor
  · intro h
    have hother := readsAs_createTable other
    rw [← h] at hother
    obtain ⟨_, hnames⟩ := (readsAs_createTable target).unique hother
    obtain ⟨hdataset, htables⟩ := List.cons.inj hnames
    obtain ⟨htable, _⟩ := List.cons.inj htables
    exact congr (congrArg Target.mk (String.toList_inj.mp hdataset)) (String.toList_inj.mp htable)
  · rintro rfl
    rfl

/-! ## What is sent -/

/-- Escaping a name adds backslashes only. -/
theorem mem_escape_iff {c : Char} (hc : c ≠ '\\') {name : List Char} :
    c ∈ escape special name ↔ c ∈ name := by
  induction name with
  | nil => rfl
  | cons d name ih =>
      by_cases hd : d ∈ special
      · simp [escape, hd, hc, ih]
      · simp [escape, hd, ih]

/-- The statement that creates a table is sent as it is if its names have no question mark. -/
theorem sentText_createTable {target : Target} (hdataset : '?' ∉ target.dataset.toList)
    (htable : '?' ∉ target.table.toList) :
    (Statement.createTable target).sentText = .ok (Statement.createTable target).sql := by
  have hquoted {name : String} (hname : '?' ∉ name.toList) :
      '?' ∉ quoteWith special name.toList := by
    have hescaped := mt (mem_escape_iff (show '?' ≠ '\\' by decide)).mp hname
    simp [quoteWith, mark, hescaped]
  have hstart : '?' ∉ "CREATE TABLE IF NOT EXISTS ".toList := by decide +kernel
  refine Statement.sentText_of_notMem ?_
  rw [toList_createTable]
  simp only [List.mem_append, List.mem_cons, not_or]
  exact ⟨hstart, hquoted hdataset, by decide, hquoted htable, notMem_tableEnd.2⟩

/-- The text that is sent to create a table tells the target, whatever question marks its names
have. -/
theorem eq_of_sentText_createTable {target other : Target} {text : String}
    (h : (Statement.createTable target).sentText = .ok text)
    (h' : (Statement.createTable other).sentText = .ok text) : target = other := by
  -- A statement that is sent is the text with its question marks doubled.
  have hdouble {target : Target} (h : (Statement.createTable target).sentText = .ok text) :
      (Statement.createTable target).sql.toList = Template.double text.toList := by
    replace h : (Template.expand (Statement.createTable target).sql.toList).map String.ofList =
      .ok text := h
    cases hexpand : Template.expand (Statement.createTable target).sql.toList with
    | error placeholder =>
        rw [hexpand] at h
        cases h
    | ok sent =>
        rw [hexpand] at h
        obtain rfl := Except.ok.inj h
        rw [String.toList_ofList]
        exact Template.expand_eq_ok_iff.mp hexpand
  exact createTable_inj.mp (String.toList_inj.mp ((hdouble h).trans (hdouble h').symm))

/-- A name between marks is read back whatever it holds and whatever follows it, and reading ends
with its last character. Its special characters are escaped by putting a backslash in front of every
backslash and then one in front of every mark. The statement that creates the table of a target can
be read in one way only: its names are those of the target, and the text outside of them is the same
for all targets. So the statements of different targets are different. -/
theorem quoted_names_stay_inside (name text : String) (target other : Target) :
    scan ((quote name).toList ++ text.toList) = some (name.toList, text.toList) ∧
    (quote name).toList = mark :: (escape [mark] (escape ['\\'] name.toList) ++ [mark]) ∧
    (∀ outside names, ReadsAs (Statement.createTable target).sql.toList outside names ↔
      outside = tableFrame ∧ names = [target.dataset.toList, target.table.toList]) ∧
    ((Statement.createTable target).sql = (Statement.createTable other).sql ↔ target = other) := by
  refine ⟨?_, ?_, fun outside names => ⟨fun hreads => ?_, ?_⟩, createTable_inj⟩
  · rw [toList_quote]
    exact scan_quoteWith (by decide) (by decide) name.toList text.toList
  · rw [toList_quote, escape_escape (by decide)]
    rfl
  · exact hreads.unique (readsAs_createTable target)
  · rintro ⟨rfl, rfl⟩
    exact readsAs_createTable target

end Glasshouse.Analytics
