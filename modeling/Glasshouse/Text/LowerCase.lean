import Glasshouse.Text.CaseTable

/-!
# Lower case

Texts are brought to lower case letter by letter, with two exceptions of the Unicode standard: the
capital I with a dot becomes two characters, and the capital sigma depends on whether it ends its
word.
-/

namespace Glasshouse.Text

/-- The capital sigma. -/
def capitalSigma : Char := '\u03a3'

/-- The small sigma inside a word and the one at its end. -/
def smallSigma (final : Bool) : Char :=
  if final then '\u03c2' else '\u03c3'

/-- The lower-case form of a letter, and any other character by itself. -/
def lowerChar (c : Char) : List Char :=
  if c.toNat < 0x80 then [c.toLower]
  else if c = '\u0130' then ['i', '\u0307']
  else
    let inRun : Nat × Nat × Nat × Nat → Bool := fun (first, last, distance, _) =>
      first ≤ c.toNat && c.toNat ≤ last && (c.toNat - first) % distance == 0
    match upperCaseRuns.find? inRun with
    | some (first, _, _, lower) => [Char.ofNat (lower + (c.toNat - first))]
    | none => [c]

/-- The next character that counts has case. -/
def meetsCased (characters : List Char) : Bool :=
  (characters.dropWhile (inRanges caseIgnorableRanges)).head?.any (inRanges casedRanges)

/-- A letter between these characters, of which those before it stand in reverse order, ends its
word: there is a letter with case before it and none after it. -/
def endsWord (before after : List Char) : Bool :=
  meetsCased before && !meetsCased after

/-- The lower-case form of characters that follow `before`, which stand in reverse order. -/
def lowerFrom (before : List Char) : List Char → List Char
  | [] => []
  | c :: cs =>
      let lowered := if c = capitalSigma then [smallSigma (endsWord before cs)] else lowerChar c
      lowered ++ lowerFrom (c :: before) cs

/-- A text in lower case. -/
def lowerCase (text : String) : String :=
  String.ofList (lowerFrom [] text.toList)

end Glasshouse.Text
