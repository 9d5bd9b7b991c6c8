import Glasshouse.Text.PrintableTable

/-!
# Quoted text

Texts that come from outside are shown between double quotes, so that a reader of a message sees
where they begin and end and which characters they hold. A record of named values is shown as its
name and its fields.
-/

namespace Glasshouse.Text

/-- A character is shown as it is. -/
def isShown (c : Char) : Bool :=
  if c.toNat < 0x80 then 0x20 ≤ c.toNat && c.toNat < 0x7f else !inRanges shapelessRanges c

/-- A character inside quotes: a backslash in front of what would be misread, a short name for the
common controls, and the code point of what has no shape of its own. -/
def quotedChar (c : Char) : List Char :=
  if c = '"' || c = '\\' then ['\\', c]
  else if c = '\x00' then ['\\', '0']
  else if c = '\t' then ['\\', 't']
  else if c = '\n' then ['\\', 'n']
  else if c = '\r' then ['\\', 'r']
  else if isShown c then [c]
  else "\\u\x7b".toList ++ Nat.toDigits 16 c.toNat ++ ['\x7d']

/-- A text between double quotes. -/
def quoted (text : String) : String :=
  String.ofList ('"' :: (text.toList.flatMap quotedChar ++ ['"']))

/-- A record with the texts of its fields. -/
def recordText (name : String) (fields : List (String × String)) : String :=
  let shown := fields.map fun (field, value) => field ++ ": " ++ value
  name ++ " \x7b " ++ ", ".intercalate shown ++ " \x7d"

end Glasshouse.Text
