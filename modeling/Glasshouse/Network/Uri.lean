/-!
# Well-formed addresses

Whether a text can stand as the address of a service. An address has a scheme, an authority and
perhaps a path with a query; an authority may also stand alone, and so may a path. What comes after
a number sign is not looked at.
-/

namespace Glasshouse.Network

/-- Why a text is no address. -/
inductive UriFault where
  | empty
  | tooLong
  | schemeTooLong
  | invalidCharacter
  | invalidAuthority
  | invalidFormat
deriving DecidableEq, Repr

/-- The text of a fault. -/
def UriFault.text : UriFault → String
  | empty => "empty string"
  | tooLong => "uri too long"
  | schemeTooLong => "scheme too long"
  | invalidCharacter => "invalid uri character"
  | invalidAuthority => "invalid authority"
  | invalidFormat => "invalid format"

namespace Uri

/-- The bytes that an address may have at most. -/
def maxSize : Nat := 65534

/-- The characters that a scheme may have at most. -/
def maxScheme : Nat := 64

/-- The colons that an authority may have at most before it is known to be bad. -/
def maxColons : Nat := 8

/-! ## Schemes -/

/-- The characters of schemes. -/
def isSchemeChar (c : Char) : Bool :=
  c.isAlphanum || c == '+' || c == '-' || c == '.' || c == '~'

/-- What stands between a scheme and an authority. -/
def schemeEnd : List Char := "://".toList

/-- The text after the scheme, if there is one. -/
def afterScheme? (text : List Char) : Except UriFault (Option (List Char)) :=
  let scheme := text.takeWhile isSchemeChar
  let rest := text.dropWhile isSchemeChar
  if text.length > 3 && schemeEnd.isPrefixOf rest then
    if scheme.length > maxScheme then .error .schemeTooLong
    else .ok (some (rest.drop schemeEnd.length))
  else .ok none

/-! ## Authorities -/

/-- The characters of authorities, apart from those with a meaning of their own. -/
def isAuthorityChar (c : Char) : Bool :=
  c.isAlphanum || c ∈ ['!', '$', '&', '\'', '(', ')', '*', '+', ',', '-', '.', ';', '=', '_', '~']

/-- What has been seen of an authority. -/
structure AuthorityScan where
  /-- Colons that do not belong to user information or an address in brackets. -/
  colons : Nat
  opened : Bool
  closed : Bool
  /-- There was a percent sign in the name of the host. -/
  percent : Bool
  /-- The last character separates user information from a host. -/
  endsUser : Bool

namespace AuthorityScan

/-- Nothing has been seen. -/
def start : AuthorityScan :=
  ⟨0, false, false, false, false⟩

/-- Reads one character. -/
def next (scan : AuthorityScan) (c : Char) : Except UriFault AuthorityScan :=
  let scan := { scan with endsUser := false }
  if c = ':' then
    if maxColons ≤ scan.colons then .error .invalidAuthority
    else .ok { scan with colons := scan.colons + 1 }
  else if c = '[' then
    if scan.percent || scan.opened then .error .invalidAuthority
    else .ok { scan with opened := true }
  else if c = ']' then
    if !scan.opened || scan.closed then .error .invalidAuthority
    else .ok { scan with closed := true, colons := 0, percent := false }
  else if c = '@' then .ok { scan with colons := 0, percent := false, endsUser := true }
  else if c = '%' then .ok { scan with percent := true }
  else if isAuthorityChar c then .ok scan
  else .error .invalidCharacter

/-- The authority may end here. -/
def isComplete (scan : AuthorityScan) : Bool :=
  scan.opened == scan.closed && scan.colons ≤ 1 && !scan.endsUser && !scan.percent

end AuthorityScan

/-- The characters that end an authority. -/
def endsAuthority (c : Char) : Bool :=
  c == '/' || c == '?' || c == '#'

/-- Reads an authority: the text after it. -/
def afterAuthority (text : List Char) : Except UriFault (List Char) := do
  let scan ← (text.takeWhile fun c => !endsAuthority c).foldlM AuthorityScan.next .start
  if scan.isComplete then return text.dropWhile fun c => !endsAuthority c
  else throw .invalidAuthority

/-! ## Paths and queries -/

/-- The characters of paths; beyond the first 127 all are admitted. -/
def isPathChar (c : Char) : Bool :=
  let n := c.toNat
  n == 0x21 || (0x24 ≤ n && n ≤ 0x3b) || n == 0x3d || (0x40 ≤ n && n ≤ 0x5f)
    || (0x61 ≤ n && n ≤ 0x7a) || n == 0x7c || 0x7e ≤ n || c == '"' || c == '\x7b' || c == '\x7d'

/-- The characters of queries. -/
def isQueryChar (c : Char) : Bool :=
  let n := c.toNat
  n == 0x21 || (0x24 ≤ n && n ≤ 0x3b) || n == 0x3d || 0x3f ≤ n

/-- Reads a path and a query. -/
def checkPath (text : List Char) : Except UriFault Unit :=
  let shown := text.takeWhile (· != '#')
  let path := shown.takeWhile (· != '?')
  let query := (shown.dropWhile (· != '?')).drop 1
  if path.all isPathChar && query.all isQueryChar then .ok () else .error .invalidCharacter

/-! ## Addresses -/

/-- A text that is an authority as a whole. -/
def checkAuthority (text : List Char) : Except UriFault Unit := do
  if (← afterAuthority text).isEmpty then return () else throw .invalidCharacter

/-- A text of at least two characters that does not start as a path does. -/
def checkFull (text : List Char) : Except UriFault Unit := do
  match ← afterScheme? text with
  | none => if (← afterAuthority text).isEmpty then return () else throw .invalidFormat
  | some rest =>
      let path ← afterAuthority rest
      if path.length = rest.length then throw .invalidFormat else checkPath path

/-- Checks that a text is an address. -/
def check (text : String) : Except UriFault Unit :=
  if maxSize < text.utf8ByteSize then .error .tooLong
  else match text.toList with
    | [] => .error .empty
    | ['/'] | ['*'] => .ok ()
    | [c] => checkAuthority [c]
    | '/' :: rest => checkPath ('/' :: rest)
    | characters => checkFull characters

end Uri

end Glasshouse.Network
