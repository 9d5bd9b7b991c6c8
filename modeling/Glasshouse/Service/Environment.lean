import Glasshouse.Service.Setting
import Glasshouse.Text.Decimal
import Glasshouse.Text.LowerCase
import Glasshouse.Text.Quoted

/-!
# Settings from the environment

Every variable whose name in lower case starts with the service's prefix assigns the setting that
the rest of its name denotes. A rest can be a path: a step by key or by index after the setting's
name makes the setting a map or a sequence, which no setting can be. Names of no setting are
ignored, and of several variables for one setting the last one counts.
-/

namespace Glasshouse.Service

open Text

/-- The variables of a process, in order; each name stands once. -/
abbrev Environment := List (String × String)

/-- The environment with a variable set, in the place of the one of that name if there is one. -/
def Environment.set (environment : Environment) (name value : String) : Environment :=
  if environment.any fun entry => entry.1 == name then
    environment.map fun entry => if entry.1 = name then (name, value) else entry
  else environment ++ [(name, value)]

/-! ## Paths -/

/-- How far a path has been read. -/
inductive PathState where
  /-- A key begins here. -/
  | keyStart
  /-- Inside a key. -/
  | key
  /-- Between the bracket and the index. -/
  | indexStart
  /-- After the sign of an index. -/
  | signed
  /-- Inside an index, with the number so far. -/
  | index (negative : Bool) (magnitude : Nat)
  /-- Between an index and the bracket. -/
  | indexEnd
  /-- After the closing bracket. -/
  | closed
deriving DecidableEq, Repr

/-- The characters of keys. -/
def isKeyChar (c : Char) : Bool :=
  c.isAlphanum || c == '_' || c == '-' || c == ' '

namespace PathState

/-- The start of a further step. -/
def opening (c : Char) : Option PathState :=
  if c = '.' then some keyStart else if c = '[' then some indexStart else none

/-- Blanks around an index. -/
def isBlank (c : Char) : Bool :=
  c == ' ' || c == '\t'

/-- An index is a number of 64 bits in two's complement. -/
def inRange (negative : Bool) (magnitude : Nat) : Bool :=
  if negative then magnitude ≤ Nat.pow 2 63 else magnitude < Nat.pow 2 63

/-- Reads one character. -/
def next : PathState → Char → Option PathState
  | keyStart, c => if isKeyChar c then some key else none
  | key, c => if isKeyChar c then some key else opening c
  | indexStart, c =>
      if isBlank c then some indexStart
      else if c = '-' then some signed
      else (digit? c).map (index false)
  | signed, c => (digit? c).map (index true)
  | index negative magnitude, c =>
      match digit? c with
      | some d => some (index negative (10 * magnitude + d))
      | none =>
          if !inRange negative magnitude then none
          else if c = ']' then some closed
          else if isBlank c then some indexEnd
          else none
  | indexEnd, c => if c = ']' then some closed else if isBlank c then some indexEnd else none
  | closed, c => opening c

/-- A path may end here. -/
def isComplete : PathState → Bool
  | key | closed => true
  | _ => false

end PathState

/-- A text is a path. -/
def isPath (text : List Char) : Bool :=
  (text.foldlM PathState.next .keyStart).any PathState.isComplete

/-! ## Assignments -/

/-- What a variable assigns. -/
inductive Content where
  | text (value : String)
  /-- A map, of which the variable sets one key. -/
  | map
  /-- A sequence, of which the variable sets one element. -/
  | sequence
deriving DecidableEq, Repr

/-- The start of the names of all variables that count, in lower case. -/
def variablePrefix : String := "hydroponics_"

/-- The assignment that the rest of a variable's name stands for. A rest that is no path is a name
as a whole. -/
def assignmentOf (rest : List Char) (value : String) : String × Content :=
  if isPath rest then
    let root := String.ofList (rest.takeWhile isKeyChar)
    match rest.dropWhile isKeyChar with
    | [] => (root, .text value)
    | c :: _ => (root, if c = '.' then .map else .sequence)
  else (String.ofList rest, .text value)

/-- The assignment of a variable, if its name has the prefix. -/
def assignment? (entry : String × String) : Option (String × Content) :=
  let name := (lowerCase entry.1).toList
  if variablePrefix.toList.isPrefixOf name then
    some (assignmentOf (name.drop variablePrefix.length) entry.2)
  else none

/-- What the environment assigns to a name: the last variable for it counts. -/
def Environment.content? (environment : Environment) (name : String) : Option Content :=
  (environment.filterMap assignment?).reverse.lookup name

/-! ## Values -/

/-- Why settings cannot be taken from an environment. -/
inductive SettingFault where
  /-- The text is not a number. -/
  | notNumber (setting : Setting) (value : String)
  /-- The text is not a truth value. -/
  | notFlag (setting : Setting) (value : String)
  /-- The number does not fit the setting. -/
  | tooLarge (setting : Setting) (number : Nat)
  /-- The setting is made a map or a sequence. -/
  | notSingle (setting : Setting) (content : Content)
deriving DecidableEq, Repr

/-- What is expected of the text for a form. -/
def Form.expectation : Form → String
  | text => "a string"
  | count | port => "an integer"
  | flag => "a boolean"

/-- The words for what a setting was made. -/
def Content.words : Content → String
  | text value => "string " ++ quoted value
  | map => "map"
  | sequence => "sequence"

/-- The text of a fault. -/
def SettingFault.message : SettingFault → String
  | notNumber setting value =>
      "invalid type: " ++ (Content.text value).words ++ ", expected an integer for key \x60"
        ++ setting.name ++ "\x60 in the environment"
  | notFlag setting value =>
      "invalid type: " ++ (Content.text value).words ++ ", expected a boolean for key \x60"
        ++ setting.name ++ "\x60 in the environment"
  | tooLarge setting number =>
      "invalid type: 64-bit unsigned integer \x60" ++ toString number
        ++ "\x60, expected an unsigned 16 bit integer for key \x60" ++ setting.name ++ "\x60"
  | notSingle setting content =>
      "invalid type: " ++ content.words ++ ", expected " ++ setting.form.expectation
        ++ " for key \x60" ++ setting.name ++ "\x60"

/-- The words for true and for false. -/
def flagWord? (word : String) : Option Bool :=
  if word ∈ ["true", "on", "yes"] then some true
  else if word ∈ ["false", "off", "no"] then some false
  else none

/-- The number that a text stands for; the words for truth values count as one and zero. -/
def number? (value : String) : Option Nat :=
  match flagWord? (lowerCase value) with
  | some flag => some flag.toNat
  | none => unsigned? 64 value

/-- The truth value that a text in lower case stands for. -/
def flag? (word : String) : Option Bool :=
  if word = "1" then some true else if word = "0" then some false else flagWord? word

/-- Reads the value of a setting of some form. -/
def readText (setting : Setting) : (form : Form) → String → Except SettingFault form.Value
  | .text, value => .ok value
  | .count, value =>
      match number? value with
      | some number => .ok (UInt64.ofNat number)
      | none => .error (.notNumber setting value)
  | .port, value =>
      match number? value with
      | some number =>
          if number < Nat.pow 2 16 then .ok (UInt16.ofNat number) else .error (.tooLarge setting number)
      | none => .error (.notNumber setting value)
  | .flag, value =>
      let word := lowerCase value
      match flag? word with
      | some flag => .ok flag
      | none => .error (.notFlag setting word)

/-- The value that an environment gives a setting. -/
def Environment.read (environment : Environment) (setting : Setting) :
    Except SettingFault setting.form.Value :=
  match environment.content? setting.name with
  | none => .ok setting.initial
  | some (.text value) => readText setting setting.form value
  | some content => .error (.notSingle setting content)

/-- The fault of a value that was not read. -/
def faultOf? {α : Type} : Except SettingFault α → Option SettingFault
  | .error fault => some fault
  | .ok _ => none

/-- The settings of an environment, or the first fault in the order of the settings. -/
def Environment.settings (environment : Environment) : Except SettingFault Settings :=
  match Setting.all.findSome? fun setting => faultOf? (environment.read setting) with
  | some fault => .error fault
  | none => .ok fun setting => (environment.read setting).toOption.getD setting.initial

end Glasshouse.Service
