import Glasshouse.Service.Environment

/-!
# Settings as variables

How the values of settings are written into an environment: a variable's name is the prefix and the
setting's name in letters of any case, and its value is the text itself, a decimal number or a truth
value. `Environment.Renders` says that an environment holds some of the settings in this way and
nothing that could be mistaken for another.
-/

namespace Glasshouse.Service

open Text

/-- The text of a value. -/
def Form.render : (form : Form) → form.Value → String
  | .text, value => value
  | .count, value => toString value.toNat
  | .port, value => toString value.toNat
  | .flag, value => if value then "true" else "false"

/-- A variable's name stands for a setting. -/
def Setting.isNamedBy (setting : Setting) (variableName : String) : Bool :=
  lowerCase variableName == variablePrefix ++ setting.name

/-- A variable's name stands for no setting and for no part of one. -/
def IsForeign (variableName : String) : Prop :=
  ∀ rest : List Char, (lowerCase variableName).toList = variablePrefix.toList ++ rest →
    (∀ setting : Setting, rest ≠ setting.name.toList) ∧ '.' ∉ rest ∧ '[' ∉ rest

/-- The environment holds the values of the chosen settings, each in exactly one variable, and all
its other variables are foreign. -/
structure Environment.Renders (environment : Environment) (settings : Settings)
    (chosen : Setting → Prop) : Prop where
  unique : ∀ setting, chosen setting → ∃ name,
    environment.filter (fun entry => setting.isNamedBy entry.1) =
      [(name, setting.form.render (settings setting))]
  covered : ∀ entry ∈ environment,
    (∃ setting, chosen setting ∧ setting.isNamedBy entry.1 = true) ∨ IsForeign entry.1

end Glasshouse.Service
