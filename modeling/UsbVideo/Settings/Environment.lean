import UsbVideo.Settings.Tree

/-!
# Settings from the environment

A variable whose name starts with `UVCSTREAM__` gives one setting. Behind that the name is a path, with
two underscores for a dot, and case does not matter, so `UVCSTREAM__TRANSFER__ACTIVE_URBS=64` is the
setting `transfer.active_urbs`. The text is taken for a truth value, an integer or a float where it
can be.
-/

namespace UsbVideo

open Toml

/-- What the names of all settings start with. -/
def settingPrefix : String := "uvcstream__"

/-- The path of the setting a variable gives, if it gives one. -/
def variablePath (name : String) : Option SettingPath :=
  let name := SettingTree.foldCase name
  if name.startsWith settingPrefix then
    let words := (name.drop settingPrefix.length).toString.splitOn "__"
    some (.ofName (String.intercalate "." words))
  else none

/-- An integer with a sign in front or not. -/
def plainInteger? (cs : List Char) : Option Int := do
  let (negative, cs) := splitSign cs
  let digits ← plainDigits cs
  int64? (signed negative (numberOf 10 digits))

/-- A float: a decimal with digits on one side of the point at least, infinity, or what is no number. -/
def plainFloat? (cs : List Char) : Option Float := do
  let (negative, cs) := splitSign cs
  let word := String.ofList (cs.map Char.toLower)
  if word = "inf" ∨ word = "infinity" then return if negative then -(1 / 0) else 1 / 0
  else if word = "nan" then return 0 / 0
  else
    let parts := DecimalParts.split cs
    let digits ← plainDigits (parts.whole ++ parts.fraction.getD [])
    let exponent ← match parts.exponent with
      | none => some 0
      | some cs => exponentOf plainDigits cs
    return floatOfDecimal negative digits (exponent - (parts.fraction.getD []).length)

/-- The value of a variable. -/
def variableValue (text : String) : SettingTree :=
  if text.toLower = "true" then .boolean true
  else if text.toLower = "false" then .boolean false
  else
    match plainInteger? text.toList, plainFloat? text.toList with
    | some n, _ => .integer n
    | none, some x => .float x
    | none, none => .text text

/-- Put the settings of the environment over those of `t`. -/
def SettingTree.overlay (t : SettingTree) (environment : List (String × String)) : SettingTree :=
  environment.foldl
    (fun t (name, value) =>
      match variablePath name with
      | some path => t.set path (variableValue value)
      | none => t)
    t

end UsbVideo
