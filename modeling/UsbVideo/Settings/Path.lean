import UsbVideo.Toml.Number

/-!
# Paths of settings

A setting has a path: names with dots between them, and behind a name places of a list in brackets:

    transfer.active_urbs        stream.control_unit[2]        stream.control_unit[-1]

`SettingPath.ofName` reads a path. Every text is one, since what is not written like this is a single
name.
-/

namespace UsbVideo

open Toml

/-- A step of a path. -/
inductive SettingStep where
  | key (name : String)
  /-- A place in a list; a negative one counts from the end. -/
  | place (index : Int)
  deriving DecidableEq

/-- The steps to a setting. -/
abbrev SettingPath := List SettingStep

/-- What a name in a path consists of. -/
def isPathChar (c : Char) : Bool := c.isAlphanum || c == ' ' || c == '_' || c == '-'

/-- The place that stands in brackets, of which the opening one is gone. -/
def SettingStep.ofPlace (text : String) : Option SettingStep :=
  let isBlank (c : Char) : Bool := c == ' ' || c == '\t'
  let cs := text.toList.dropWhile isBlank
  let negative := cs.head? == some '-'
  let cs := if negative then cs.tail else cs
  if (cs.dropWhile Char.isDigit).dropWhile isBlank ≠ [']'] then none
  else do
    let digits ← plainDigits (cs.takeWhile Char.isDigit)
    let index ← int64? (signed negative (numberOf 10 digits))
    return .place index

namespace SettingPath

/-- A name and the places behind it. -/
def ofSegment (text : String) : Option SettingPath :=
  match text.splitOn "[" with
  | [] => none
  | name :: places =>
    if name.isEmpty || name.any (!isPathChar ·) then none
    else (places.mapM SettingStep.ofPlace).map (.key name :: ·)

/-- The path a text spells. -/
def ofName (text : String) : SettingPath :=
  match (text.splitOn ".").mapM ofSegment with
  | some segments => segments.flatten
  | none => [.key text]

end SettingPath

end UsbVideo
