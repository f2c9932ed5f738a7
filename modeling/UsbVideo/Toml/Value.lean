import UsbVideo.KeyedList

/-!
# Values of a TOML document

A `Value` is what a key of a settings file stands for. A table remembers how it came about, since that
decides who may still add to it: `Entries.descend` walks a path of keys through tables that are open to
it and makes the ones that are missing.

    [a.b]        a is implied, b has a header
    c.d = 1      c is dotted
    e = { }      e is inline
-/

namespace UsbVideo.Toml

/-- How a table came about. -/
inductive Origin where
  /-- By a header of its own. -/
  | header
  /-- As a step of a longer header. -/
  | implied
  /-- As a step of a dotted key. -/
  | dotted
  /-- Written out in braces; nobody may add to it. -/
  | inline
  deriving DecidableEq

/-- A value. -/
inductive Value where
  | boolean (b : Bool)
  | integer (n : Int)
  | float (x : Float)
  | text (s : String)
  /-- A date, a time of day or both, as it is written. -/
  | dateTime (s : String)
  /-- An array of tables grows with every header of its own. -/
  | array (growing : Bool) (items : List Value)
  | table (origin : Origin) (entries : List (String × Value))

/-- The keys of a table with their values. -/
abbrev Entries := KeyedList Value

namespace Entries

/-- Whether a path may lead into a table. A dotted key does not reach into a table with a header. -/
def admits (byDots : Bool) : Origin → Bool
  | .header => !byDots
  | .implied | .dotted => true
  | .inline => false

/-- Change the table at the end of a path. A growing array stands for its last table. -/
def descend (byDots : Bool) (change : Origin → Entries → Option Entries) :
    List String → Origin → Entries → Option Entries
  | [], origin, entries => change origin entries
  | key :: path, _, entries =>
    match entries.lookup key with
    | none => do
      let origin := if byDots then Origin.dotted else .implied
      let inner ← descend byDots change path origin []
      return entries.put key (.table origin inner)
    | some (.table origin inner) =>
      if admits byDots origin then do
        let inner ← descend byDots change path origin inner
        return entries.put key (.table origin inner)
      else none
    | some (.array true items) =>
      match items.getLast? with
      | some (.table origin inner) => do
        let inner ← descend byDots change path origin inner
        return entries.put key (.array true (items.dropLast ++ [.table origin inner]))
      | _ => none
    | some _ => none

/-- Add a key to a table; `dotted` says whether a dotted key led there, which only opens tables that
dotted keys have made. No key is given twice. -/
def add (dotted : Bool) (key : String) (value : Value) (origin : Origin) (entries : Entries) :
    Option Entries :=
  if (dotted && origin != .dotted) || (entries.lookup key).isSome then none
  else some (entries.put key value)

/-- Add a dotted key to a table. -/
def assign (path : List String) (value : Value) (origin : Origin) (entries : Entries) :
    Option Entries :=
  match path.getLast? with
  | none => none
  | some key =>
    let front := path.dropLast
    descend true (add (!front.isEmpty) key value) front origin entries

/-- The header of a table, which may be implied already but has no other header. It comes behind the
keys that are there. -/
def openTable (key : String) (_ : Origin) (entries : Entries) : Option Entries :=
  match entries.lookup key with
  | none => some (entries.put key (.table .header []))
  | some (.table .implied inner) => some (entries.eraseP (·.1 == key) ++ [(key, .table .header inner)])
  | some _ => none

/-- The header of one more table of a growing array. -/
def growArray (key : String) (_ : Origin) (entries : Entries) : Option Entries :=
  match entries.lookup key with
  | none => some (entries.put key (.array true [.table .header []]))
  | some (.array true items) => some (entries.put key (.array true (items ++ [.table .header []])))
  | some _ => none

end Entries

end UsbVideo.Toml
