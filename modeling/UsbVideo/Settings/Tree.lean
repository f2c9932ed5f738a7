import UsbVideo.Settings.Path
import UsbVideo.Toml.Date
import UsbVideo.Toml.Value

/-!
# Trees of settings

What a file and the environment say together, before it is read: a tree of tables and lists with plain
values at the leaves. `SettingTree.set` puts a value at a path and makes tables and lists on the way:

    {}                set transfer.active_urbs to 8      {transfer: {active_urbs: 8}}
    {unit: [1, 2]}    set unit[3] to 4                   {unit: [1, 2, unset, 4]}

A table put at a key adds to the one already there, and the case of letters does not matter in its keys.
What is put at a place of a list stays as it is written, with all tables in it.
-/

namespace UsbVideo

/-- What is known of a setting or of a group of them. -/
inductive SettingTree where
  /-- Nothing, at a place of a list that stands before another. -/
  | unset
  | boolean (b : Bool)
  | integer (n : Int)
  | float (x : Float)
  | text (s : String)
  | list (items : List SettingTree)
  | table (entries : List (String × SettingTree))

namespace SettingTree

/-! ### Parts -/

/-- The entries of a table. Nothing else has any. -/
def entries : SettingTree → KeyedList SettingTree
  | table entries => entries
  | _ => []

/-- The items of a list. Nothing else has any. -/
def items : SettingTree → List SettingTree
  | list items => items
  | _ => []

/-- What a table says of a key. -/
def entry (t : SettingTree) (key : String) : SettingTree := (t.entries.lookup key).getD unset

/-- A table with one entry changed. -/
def withEntry (t : SettingTree) (key : String) (value : SettingTree) : SettingTree :=
  table (t.entries.put key value)

/-! ### Putting a value somewhere -/

/-- A key in lower case. The sign for kelvin counts as the letter. -/
def foldCase (key : String) : String :=
  key.map fun c => if c = '\u212a' then 'k' else c.toLower

mutual

/-- What a value makes of the old one: a table adds its entries, anything else takes its place. -/
def replace (old : SettingTree) : SettingTree → SettingTree
  | table entries =>
    match old with
    | unset => addEntries (table []) entries
    | old => addEntries old entries
  | value => value

/-- Put entries into a table, under their keys in lower case. -/
def addEntries (t : SettingTree) : List (String × SettingTree) → SettingTree
  | [] => t
  | (key, value) :: rest =>
    let key := foldCase key
    addEntries (t.withEntry key (replace (t.entry key) value)) rest

end

/-- Change the item at a place of a list. The list grows at either end until it has that place. -/
def changeItem (change : SettingTree → SettingTree) (index : Int) (items : List SettingTree) :
    List SettingTree :=
  let index := if index < 0 then items.length + index else index
  let items := List.replicate (-index).toNat unset ++ items
  let items := items ++ List.replicate (index.toNat + 1 - items.length) unset
  items.modify index.toNat change

/-- Put a value at a path. It joins what is under a key, and it is all there is at a place. -/
def set : SettingTree → SettingPath → SettingTree → SettingTree
  | _, [], value => value
  | t, [.key name], value => t.withEntry name ((t.entry name).replace value)
  | t, .key name :: path, value => t.withEntry name ((t.entry name).set path value)
  | t, .place index :: path, value => list (changeItem (·.set path value) index t.items)

/-! ### Documents -/

/-- The key under which a table spells a date-time. -/
def dateTimeKey : String := "$__toml_private_datetime"

/-- How a table spells a date-time, if its first key says that it does. What follows is passed over. -/
def spelling? : Toml.Entries → Option Toml.Value
  | [] => none
  | (key, value) :: _ => if key = dateTimeKey then some value else none

mutual

/-- The tree of a value in a document. A date-time is its text. Nothing comes of a table that spells a
date-time badly. -/
def ofValue : Toml.Value → Option SettingTree
  | .boolean b => some (boolean b)
  | .integer n => some (integer n)
  | .float x => some (float x)
  | .text s | .dateTime s => some (text s)
  | .array _ items => (ofItems items).map list
  | .table _ entries =>
    match spelling? entries with
    | none => (ofEntries entries).map table
    | some (.text s) => if Toml.isDateTime .lenient s.toList then some (text s) else none
    | some _ => none

def ofItems : List Toml.Value → Option (List SettingTree)
  | [] => some []
  | value :: rest => do
    let value ← ofValue value
    let rest ← ofItems rest
    return value :: rest

def ofEntries : List (String × Toml.Value) → Option (List (String × SettingTree))
  | [] => some []
  | (key, value) :: rest => do
    let value ← ofValue value
    let rest ← ofEntries rest
    return (key, value) :: rest

end

/-- The tree of a document, whose own keys may be paths. -/
def ofDocument (document : Toml.Entries) : Option SettingTree := do
  match ← ofValue (.table .header document) with
  | table entries =>
    return entries.foldl (fun t (key, value) => t.set (.ofName (foldCase key)) value) (table [])
  | _ => none

end SettingTree

end UsbVideo
