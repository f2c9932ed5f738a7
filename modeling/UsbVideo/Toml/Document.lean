import UsbVideo.Toml.Lexeme

/-!
# TOML documents

A document is a list of statements, each of which adds to one table:

    text  ──statements──▶  List Statement  ──build──▶  Entries

A statement gives a key of the current table a value, or makes another table the current one. `parse`
is both steps; it yields nothing for a text that is no document.
-/

namespace UsbVideo.Toml

/-! ### Arrays and inline tables -/

/-- The items of an array behind its opening bracket. The last may be followed by a comma. -/
def arrayItems (item : Reader Value) (cs : List Char) : Option (List Value × List Char) :=
  match skipLines false cs with
  | ']' :: rest => some ([], rest)
  | start => do
    let (first, rest) ← item start
    match skipLines false rest with
    | ']' :: rest => return ([first], rest)
    | ',' :: rest =>
      if rest.length < cs.length then
        let (more, rest) ← arrayItems item rest
        return (first :: more, rest)
      else none
    | _ => none
termination_by cs.length

/-- A key, an equals sign and a value. -/
def assignment (item : Reader Value) (cs : List Char) :
    Option ((List String × Value) × List Char) := do
  let (path, rest) ← dottedKey cs
  match rest with
  | '=' :: rest =>
    let (value, rest) ← item (skipBlanks rest)
    return ((path, value), rest)
  | _ => none

/-- The assignments of an inline table behind its opening brace: on one line, one at least. -/
def inlineAssignments (item : Reader Value) (cs : List Char) :
    Option (List (List String × Value) × List Char) := do
  let (first, rest) ← assignment item cs
  match skipBlanks rest with
  | '}' :: rest => return ([first], rest)
  | ',' :: rest =>
    if rest.length < cs.length then
      let (more, rest) ← inlineAssignments item rest
      return (first :: more, rest)
    else none
  | _ => none
termination_by cs.length

/-- A table of assignments, none of which opens what another has written. -/
def inlineTable (assignments : List (List String × Value)) : Option Value := do
  let entries ← assignments.foldlM
    (fun entries (path, value) => Entries.assign path value .inline entries) []
  return .table .inline entries

/-- A value within which `nesting` arrays and inline tables may be open at a time. -/
def value : (nesting : Nat) → Reader Value
  | 0 => scalar
  | nesting + 1 => fun cs =>
    match cs with
    | '[' :: rest =>
      (arrayItems (value nesting) rest).map fun (items, rest) => (.array false items, rest)
    | '{' :: rest =>
      match skipBlanks rest with
      | '}' :: rest => some (.table .inline [], rest)
      | rest => do
        let (assignments, rest) ← inlineAssignments (value nesting) rest
        let table ← inlineTable assignments
        return (table, rest)
    | _ => scalar cs

/-! ### Statements -/

/-- A statement of a document. -/
inductive Statement where
  /-- `a.b = 1` -/
  | assign (path : List String) (value : Value)
  /-- `[a.b]` -/
  | table (path : List String)
  /-- `[[a.b]]` -/
  | tableOfArray (path : List String)

/-- The statement at the start of a line. -/
def statement : Reader Statement
  | '[' :: '[' :: rest => do
    let (path, rest) ← dottedKey rest
    match rest with
    | ']' :: ']' :: rest => return (.tableOfArray path, rest)
    | _ => none
  | '[' :: rest => do
    let (path, rest) ← dottedKey rest
    match rest with
    | ']' :: rest => return (.table path, rest)
    | _ => none
  | cs => do
    let ((path, value), rest) ← assignment (value maxNesting) cs
    return (.assign path value, rest)

/-- One statement a line, up to the end of the text. -/
def statements (cs : List Char) : Option (List Statement) :=
  match skipLines false cs with
  | [] => some []
  | start => do
    let (first, rest) ← statement start
    let rest ← endLine rest
    if rest.length < cs.length then
      let more ← statements rest
      return first :: more
    else none
termination_by cs.length

/-! ### Building the tables -/

/-- A document under construction. -/
structure Draft where
  root : Entries := []
  /-- The path of the table that assignments go to. -/
  current : List String := []

namespace Draft

/-- Open the table at the end of a path by its header. -/
def enter (d : Draft) (path : List String) (header : String → Origin → Entries → Option Entries) :
    Option Draft := do
  let key ← path.getLast?
  let root ← Entries.descend false (header key) path.dropLast .header d.root
  return { root, current := path }

/-- Carry out a statement. -/
def apply (d : Draft) : Statement → Option Draft
  | .assign path value => do
    let root ← Entries.descend false (Entries.assign path value) d.current .header d.root
    return { d with root }
  | .table path => d.enter path Entries.openTable
  | .tableOfArray path => d.enter path Entries.growArray

end Draft

/-- The tables a list of statements describes. -/
def build (statements : List Statement) : Option Entries := do
  let draft ← statements.foldlM Draft.apply {}
  return draft.root

/-! ### The text -/

/-- Write every line end as a newline. -/
def joinLineEnds : List Char → List Char
  | '\r' :: '\n' :: rest => '\n' :: joinLineEnds rest
  | c :: rest => c :: joinLineEnds rest
  | [] => []

/-- Whether a document may hold a character once its line ends are newlines. -/
def isAllowed (c : Char) : Bool := c == '\t' || c == '\n' || (' ' ≤ c && c != '\x7f')

/-- The mark that says how a text is encoded is no part of it. -/
def dropEncodingMark : List Char → List Char
  | '\ufeff' :: rest => rest
  | cs => cs

/-- The tables of a document. -/
def parse (text : String) : Option Entries :=
  let cs := joinLineEnds (dropEncodingMark text.toList)
  if cs.all isAllowed then do
    let statements ← statements cs
    build statements
  else none

end UsbVideo.Toml
