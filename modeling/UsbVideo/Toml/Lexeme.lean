import UsbVideo.Toml.Date
import UsbVideo.Toml.Value

/-!
# The small parts of a TOML document

Blanks and comments, keys, strings, and the values without parts: truth values, numbers, dates. Each
reader yields what it read and the characters behind it.

A document comes here with line ends written as a single newline and without any other control
character but the tab, see `Toml.Document`; so a string need only look out for newlines and for what
ends it.
-/

namespace UsbVideo.Toml

/-- What was read, and what is left. -/
abbrev Reader (α : Type) := List Char → Option (α × List Char)

/-! ### Blanks and comments -/

def isBlank (c : Char) : Bool := c == ' ' || c == '\t'

def skipBlanks (cs : List Char) : List Char := cs.dropWhile isBlank

/-- Skip blanks, newlines and comments. -/
def skipLines (inComment : Bool) : List Char → List Char
  | [] => []
  | c :: rest =>
    if c == '\n' then skipLines false rest
    else if inComment || c == '#' then skipLines true rest
    else if isBlank c then skipLines false rest
    else c :: rest

/-- What is left behind the end of a line, if nothing but a comment stands before it. -/
def endLine (cs : List Char) : Option (List Char) :=
  match skipBlanks cs with
  | [] => some []
  | '\n' :: rest => some rest
  | '#' :: rest => some (rest.dropWhile (· != '\n'))
  | _ => none

/-! ### Strings -/

/-- The character an escape of one letter stands for. -/
def escaped : Char → Option Char
  | 'b' => some '\x08'
  | 't' => some '\t'
  | 'n' => some '\n'
  | 'f' => some '\x0c'
  | 'r' => some '\r'
  | '"' => some '"'
  | '\\' => some '\\'
  | _ => none

/-- The character with this number in hexadecimal; surrogates are none. -/
def scalarOf (digits : List Char) : Option Char :=
  let n := numberOf 16 digits
  if digits.all (isDigitOf 16) && (n < 0xD800 || (0xDFFF < n && n < 0x110000)) then
    some (.ofNat n)
  else none

/-- Put a character in front of what a reader read. -/
def prepend (c : Option Char) (read : Option (List Char × List Char)) :
    Option (List Char × List Char) := do
  let c ← c
  let (text, rest) ← read
  return (c :: text, rest)

/-- A string with escapes on one line, behind its opening quote. -/
def basicString : Reader (List Char)
  | '"' :: rest => some ([], rest)
  | '\\' :: 'u' :: a :: b :: c :: d :: rest => prepend (scalarOf [a, b, c, d]) (basicString rest)
  | '\\' :: 'U' :: a :: b :: c :: d :: e :: f :: g :: h :: rest =>
    prepend (scalarOf [a, b, c, d, e, f, g, h]) (basicString rest)
  | '\\' :: c :: rest => prepend (escaped c) (basicString rest)
  | '\n' :: _ => none
  | c :: rest => prepend (some c) (basicString rest)
  | [] => none

/-- A string without escapes on one line, behind its opening quote. -/
def literalString : Reader (List Char)
  | '\'' :: rest => some ([], rest)
  | '\n' :: _ => none
  | c :: rest => prepend (some c) (literalString rest)
  | [] => none

/-- A string with escapes over several lines. It may end in two more quotes of its own. A backslash
behind which a line ends swallows blanks and newlines, which `trimming` says. -/
def basicLines (trimming : Bool) : Reader (List Char)
  | '"' :: '"' :: '"' :: '"' :: '"' :: rest => some (['"', '"'], rest)
  | '"' :: '"' :: '"' :: '"' :: rest => some (['"'], rest)
  | '"' :: '"' :: '"' :: rest => some ([], rest)
  | '\\' :: 'u' :: a :: b :: c :: d :: rest =>
    prepend (scalarOf [a, b, c, d]) (basicLines false rest)
  | '\\' :: 'U' :: a :: b :: c :: d :: e :: f :: g :: h :: rest =>
    prepend (scalarOf [a, b, c, d, e, f, g, h]) (basicLines false rest)
  | '\\' :: c :: rest =>
    if (skipBlanks (c :: rest)).head? == some '\n' then basicLines true rest
    else prepend (escaped c) (basicLines false rest)
  | c :: rest =>
    if trimming && (isBlank c || c == '\n') then basicLines true rest
    else prepend (some c) (basicLines false rest)
  | [] => none

/-- A string without escapes over several lines. -/
def literalLines : Reader (List Char)
  | '\'' :: '\'' :: '\'' :: '\'' :: '\'' :: rest => some (['\'', '\''], rest)
  | '\'' :: '\'' :: '\'' :: '\'' :: rest => some (['\''], rest)
  | '\'' :: '\'' :: '\'' :: rest => some ([], rest)
  | c :: rest => prepend (some c) (literalLines rest)
  | [] => none

/-- The newline behind the opening quotes of a string over several lines is no part of it. -/
def dropNewline : List Char → List Char
  | '\n' :: rest => rest
  | cs => cs

/-! ### Keys -/

def isBareKey (c : Char) : Bool := c.isAlphanum || c == '_' || c == '-'

/-- One key, bare or in quotes. -/
def key : Reader String
  | '"' :: rest => (basicString rest).map fun (text, rest) => (.ofList text, rest)
  | '\'' :: rest => (literalString rest).map fun (text, rest) => (.ofList text, rest)
  | cs =>
    let bare := cs.takeWhile isBareKey
    if bare.isEmpty then none else some (.ofList bare, cs.dropWhile isBareKey)

/-- Keys with dots between them, which may have blanks around them. -/
def dottedKeys (cs : List Char) : Option (List String × List Char) := do
  let (first, rest) ← key (skipBlanks cs)
  match skipBlanks rest with
  | '.' :: rest =>
    if rest.length < cs.length then
      let (more, rest) ← dottedKeys rest
      return (first :: more, rest)
    else none
  | rest => return ([first], rest)
termination_by cs.length

/-- How deep a document may nest: the keys of a dotted key, and the arrays and inline tables that may
be open at a time. -/
def maxNesting : Nat := 79

/-- A dotted key of no more keys than the limit. -/
def dottedKey : Reader (List String) := fun cs =>
  (dottedKeys cs).filter fun (path, _) => path.length ≤ maxNesting

/-! ### Values without parts -/

/-- What a value that is no string may consist of. -/
def isScalarChar (c : Char) : Bool :=
  c.isAlphanum || c == '+' || c == '-' || c == '_' || c == '.' || c == ':'

/-- An integer in a base of its own: `0x`, `0o` or `0b` and digits. -/
def prefixedInteger? : List Char → Option Int
  | '0' :: 'x' :: digits => read 16 digits
  | '0' :: 'o' :: digits => read 8 digits
  | '0' :: 'b' :: digits => read 2 digits
  | _ => none
where
  read (base : Nat) (digits : List Char) : Option Int := do
    let digits ← groupedDigits base digits
    int64? (numberOf base digits)

/-- The digits before the point; a leading zero stands alone. -/
def wholeDigits (cs : List Char) : Option (List Char) := do
  let digits ← groupedDigits 10 cs
  if digits.head? == some '0' && digits.length ≠ 1 then none else some digits

/-- A decimal number: an integer, or a float if it has a fraction or an exponent. -/
def decimalNumber? (cs : List Char) : Option Value := do
  let (negative, cs) := splitSign cs
  let parts := DecimalParts.split cs
  let whole ← wholeDigits parts.whole
  if parts.fraction.isNone && parts.exponent.isNone then
    let n ← int64? (signed negative (numberOf 10 whole))
    return .integer n
  else
    let fraction ← match parts.fraction with
      | none => some []
      | some cs => groupedDigits 10 cs
    let exponent ← match parts.exponent with
      | none => some 0
      | some cs => exponentOf (groupedDigits 10) cs
    let x := floatOfDecimal negative (whole ++ fraction) (exponent - fraction.length)
    if x == 1 / 0 then none else return .float x

/-- Infinity, and what is no number. -/
def specialFloat? (cs : List Char) : Option Value :=
  let (negative, cs) := splitSign cs
  let x? : Option Float :=
    if cs = ['i', 'n', 'f'] then some (1 / 0)
    else if cs = ['n', 'a', 'n'] then some (0 / 0)
    else none
  x?.map fun x => .float (if negative then -x else x)

/-- The value a word stands for. -/
def scalar? (word : List Char) : Option Value :=
  if word = "true".toList then some (.boolean true)
  else if word = "false".toList then some (.boolean false)
  else if isDateTime .strict word then some (.dateTime (.ofList word))
  else
    match prefixedInteger? word, specialFloat? word with
    | some n, _ => some (.integer n)
    | none, some x => some x
    | none, none => decimalNumber? word

/-- A word. A blank between a date and a time is a part of it. -/
def scalarWord (cs : List Char) : List Char × List Char :=
  let word := cs.takeWhile isScalarChar
  let rest := cs.dropWhile isScalarChar
  match rest with
  | ' ' :: behind =>
    let time := behind.takeWhile isScalarChar
    if isDate word && isDateTime .strict (word ++ ' ' :: time) then
      (word ++ ' ' :: time, behind.dropWhile isScalarChar)
    else (word, rest)
  | _ => (word, rest)

/-- A value without parts. -/
def scalar : Reader Value
  | '"' :: '"' :: '"' :: rest =>
    (basicLines false (dropNewline rest)).map fun (text, rest) => (.text (.ofList text), rest)
  | '\'' :: '\'' :: '\'' :: rest =>
    (literalLines (dropNewline rest)).map fun (text, rest) => (.text (.ofList text), rest)
  | '"' :: rest => (basicString rest).map fun (text, rest) => (.text (.ofList text), rest)
  | '\'' :: rest => (literalString rest).map fun (text, rest) => (.text (.ofList text), rest)
  | cs =>
    let (word, rest) := scalarWord cs
    (scalar? word).map fun value => (value, rest)

end UsbVideo.Toml
