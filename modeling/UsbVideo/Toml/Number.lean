/-!
# Numbers in text

Integers and floating-point numbers as people write them: digits of a base, grouped by single
underscores where the format allows it, a sign, a fraction and an exponent. `floatOfDecimal` is the
double nearest to a decimal.
-/

namespace UsbVideo.Toml

/-! ### Digits -/

/-- The value of a digit, letters of either case included. -/
def digitValue (c : Char) : Nat :=
  if c.isDigit then c.toNat - '0'.toNat else c.toLower.toNat - 'a'.toNat + 10

/-- Whether a character is a digit of a base up to sixteen. -/
def isDigitOf (base : Nat) (c : Char) : Bool :=
  (c.isDigit || ('a' ≤ c.toLower && c.toLower ≤ 'f')) && digitValue c < base

/-- The number a row of digits stands for. -/
def numberOf (base : Nat) (digits : List Char) : Nat :=
  digits.foldl (fun n c => n * base + digitValue c) 0

/-- Digits with single underscores between them; yields the digits. -/
def groupedDigits (base : Nat) : List Char → Option (List Char)
  | [] => none
  | c :: rest =>
    if isDigitOf base c then
      match rest with
      | [] => some [c]
      | '_' :: rest => (groupedDigits base rest).map (c :: ·)
      | rest => (groupedDigits base rest).map (c :: ·)
    else none

example : groupedDigits 10 ['1', '_', '0', '0'] = some ['1', '0', '0'] := by decide

example : groupedDigits 10 ['1', '_', '_', '0'] = none := by decide

example : groupedDigits 10 ['1', '0', '_'] = none := by decide

/-- One digit or more, and nothing else. -/
def plainDigits (cs : List Char) : Option (List Char) :=
  if cs.isEmpty || cs.any (!·.isDigit) then none else some cs

/-- Whether a sign is a minus, and what follows it. -/
def splitSign : List Char → Bool × List Char
  | '-' :: rest => (true, rest)
  | '+' :: rest => (false, rest)
  | cs => (false, cs)

def signed (negative : Bool) (n : Nat) : Int := if negative then -(n : Int) else n

/-- An integer of 64 bits, if the number is one. -/
def int64? (n : Int) : Option Int := 
  if -0x8000000000000000 ≤ n ∧ n < 0x8000000000000000 then some n else none

/-! ### Floating-point numbers -/

/-- The double nearest to `digits * 10 ^ exponent`. Beyond the range of doubles the answer does not
depend on how far beyond. -/
def floatOfDecimal (negative : Bool) (digits : List Char) (exponent : Int) : Float :=
  let magnitude := numberOf 10 digits
  let top := (digits.dropWhile (· == '0')).length + exponent
  let x : Float :=
    if magnitude = 0 then 0
    else if 400 < top then 1 / 0
    else if top < -400 then 0
    else if exponent < 0 then .ofScientific magnitude true exponent.natAbs
    else .ofScientific magnitude false exponent.natAbs
  if negative then -x else x

/-- The parts of a decimal: before the point, behind it, and the exponent, where they are written. -/
structure DecimalParts where
  whole : List Char
  fraction : Option (List Char)
  exponent : Option (List Char)

/-- Cut an unsigned decimal at its point and its exponent mark. -/
def DecimalParts.split (cs : List Char) : DecimalParts :=
  let isMark (c : Char) : Bool := c == 'e' || c == 'E'
  let front := cs.takeWhile (!isMark ·)
  let tailOf : List Char → Option (List Char)
    | [] => none
    | _ :: rest => some rest
  { whole := front.takeWhile (· != '.')
    fraction := tailOf (front.dropWhile (· != '.'))
    exponent := tailOf (cs.dropWhile (!isMark ·)) }

/-- The exponent behind its mark, read by `digits`. -/
def exponentOf (digits : List Char → Option (List Char)) (cs : List Char) : Option Int :=
  let (negative, cs) := splitSign cs
  (digits cs).map fun ds => signed negative (numberOf 10 ds)

end UsbVideo.Toml
