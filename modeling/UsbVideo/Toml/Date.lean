import UsbVideo.Toml.Number

/-!
# Dates and times

A TOML document may hold a date, a time, or both with an offset from universal time. Settings have no
use for them, so only whether the text is one matters here: `isDateTime`.

    1979-05-27        07:32:00.5        1979-05-27T07:32:00        1979-05-27 07:32:00Z
-/

namespace UsbVideo.Toml

/-- How far hours and offsets may go. -/
inductive Clock where
  /-- The hours of a day are 0 to 23, and those of an offset too. -/
  | strict
  /-- A day has an hour 24, and an offset is any number of hours and minutes that make up a day at
  most. -/
  | lenient
  deriving DecidableEq

/-- A two-digit number from `least` to `most`. -/
def twoDigits (least most : Nat) : List Char → Bool
  | [a, b] => a.isDigit && b.isDigit && least ≤ numberOf 10 [a, b] && numberOf 10 [a, b] ≤ most
  | _ => false

/-- The days of a month. -/
def daysIn (year month : Nat) : Nat :=
  if month = 2 then if year % 4 = 0 ∧ (year % 100 ≠ 0 ∨ year % 400 = 0) then 29 else 28
  else if month = 4 ∨ month = 6 ∨ month = 9 ∨ month = 11 then 30
  else 31

/-- A day of the calendar: `YYYY-MM-DD`. -/
def isDate (cs : List Char) : Bool :=
  match cs with
  | [y₁, y₂, y₃, y₄, '-', m₁, m₂, '-', d₁, d₂] =>
    let year := [y₁, y₂, y₃, y₄]
    year.all Char.isDigit && twoDigits 1 12 [m₁, m₂] &&
      twoDigits 1 (daysIn (numberOf 10 year) (numberOf 10 [m₁, m₂])) [d₁, d₂]
  | _ => false

/-- The last hour of a day. -/
def Clock.lastHour : Clock → Nat
  | strict => 23
  | lenient => 24

/-- A time of day, `HH:MM:SS` and perhaps a fraction; a minute may have a leap second. -/
def isTime (clock : Clock) (cs : List Char) : Bool :=
  match cs with
  | h₁ :: h₂ :: ':' :: m₁ :: m₂ :: ':' :: s₁ :: s₂ :: fraction =>
    twoDigits 0 clock.lastHour [h₁, h₂] && twoDigits 0 59 [m₁, m₂] && twoDigits 0 60 [s₁, s₂] &&
      match fraction with
      | [] => true
      | '.' :: digits => (plainDigits digits).isSome
      | _ => false
  | _ => false

/-- Hours and minutes an offset may have. -/
def Clock.admitsOffset (clock : Clock) (hours minutes : Nat) : Bool :=
  match clock with
  | strict => hours ≤ 23 && minutes ≤ 59
  | lenient => hours * 60 + minutes ≤ 24 * 60

/-- An offset from universal time: `Z` or `+HH:MM`. -/
def isOffset (clock : Clock) : List Char → Bool
  | ['Z'] | ['z'] => true
  | [sign, h₁, h₂, ':', m₁, m₂] =>
    (sign == '+' || sign == '-') && [h₁, h₂, m₁, m₂].all Char.isDigit &&
      clock.admitsOffset (numberOf 10 [h₁, h₂]) (numberOf 10 [m₁, m₂])
  | _ => false

/-- A time of day, and perhaps an offset. -/
def isOffsetTime (clock : Clock) (cs : List Char) : Bool :=
  let inTime (c : Char) : Bool := c.isDigit || c == ':' || c == '.'
  let offset := cs.dropWhile inTime
  isTime clock (cs.takeWhile inTime) && (offset.isEmpty || isOffset clock offset)

/-- A date, a time of day, or a date and a time with perhaps an offset. -/
def isDateTime (clock : Clock) (cs : List Char) : Bool :=
  isTime clock cs || isDate cs ||
    isDate (cs.take 10) &&
      match cs.drop 10 with
      | mark :: time => (mark == 'T' || mark == 't' || mark == ' ') && isOffsetTime clock time
      | [] => false

example : isDateTime .strict "1979-05-27 07:32:00.5-07:00".toList = true := by decide +kernel

example : isDateTime .strict "2024-02-29".toList = true ∧
    isDateTime .strict "2023-02-29".toList = false := by
  decide +kernel

/-- A time without a date has no offset. -/
example : isDateTime .lenient "07:32:00Z".toList = false := by decide +kernel

/-- Midnight may belong to the day it ends. -/
example : isDateTime .strict "24:00:00".toList = false ∧
    isDateTime .lenient "24:00:00".toList = true := by
  decide +kernel

end UsbVideo.Toml
