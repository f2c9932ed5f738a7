/-!
# Decimals with a fixed number of places

`fixed p x` writes a float with `p` digits after the point. The digits are those of the exact
binary value, rounded to the nearest; a tie goes to the even digit.
-/

namespace UsbVideo.Decimal

/-- The quotient rounded to the nearest whole number, ties to even. -/
def roundDiv (num den : Nat) : Nat :=
  let q := num / den
  let twice := 2 * (num % den)
  if twice < den then q
  else if den < twice then q + 1
  else q + q % 2

/-- A finite non-negative float as a fraction: numerator and denominator. -/
def fraction (x : Float) : Nat × Nat :=
  let bits := x.toBits.toNat
  let exponent := bits / 0x10000000000000 % 2048
  let mantissa := bits % 0x10000000000000
  let (m, e) := if exponent = 0 then (mantissa, 1) else (mantissa + 0x10000000000000, exponent)
  if 1075 ≤ e then (m * Nat.pow 2 (e - 1075), 1) else (m, Nat.pow 2 (1075 - e))

/-- A finite non-negative float with `places` digits after the point. -/
def fixed (places : Nat) (x : Float) : String :=
  let (num, den) := fraction x
  let unit := Nat.pow 10 places
  let units := roundDiv (num * unit) den
  let digits := toString (units % unit)
  let zeros := String.ofList (List.replicate (places - digits.length) '0')
  toString (units / unit) ++ "." ++ zeros ++ digits

end UsbVideo.Decimal
