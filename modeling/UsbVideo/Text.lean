/-!
# Small pieces of text

Hexadecimal numbers and bracketed lists, as messages show them.
-/

namespace UsbVideo

/-- `n` in lower-case hexadecimal, without leading zeros. -/
def hex (n : Nat) : String := String.ofList (Nat.toDigits 16 n)

/-- `text` with zeros in front up to `width` characters. -/
def zeroPadded (width : Nat) (text : String) : String :=
  String.ofList (List.replicate (width - text.length) '0') ++ text

/-- `n` in lower-case hexadecimal with at least two digits. -/
def hex2 (n : Nat) : String := zeroPadded 2 (hex n)

/-- A list of numbers in brackets: `[1, 2]`. -/
def bracketed (ns : List Nat) : String :=
  "[" ++ String.intercalate ", " (ns.map toString) ++ "]"

end UsbVideo
