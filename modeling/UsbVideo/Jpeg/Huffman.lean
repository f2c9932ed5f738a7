import UsbVideo.Jpeg.BitStream
import UsbVideo.Size

/-!
# Prefix codes

A `HuffmanTable` gives the number of codes of each length and the symbols in the order of their codes;
codes of one length are consecutive, and the codes of the next length go on from there.
-/

namespace UsbVideo.Jpeg

/-- A prefix code. -/
structure HuffmanTable where
  /-- The number of codes of 1, 2, … bits. -/
  counts : List Nat
  /-- The symbols in the order of their codes. -/
  values : List UInt8
  deriving DecidableEq

namespace HuffmanTable

/-- Whether the codes of `length` bits and more fit, where `first` is the first code of that length. -/
def fits (first length : Nat) : List Nat → Bool
  | [] => true
  | count :: counts => first + count ≤ Nat.pow 2 length && fits (2 * (first + count)) (length + 1) counts

/-- A table whose codes fit and that has a symbol for each code. -/
def make? (counts : List Nat) (values : List UInt8) : Option HuffmanTable :=
  if total counts = values.length ∧ fits 0 1 counts then some ⟨counts, values⟩ else none

/-- The symbol in front and the length of its code; `code` of `length` bits is what was looked at so far
and `first` the first code of that length. -/
def symbolFrom (code first length : Nat) : List Nat → List UInt8 → Bits → Option (UInt8 × Nat)
  | [], _, _ => none
  | count :: counts, values, bits =>
    let code := 2 * code + (bits.headD false).toNat
    let first := 2 * first
    if code < first + count then (values[code - first]?).map fun symbol => (symbol, length + 1)
    else symbolFrom code (first + count) (length + 1) counts (values.drop count) bits.tail

/-- The symbol in front and the length of its code. -/
def symbol? (t : HuffmanTable) (bits : Bits) : Option (UInt8 × Nat) :=
  symbolFrom 0 0 0 t.counts t.values bits

/-- Read a symbol. -/
def read (t : HuffmanTable) (s : BitStream) : Option ((UInt8 × Nat) × BitStream) := do
  let s ← s.fetch
  let (symbol, length) ← t.symbol? s.ahead
  return ((symbol, length), { s with ahead := s.ahead.drop length })

/-! ### The tables of motion images -/

/-- The values with a high digit from `rows` and a low digit from `lowest` to 10. -/
def block (rows : List Nat) (lowest : Nat) : List UInt8 :=
  rows.flatMap fun row => (List.range (11 - lowest)).map fun i => .ofNat (16 * row + lowest + i)

/-- Differences of the luma average. -/
def lumaDc : HuffmanTable :=
  ⟨[0, 1, 5, 1, 1, 1, 1, 1, 1, 0, 0, 0, 0, 0, 0, 0], (List.range 12).map .ofNat⟩

/-- Differences of the chroma average. -/
def chromaDc : HuffmanTable :=
  ⟨[0, 3, 1, 1, 1, 1, 1, 1, 1, 1, 1, 0, 0, 0, 0, 0], (List.range 12).map .ofNat⟩

/-- Coefficients of luma. -/
def lumaAc : HuffmanTable :=
  ⟨[0, 2, 1, 3, 3, 2, 4, 3, 5, 5, 4, 4, 0, 0, 1, 125],
    [0x01, 0x02, 0x03, 0x00, 0x04, 0x11, 0x05, 0x12, 0x21, 0x31, 0x41, 0x06, 0x13, 0x51, 0x61, 0x07,
      0x22, 0x71, 0x14, 0x32, 0x81, 0x91, 0xA1, 0x08, 0x23, 0x42, 0xB1, 0xC1, 0x15, 0x52, 0xD1, 0xF0,
      0x24, 0x33, 0x62, 0x72, 0x82, 0x09, 0x0A, 0x16, 0x17, 0x18, 0x19, 0x1A, 0x25, 0x26, 0x27, 0x28,
      0x29, 0x2A] ++ block [3] 4 ++ block [4, 5, 6, 7, 8] 3 ++ block [9, 10, 11, 12, 13] 2
      ++ block [14, 15] 1⟩

/-- Coefficients of chroma. -/
def chromaAc : HuffmanTable :=
  ⟨[0, 2, 1, 2, 4, 4, 3, 4, 7, 5, 4, 4, 0, 1, 2, 119],
    [0x00, 0x01, 0x02, 0x03, 0x11, 0x04, 0x05, 0x21, 0x31, 0x06, 0x12, 0x41, 0x51, 0x07, 0x61, 0x71,
      0x13, 0x22, 0x32, 0x81, 0x08, 0x14, 0x42, 0x91, 0xA1, 0xB1, 0xC1, 0x09, 0x23, 0x33, 0x52, 0xF0,
      0x15, 0x62, 0x72, 0xD1, 0x0A, 0x16, 0x24, 0x34, 0xE1, 0x25, 0xF1, 0x17, 0x18, 0x19, 0x1A, 0x26,
      0x27, 0x28, 0x29, 0x2A] ++ block [3] 5 ++ block [4, 5, 6, 7] 3 ++ block [8, 9, 10, 11, 12, 13] 2
      ++ block [14, 15] 2⟩

example :
    total lumaAc.counts = lumaAc.values.length ∧ total chromaAc.counts = chromaAc.values.length := by
  decide +kernel

example : (lumaAc.values.map UInt8.toNat).Nodup ∧ (chromaAc.values.map UInt8.toNat).Nodup := by
  decide +kernel

end HuffmanTable

end UsbVideo.Jpeg
