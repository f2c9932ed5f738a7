import UsbVideo.Bytes

/-!
# The segments of a JPEG image

An image is a row of segments, each behind a marker `FF m`, where `m` is neither `00` nor `FF`. A
segment states its length; only the entropy-coded data behind the header of a scan does not, see
`Jpeg.BitStream`.
-/

namespace UsbVideo.Jpeg

/-! ### Markers -/

namespace Marker

def endOfImage : UInt8 := 0xD9

def startOfScan : UInt8 := 0xDA

def quantization : UInt8 := 0xDB

def huffman : UInt8 := 0xC4

def restartInterval : UInt8 := 0xDD

def comment : UInt8 := 0xFE

/-- Whether a marker starts a frame coded by the baseline or the extended sequential process. -/
def isSequentialFrame (marker : UInt8) : Bool := marker == 0xC0 || marker == 0xC1

/-- Whether a marker starts application data. -/
def isApplication (marker : UInt8) : Bool := 0xE0 ≤ marker && marker ≤ 0xEF

/-- The number of a restart marker. -/
def restart? (marker : UInt8) : Option Nat :=
  if 0xD0 ≤ marker && marker ≤ 0xD7 then some (marker.toNat - 0xD0) else none

/-- Whether a segment of this kind may stand in an image coded sequentially. -/
def isSegment (marker : UInt8) : Bool :=
  isSequentialFrame marker || isApplication marker
    || marker ∈ [quantization, huffman, restartInterval, comment]

end Marker

/-- The next marker and what follows it. Bytes in front of it are skipped. -/
def nextMarker : Bytes → Option (UInt8 × Bytes)
  | [] => none
  | [_] => none
  | a :: b :: rest =>
    if a = 0xFF ∧ b ≠ 0xFF ∧ b ≠ 0x00 then some (b, rest) else nextMarker (b :: rest)

theorem length_nextMarker_lt {bytes rest : Bytes} {marker : UInt8}
    (h : nextMarker bytes = some (marker, rest)) : rest.length < bytes.length := by
  fun_induction nextMarker bytes with
  | case1 => simp at h
  | case2 => simp at h
  | case3 a b rest' _ =>
    cases h
    simp only [List.length_cons]
    omega
  | case4 a b rest' _ ih =>
    have := ih h
    simp only [List.length_cons] at this ⊢
    omega

/-- A number of two bytes, the higher one first. -/
def word (high low : UInt8) : Nat := high.toNat * 256 + low.toNat

/-- The body of a segment and what follows it. The length counts its own two bytes. -/
def takeBody : Bytes → Option (Bytes × Bytes)
  | high :: low :: rest =>
    let length := word high low
    if 2 ≤ length ∧ length - 2 ≤ rest.length then
      some (rest.take (length - 2), rest.drop (length - 2))
    else none
  | _ => none

end UsbVideo.Jpeg
