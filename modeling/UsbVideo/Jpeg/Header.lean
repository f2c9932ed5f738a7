import UsbVideo.Jpeg.Huffman
import UsbVideo.Jpeg.Segment

/-!
# Headers and tables of an image

What the bodies of segments say: quantization tables, prefix codes, the frame and its components, and
which components a scan brings.
-/

namespace UsbVideo.Jpeg

/-! ### Tables -/

/-- Words of two bytes, the higher byte first. -/
def words : Bytes → List Nat
  | high :: low :: rest => word high low :: words rest
  | _ => []

/-- The factors of the coefficients, in zigzag order. -/
abbrev QuantTable := List Nat

/-- The tables of a quantization segment with their numbers, the last one first. No factor is
zero. -/
def readQuantTables (before : List (Nat × QuantTable)) (body : Bytes) :
    Option (List (Nat × QuantTable)) :=
  match body with
  | [] => some before
  | head :: rest =>
    let wide := 16 ≤ head.toNat
    let size := if wide then 128 else 64
    let fields := rest.take size
    let table : QuantTable := if wide then words fields else fields.map UInt8.toNat
    if head.toNat < 32 ∧ head.toNat % 16 < 4 ∧ size ≤ rest.length ∧ 0 ∉ table then
      readQuantTables ((head.toNat % 16, table) :: before) (rest.drop size)
    else none
termination_by body.length
decreasing_by
  simp only [List.length_drop, List.length_cons]
  omega

/-- What a prefix code is for. -/
inductive TableClass where
  | dc
  | ac
  deriving DecidableEq

/-- The codes of a segment with their numbers, which are below `limit`; the last one comes first. -/
def readHuffmanTables (limit : Nat) (before : List ((TableClass × Nat) × HuffmanTable))
    (body : Bytes) : Option (List ((TableClass × Nat) × HuffmanTable)) :=
  match body with
  | [] => some before
  | head :: rest =>
    let counts := (rest.take 16).map UInt8.toNat
    let size := total counts
    let values := (rest.drop 16).take size
    if head.toNat < 32 ∧ head.toNat % 16 < limit ∧ 16 ≤ rest.length ∧ 0 < size
        ∧ size ≤ 256 then
      match HuffmanTable.make? counts values with
      | none => none
      | some table =>
        let key := (if head.toNat < 16 then TableClass.dc else .ac, head.toNat % 16)
        readHuffmanTables limit ((key, table) :: before) (rest.drop (16 + size))
    else none
termination_by body.length
decreasing_by
  simp only [List.length_drop, List.length_cons]
  omega

/-! ### The frame -/

/-- A component of a frame: one colour plane. -/
structure Component where
  identifier : UInt8
  /-- Sampling factors: blocks per minimum coded unit. -/
  across : Nat
  down : Nat
  /-- The number of its quantization table. -/
  quantization : Nat
  deriving DecidableEq

/-- The size of an image and its components. -/
structure FrameHeader where
  baseline : Bool
  width : Nat
  height : Nat
  components : List Component
  deriving DecidableEq

namespace FrameHeader

/-- Prefix codes of each class. -/
def tableLimit (f : FrameHeader) : Nat := if f.baseline then 2 else 4

/-- The largest sampling factors. -/
def maxAcross (f : FrameHeader) : Nat := (f.components.map (·.across)).max?.getD 1

def maxDown (f : FrameHeader) : Nat := (f.components.map (·.down)).max?.getD 1

/-- Minimum coded units per row and column. -/
def unitColumns (f : FrameHeader) : Nat := (f.width + 8 * f.maxAcross - 1) / (8 * f.maxAcross)

def unitRows (f : FrameHeader) : Nat := (f.height + 8 * f.maxDown - 1) / (8 * f.maxDown)

/-- Whether samples of a component can be spread over the pixels: directly, by doubling, or by a
whole factor. -/
def canSpread (f : FrameHeader) (c : Component) : Bool :=
  let direct := c.across == f.maxAcross || f.width == 1
  let directDown := c.down == f.maxDown || f.height == 1
  (direct || 2 * c.across == f.maxAcross) && (directDown || 2 * c.down == f.maxDown)
    || f.maxAcross % c.across == 0 && f.maxDown % c.down == 0

end FrameHeader

/-- The components of a frame header. -/
def readComponents : Bytes → Option (List Component)
  | [] => some []
  | identifier :: sampling :: quantization :: rest =>
    let across := sampling.toNat / 16
    let down := sampling.toNat % 16
    if 1 ≤ across ∧ across ≤ 4 ∧ 1 ≤ down ∧ down ≤ 4 ∧ quantization.toNat < 4 then
      (readComponents rest).map (⟨identifier, across, down, quantization.toNat⟩ :: ·)
    else none
  | _ => none

/-- The header of a frame of eight-bit samples with one, three or four components. -/
def readFrame (baseline : Bool) : Bytes → Option FrameHeader
  | 8 :: h1 :: h0 :: w1 :: w0 :: count :: rest => do
    let components ← readComponents rest
    let frame : FrameHeader := ⟨baseline, word w1 w0, word h1 h0, components⟩
    if 0 < frame.width ∧ 0 < frame.height ∧ components.length = count.toNat
        ∧ count.toNat ∈ [1, 3, 4] ∧ (components.map (·.identifier)).Nodup
        ∧ components.all frame.canSpread then
      some frame
    else none
  | _ => none

/-! ### Scans -/

/-- A component of a scan and the numbers of its prefix codes. -/
structure ScanComponent where
  /-- Position in the frame. -/
  index : Nat
  component : Component
  dc : Nat
  ac : Nat
  deriving DecidableEq

/-- The components of a scan header, which stand in the order of the frame. -/
def readScanComponents (frame : FrameHeader) : (count : Nat) → Bytes → Option (List ScanComponent)
  | 0, [start, last, approximation] =>
    if start = 0 ∧ (last = 0 ∨ last = 63) ∧ approximation = 0 then some [] else none
  | count + 1, identifier :: tables :: rest => do
    let index ← frame.components.findIdx? (·.identifier == identifier)
    let component ← frame.components[index]?
    let dc := tables.toNat / 16
    let ac := tables.toNat % 16
    let limit := frame.tableLimit
    if dc < limit ∧ ac < limit then
      let others ← readScanComponents frame count rest
      if others.all (index < ·.index) then some (⟨index, component, dc, ac⟩ :: others) else none
    else none
  | _, _ => none

/-- The header of a scan of at most four components and, where there are several, at most ten blocks
per unit. -/
def readScan (frame : FrameHeader) : Bytes → Option (List ScanComponent)
  | count :: rest => do
    let components ← readScanComponents frame count.toNat rest
    let blocks := total (components.map fun c => c.component.across * c.component.down)
    if 1 ≤ count.toNat ∧ count.toNat ≤ 4 ∧ (count = 1 ∨ blocks ≤ 10) then some components else none
  | [] => none

end UsbVideo.Jpeg
