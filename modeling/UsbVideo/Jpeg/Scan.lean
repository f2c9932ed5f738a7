import UsbVideo.Jpeg.Header
import UsbVideo.Jpeg.Transform

/-!
# Decoding a scan

A scan brings the blocks of its components unit by unit. A unit holds, for each component, as many
blocks as its sampling factors say; in a scan of one component every block is a unit of its own. The
average of a block is given as the difference to the block before, its other coefficients as values
with zeros between them; a block may say that it ends early, and that others after it are empty. At a
restart the bits begin anew and the averages count from zero.
-/

namespace UsbVideo.Jpeg

/-! ### Blocks -/

/-- Values whose code and bits fit into a byte are looked up as a whole. -/
def lookupWidth : Nat := 8

/-- The coefficients from position `index` on: each comes with the number of zeros before it. Yields
the position and the value of those that are not zero, and how many blocks to come have none. A value
that would lie behind the block ends it; unless it was looked up as a whole its bits are not read. -/
def readCoefficients (table : HuffmanTable) (index : Nat) (s : BitStream) :
    Option (List (Nat × Int) × Nat × BitStream) :=
  if 64 ≤ index then some ([], 0, s)
  else do
    let ((symbol, length), s) ← table.read s
    let zeros := symbol.toNat / 16
    let size := symbol.toNat % 16
    if size = 0 then
      if zeros = 15 then readCoefficients table (index + 16) s
      else
        let (more, s) ← s.read zeros
        return ([], Nat.pow 2 zeros - 1 + more, s)
    else if 64 ≤ index + zeros then
      let (_, s) ← s.read (if length + size ≤ lookupWidth then size else 0)
      return ([], 0, s)
    else
      let (value, s) ← s.readSigned size
      let (later, emptyBlocks, s) ← readCoefficients table (index + zeros + 1) s
      return ((index + zeros, value) :: later, emptyBlocks, s)
termination_by 64 - index

/-- The difference of averages. -/
def readDifference (table : HuffmanTable) (s : BitStream) : Option (Int × BitStream) := do
  let ((size, _), s) ← table.read s
  if size = 0 then some (0, s)
  else if size ≤ 11 then s.readSigned size.toNat
  else none

/-- The prefix codes and the factors for the blocks of a component. -/
structure BlockCoding where
  dc : HuffmanTable
  ac : HuffmanTable
  quantization : QuantTable
  deriving DecidableEq

/-- The numbers of sixteen bits there are; others are taken modulo this. -/
def wordSpan : Nat := 65536

/-- Coefficients in zigzag order times their factors, row by row, as the transform takes them. -/
def dequantize (table : QuantTable) (coefficients : List (Nat × Int)) : Array Int :=
  coefficients.foldl
    (fun block (i, value) =>
      block.setIfInBounds (zigzag.getD i 0) ((8 * value * (table.getD i 1 : Nat)).bmod wordSpan))
    (Array.replicate 64 0)

/-- How far the reading of an interval has come. -/
structure ScanState where
  stream : BitStream
  /-- The average of the last block of each component. -/
  averages : List Int
  /-- Blocks to come that hold nothing but their average. -/
  emptyBlocks : Nat := 0

/-- Read a block of the component at a place in the scan. -/
def ScanState.readBlock (s : ScanState) (c : BlockCoding) (place : Nat) :
    Option (List UInt8 × ScanState) := do
  let (difference, stream) ← readDifference c.dc s.stream
  let average := (s.averages.getD place 0 + difference).bmod wordSpan
  let averages := s.averages.set place average
  let (others, emptyBlocks, stream) ←
    if 0 < s.emptyBlocks then some ([], s.emptyBlocks - 1, stream)
    else readCoefficients c.ac 1 stream
  return (samples (dequantize c.quantization ((0, average) :: others)),
    { stream, averages, emptyBlocks })

/-! ### Planes -/

/-- The samples of a component, row by row, in whole blocks. Rows behind the last one put in are
blank. -/
structure Plane where
  /-- Samples per row. -/
  stride : Nat
  samples : Array UInt8 := #[]
  deriving DecidableEq

namespace Plane

/-- Put samples into a row. -/
def putRow (samples : Array UInt8) (start : Nat) : List UInt8 → Array UInt8
  | [] => samples
  | s :: rest => putRow (samples.setIfInBounds start s) (start + 1) rest

/-- Put the rows of a block below each other. -/
def putRows (stride start : Nat) (samples : Array UInt8) : (rows : Nat) → List UInt8 → Array UInt8
  | 0, _ => samples
  | rows + 1, block =>
    putRows stride (start + stride) (putRow samples start (block.take 8)) rows (block.drop 8)

/-- Blank samples up to a size. -/
def extendTo (size : Nat) (samples : Array UInt8) : Array UInt8 :=
  if samples.size < size then samples ++ Array.replicate (size - samples.size) 0 else samples

/-- Put in the block at a column and a row of blocks. -/
def put (p : Plane) (column row : Nat) (block : List UInt8) : Plane :=
  let ⟨stride, samples⟩ := p
  let samples := extendTo (8 * (row + 1) * stride) samples
  ⟨stride, putRows stride (8 * row * stride + 8 * column) samples 8 block⟩

/-- The sample in a row and a column. -/
def get (p : Plane) (row column : Nat) : UInt8 := p.samples.getD (row * p.stride + column) 0

end Plane

/-! ### Units -/

/-- Where a block of a scan belongs: the component by its place in the scan, column and row. -/
structure BlockPlace where
  place : Nat
  column : Nat
  row : Nat
  deriving DecidableEq

/-- Pairs of a row below `rows` and a column below `columns`, row by row. -/
def gridPairs (rows columns : Nat) : List (Nat × Nat) :=
  (List.range rows).flatMap fun row => (List.range columns).map fun column => (row, column)

/-- The blocks of the unit at a column and a row of units. -/
def unitBlocks (components : List Component) (unitRow unitColumn : Nat) : List BlockPlace :=
  match components with
  | [_] => [⟨0, unitColumn, unitRow⟩]
  | _ =>
    components.zipIdx.flatMap fun (c, place) =>
      (gridPairs c.down c.across).map fun (row, column) =>
        ⟨place, unitColumn * c.across + column, unitRow * c.down + row⟩

/-- The units of a scan, row by row. -/
structure UnitGrid where
  components : List Component
  rows : Nat
  columns : Nat
  deriving DecidableEq

namespace UnitGrid

/-- The units of a scan that brings these components of a frame. -/
def ofScan (frame : FrameHeader) (components : List Component) : UnitGrid :=
  let (rows, columns) :=
    match components with
    | [c] => (frame.unitRows * c.down, frame.unitColumns * c.across)
    | _ => (frame.unitRows, frame.unitColumns)
  { components
    rows := min rows ((frame.height + 7) / 8)
    columns := min columns ((frame.width + 7) / 8) }

def count (g : UnitGrid) : Nat := g.rows * g.columns

/-- The blocks of the unit with this number. -/
def blocks (g : UnitGrid) (unit : Nat) : List BlockPlace :=
  unitBlocks g.components (unit / g.columns) (unit % g.columns)

end UnitGrid

/-! ### Intervals -/

/-- Read blocks into the planes. -/
def readBlocks (codings : List BlockCoding) (s : ScanState) (planes : Array Plane) :
    List BlockPlace → Option (Array Plane × ScanState)
  | [] => some (planes, s)
  | b :: blocks =>
    match codings[b.place]? with
    | none => none
    | some coding =>
      match s.readBlock coding b.place with
      | none => none
      | some (block, s) =>
        readBlocks codings s (planes.modify b.place (·.put b.column b.row block)) blocks

/-- Read `count` units from number `first` on. -/
def readUnits (codings : List BlockCoding) (grid : UnitGrid) (first : Nat) (s : ScanState)
    (planes : Array Plane) : (count : Nat) → Option (Array Plane × BitStream)
  | 0 => some (planes, s.stream)
  | count + 1 =>
    match readBlocks codings s planes (grid.blocks first) with
    | none => none
    | some (planes, s) => readUnits codings grid (first + 1) s planes count

/-- Read the units from number `first` on. Behind every `interval` of them stands a restart marker, if
there are more to come; these markers count up, modulo 8, from `marker`. There are none where the
interval is 0. -/
def readIntervals (codings : List BlockCoding) (grid : UnitGrid) (interval first marker : Nat)
    (stream : BitStream) (planes : Array Plane) : Option (Array Plane × BitStream) :=
  let left := grid.count - first
  let start : ScanState := { stream, averages := codings.map fun _ => 0 }
  if _h : interval = 0 ∨ left ≤ interval then readUnits codings grid first start planes left
  else do
    let (planes, stream) ← readUnits codings grid first start planes interval
    let stream ← stream.restart marker
    readIntervals codings grid interval (first + interval) ((marker + 1) % 8) stream planes
termination_by grid.count - first
decreasing_by omega

end UsbVideo.Jpeg
