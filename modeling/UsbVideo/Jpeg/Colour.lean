import UsbVideo.Jpeg.Scan

/-!
# From planes to pixels

A component sampled at a lower rate than the pixels is spread over them. Where the rate is half, the
samples in between are weighted three to one by their distance; at lower rates samples are repeated.
Three components are converted to red, green and blue, unless they are that already.
-/

namespace UsbVideo.Jpeg

/-! ### Spreading samples -/

/-- The neighbour on the other side of an odd or even position among doubled samples, within
`0` to `count - 1`. -/
def neighbour (position count : Nat) : Nat :=
  if position % 2 = 0 then position / 2 - 1 else min (position / 2 + 1) (count - 1)

/-- A plane and how it is spread over the pixels. -/
structure Spread where
  plane : Plane
  /-- Samples per row and column that belong to the image. -/
  width : Nat
  height : Nat
  /-- Pixels per sample across and down. -/
  across : Nat
  down : Nat
  deriving DecidableEq

namespace Spread

/-- Three parts of a sample and one part of the sample in the row beyond. -/
def downMix (s : Spread) (row column : Nat) : Nat :=
  3 * (s.plane.get (row / 2) column).toNat
    + (s.plane.get (neighbour row s.height) column).toNat

/-- The value of the component at a pixel. -/
def value (s : Spread) (row column : Nat) : Nat :=
  let near := column / 2
  let far := neighbour column s.width
  match s.across, s.down with
  | 1, 1 => (s.plane.get row column).toNat
  | 2, 1 => (3 * (s.plane.get row near).toNat + (s.plane.get row far).toNat + 2) / 4
  | 1, 2 => (s.downMix row column + 2) / 4
  | 2, 2 => (3 * s.downMix row near + s.downMix row far + 8) / 16
  | across, down => (s.plane.get (row / down) (column / across)).toNat

/-- How the plane of a component is spread. A row or a column of one pixel needs no spreading. -/
def ofComponent (frame : FrameHeader) (c : Component) (plane : Plane) : Spread :=
  { plane
    width := (frame.width * c.across + frame.maxAcross - 1) / frame.maxAcross
    height := (frame.height * c.down + frame.maxDown - 1) / frame.maxDown
    across := if frame.width = 1 then 1 else frame.maxAcross / c.across
    down := if frame.height = 1 then 1 else frame.maxDown / c.down }

end Spread

/-! ### Colour -/

/-- A factor as a fraction of 2^20. -/
def colourScale : Int := 1048576

/-- A scaled value rounded to the nearest sample. -/
def unscale (n : Int) : UInt8 := clampSample ((n + colourScale / 2) / colourScale)

/-- Red, green and blue of luma and two chroma samples. -/
def colour (y cb cr : Nat) : Bytes :=
  let luma : Int := y * colourScale
  let blue : Int := (cb : Int) - 128
  let red : Int := (cr : Int) - 128
  [unscale (luma + 1470104 * red), unscale (luma - 360857 * blue - 748830 * red),
    unscale (luma + 1858077 * blue)]

/-- The same in numbers of sixteen bits, six of them behind the point. -/
def coarseColour (y cb cr : Nat) : Bytes :=
  let luma : Int := 64 * y + 32
  let blue : Int := 64 * ((cb : Int) - 128)
  let red : Int := 64 * ((cr : Int) - 128)
  [plus luma (plus (portion 13173 red) red),
    minus luma (plus (portion 11276 blue) (portion 23401 red)),
    plus luma (plus (portion 25297 blue) blue)].map fun (n : Int) => clampSample (n / 64)

/-- The pixel in a column of a row. Pixels are converted coarsely eight at a time as long as the row
goes on for eight more, and the last ones of a row singly. -/
def colourAt (width column : Nat) (y cb cr : Nat) : Bytes :=
  if column < 8 * (width / 8 - 1) then coarseColour y cb cr else colour y cb cr

end UsbVideo.Jpeg
