import UsbVideo.Decode.Frame
import UsbVideo.Jpeg.Colour

/-!
# Decoding an image

An image is decoded segment by segment: tables are collected, the frame header fixes the size, and
each scan brings the planes of its components. At the end the planes become pixels: grey for one
component, RGB for three. Four components make a picture for print, which is refused.

Motion images leave out their prefix codes; a segment at the start says so, and standard codes take
their place.
-/

namespace UsbVideo.Jpeg

/-- What the segments so far have said. -/
structure Progress where
  quantization : List (Nat × QuantTable) := []
  codes : List ((TableClass × Nat) × HuffmanTable) := []
  /-- Units between restarts; 0 without restarts. -/
  restartInterval : Nat := 0
  /-- Whether standard codes may be used. -/
  motion : Bool := false
  /-- Whether the image says it is in the file interchange format. -/
  interchange : Bool := false
  /-- The colour transform the image states: 0 none, 1 chroma, 2 chroma and black. -/
  transform : Option UInt8 := none
  frame : Option FrameHeader := none
  /-- The planes of the components scanned. -/
  planes : List (Nat × Plane) := []

/-! ### Application data -/

/-- The front of the segment of an interchange file: `JFIF` and a zero. -/
def interchangeTag : Bytes := [0x4A, 0x46, 0x49, 0x46, 0x00]

/-- The front of the segment of a motion image: `AVI1` and a zero. -/
def motionTag : Bytes := [0x41, 0x56, 0x49, 0x31, 0x00]

/-- The front of the segment that states a colour transform. -/
def transformTag : Bytes := [0x41, 0x64, 0x6F, 0x62, 0x65, 0x00]

namespace Progress

/-- Note what an application segment says. -/
def readApplication (p : Progress) (marker : UInt8) (body : Bytes) : Option Progress :=
  if marker = 0xE0 ∧ body.take 5 = interchangeTag then some { p with interchange := true }
  else if marker = 0xE0 ∧ body.take 5 = motionTag then some { p with motion := true }
  else if marker = 0xEE ∧ 12 ≤ body.length ∧ body.take 6 = transformTag then
    let transform := body.getD 11 0
    if transform ≤ 2 then some { p with transform := some transform } else none
  else some p

/-! ### Tables and headers -/

/-- The code of a number, or the standard one in a motion image. -/
def code? (p : Progress) (tableClass : TableClass) (number : Nat) : Option HuffmanTable :=
  let standard :=
    if p.motion then
      match tableClass, number with
      | .dc, 0 => some HuffmanTable.lumaDc
      | .dc, 1 => some HuffmanTable.chromaDc
      | .ac, 0 => some HuffmanTable.lumaAc
      | .ac, 1 => some HuffmanTable.chromaAc
      | _, _ => none
    else none
  (p.codes.lookup (tableClass, number)).or standard

/-- Take in a segment other than a scan. -/
def readSegment (p : Progress) (marker : UInt8) (body : Bytes) : Option Progress :=
  if marker = Marker.quantization then
    (readQuantTables p.quantization body).map fun quantization => { p with quantization }
  else if marker = Marker.huffman then
    let limit := (p.frame.map (·.tableLimit)).getD 4
    (readHuffmanTables limit p.codes body).map fun codes => { p with codes }
  else if marker = Marker.restartInterval then
    match body with
    | [high, low] => some { p with restartInterval := word high low }
    | _ => none
  else if Marker.isSequentialFrame marker then
    if p.frame.isSome then none
    else (readFrame (marker == 0xC0) body).map fun frame => { p with frame := some frame }
  else if Marker.isApplication marker then p.readApplication marker body
  else some p

/-! ### Scans -/

/-- The codes and factors of a component in a scan. -/
def coding? (p : Progress) (c : ScanComponent) : Option BlockCoding := do
  return {
    dc := ← p.code? .dc c.dc
    ac := ← p.code? .ac c.ac
    quantization := ← p.quantization.lookup c.component.quantization }

/-- Take in a scan. The planes of components that were scanned before stay as they are. -/
def readScan (p : Progress) (header data : Bytes) : Option (Progress × BitStream) := do
  let frame ← p.frame
  let scanned ← Jpeg.readScan frame header
  let codings ← scanned.mapM p.coding?
  let components := scanned.map (·.component)
  let blank := components.map fun c => { stride := 8 * (frame.unitColumns * c.across) : Plane }
  let grid := UnitGrid.ofScan frame components
  let (planes, stream) ←
    readIntervals codings grid p.restartInterval 0 0 { rest := data } blank.toArray
  return ({ p with planes := p.planes ++ (scanned.map (·.index)).zip planes.toList }, stream)

/-- Take in everything from the marker before `rest` to the end of the image. Right behind a scan one
restart marker too many is passed over. -/
def readFrom (p : Progress) (behindScan : Bool) (marker : UInt8) (rest : Bytes) : Option Progress :=
  if marker = Marker.endOfImage then some p
  else if marker = Marker.startOfScan then do
    let (header, data) ← takeBody rest
    let (p, stream) ← p.readScan header data
    let (marker, after) ← stream.markerBehind
    if after.length < rest.length then p.readFrom true marker after else none
  else if (Marker.restart? marker).isSome then
    match _h : nextMarker rest with
    | some (marker, after) => if behindScan then p.readFrom false marker after else none
    | none => none
  else if Marker.isSegment marker then do
    let (body, after) ← takeBody rest
    let p ← p.readSegment marker body
    let (marker, after) ← nextMarker after
    if after.length < rest.length then p.readFrom false marker after else none
  else none
termination_by rest.length
decreasing_by
  · assumption
  · exact length_nextMarker_lt _h
  · assumption

/-! ### Pixels -/

/-- How three components are to be understood, where that is possible. -/
inductive ColourModel where
  | chroma
  | direct
  | refused
  deriving DecidableEq

/-- Well-known identifiers decide, then the interchange format, then the stated transform. -/
def colourModel (p : Progress) (identifiers : List UInt8) : ColourModel :=
  if identifiers = [1, 2, 3] then .chroma
  else if identifiers = [1, 34, 35] ∨ identifiers = [114, 103, 98] then .refused
  else if identifiers = [82, 71, 66] then .direct
  else if p.interchange then .chroma
  else
    match p.transform with
    | some 0 => .direct
    | some 2 => .refused
    | _ => .chroma

/-- The pixels of three components, row by row. -/
def pixels (direct : Bool) (width height : Nat) (a b c : Spread) : Bytes :=
  let append (out : Array UInt8) (row column : Nat) : Array UInt8 :=
    let x := a.value row column
    let y := b.value row column
    let z := c.value row column
    out ++ if direct then [UInt8.ofNat x, .ofNat y, .ofNat z] else colourAt width column x y z
  ((gridPairs height width).foldl (fun out (row, column) => append out row column) #[]).toList

/-- The samples of the only component, row by row. -/
def greyPixels (width height : Nat) (plane : Plane) : Bytes :=
  (gridPairs height width).map fun (row, column) => plane.get row column

/-- The error for pictures for print. -/
def printError : DecodeError := .jpeg (some "unsupported JPEG pixel format CMYK32")

/-- The image, once all planes are there. -/
def finish (p : Progress) : Except DecodeError Image :=
  match p.frame with
  | none => .error (.jpeg none)
  | some frame =>
    let image (pixels : Bytes) (format : PixelFormat) : Image :=
      ⟨pixels, .ofNat frame.width, .ofNat frame.height, format⟩
    let planes := frame.components.zipIdx.mapM fun (c, i) =>
      (p.planes.lookup i).map (Spread.ofComponent frame c)
    match planes with
    | some [a] => .ok (image (greyPixels frame.width frame.height a.plane) .grey)
    | some [a, b, c] =>
      match p.colourModel (frame.components.map (·.identifier)) with
      | .chroma => .ok (image (pixels false frame.width frame.height a b c) .rgb24)
      | .direct => .ok (image (pixels true frame.width frame.height a b c) .rgb24)
      | .refused => .error (.jpeg none)
    | some [_, _, _, _] =>
      if p.transform = some 1 then .error (.jpeg none) else .error printError
    | _ => .error (.jpeg none)

end Progress

/-- Decode an image. -/
def decode (bytes : Bytes) : Except DecodeError Image :=
  let progress :=
    match bytes with
    | 0xFF :: 0xD8 :: rest =>
      (nextMarker rest).bind fun (marker, rest) => ({} : Progress).readFrom false marker rest
    | _ => none
  match progress with
  | none => .error (.jpeg none)
  | some progress => progress.finish

end UsbVideo.Jpeg
