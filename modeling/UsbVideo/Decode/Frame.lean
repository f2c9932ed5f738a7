import UsbVideo.Decode.Yuv
import UsbVideo.Settings

/-!
# Decoding frames

MJPEG frames go through an image decoder, raw frames are checked for size and passed through or
converted. Both the image decoder and the converter are given by the host as `Codecs`.

Devices pad MJPEG frames behind the end of the image, so an image is cut at its last end marker.
-/

namespace UsbVideo

/-- The pixels of a decoded image: RGB or grey. -/
structure Image where
  pixels : Bytes
  width : UInt32
  height : UInt32
  format : PixelFormat
  deriving DecidableEq

/-- How decoding ends without a frame. -/
inductive DecodeFailure where
  | error (error : DecodeError)
  /-- The image decoder broke down. -/
  | crash
  deriving DecidableEq

/-- The decoders a host supplies. -/
structure Codecs where
  jpeg : Bytes → Except DecodeFailure Image
  yuv : Bytes → Encoding → UInt32 → UInt32 → Except DecodeError Bytes

/-- Decodes the frames of one stream. -/
structure FormatDecoder where
  layout : FrameLayout
  output : OutputFormat
  codecs : Codecs

/-- The pixels of a frame before it is described to the host. -/
structure Picture where
  data : Bytes
  width : UInt32
  height : UInt32
  format : PixelFormat
  deriving DecidableEq

/-- Report a refusal as a failure to decode. -/
def DecodeFailure.lift {α : Type} : Except DecodeError α → Except DecodeFailure α
  | .ok a => .ok a
  | .error e => .error (.error e)

/-! ### Images in padded data -/

/-- The number of bytes up to the end of the last `FF D9`, if there is one. -/
def lastEndMarker (data : Bytes) : Option Nat :=
  let rec go (pos : Nat) (found : Option Nat) : Bytes → Option Nat
    | a :: b :: rest => go (pos + 1) (if a = 0xFF ∧ b = 0xD9 then some (pos + 2) else found) (b :: rest)
    | _ => found
  go 0 none data

/-- The image in `data`: from the start marker up to the last end marker. -/
def imageBytes (data : Bytes) : Except DecodeError Bytes :=
  if data.take 2 = [0xFF, 0xD8] then
    match lastEndMarker data with
    | some length => .ok (data.take length)
    | none => .error .missingEnd
  else .error .missingStart

namespace FormatDecoder

/-! ### MJPEG -/

/-- Accept an image of the size negotiated. -/
def checkSize (frame : CompletedFrame) (image : Image) : Except DecodeError Unit :=
  if image.width = frame.width ∧ image.height = frame.height then .ok ()
  else .error (.dimensionMismatch frame.width frame.height image.width image.height)

/-- Grey images become RGB where RGB is wanted. -/
def presentImage (d : FormatDecoder) (image : Image) : Except DecodeError Picture :=
  if d.output = .rgb24 ∧ image.format = .grey then do
    let rgb ← d.codecs.yuv image.pixels .grey image.width image.height
    return ⟨rgb, image.width, image.height, .rgb24⟩
  else .ok ⟨image.pixels, image.width, image.height, image.format⟩

def decodeMjpeg (d : FormatDecoder) (frame : CompletedFrame) : Except DecodeFailure Picture := do
  let bytes ← DecodeFailure.lift (imageBytes frame.data)
  let image ← d.codecs.jpeg bytes
  DecodeFailure.lift (checkSize frame image)
  DecodeFailure.lift (d.presentImage image)

/-! ### Raw formats -/

/-- The geometry of a raw frame. -/
def rawLayout (d : FormatDecoder) (frame : CompletedFrame) : FrameLayout :=
  { d.layout with encoding := frame.encoding, width := frame.width, height := frame.height }

/-- Accept a raw frame of the exact size. -/
def checkRaw (d : FormatDecoder) (frame : CompletedFrame) : Except DecodeError PixelFormat := do
  if frame.encoding = .nv12 then
    checkSubsampled frame.encoding frame.width frame.height
  match (d.rawLayout frame).expectedSize, frame.encoding.nativeFormat? with
  | none, _ => .error (.unsupported frame.encoding)
  | some expected, native =>
    if frame.data.length ≠ expected then .error (.sizeMismatch expected frame.data.length)
    else
      match native with
      | none => .error (.unsupported frame.encoding)
      | some format => .ok format

def decodeRaw (d : FormatDecoder) (frame : CompletedFrame) : Except DecodeError Picture := do
  let native ← d.checkRaw frame
  if d.output = .rgb24 ∧ native ≠ .raw then
    let rgb ← d.codecs.yuv frame.data frame.encoding frame.width frame.height
    return ⟨rgb, frame.width, frame.height, .rgb24⟩
  else return ⟨frame.data, frame.width, frame.height, native⟩

/-! ### Any frame -/

/-- Bytes per row of the first plane. -/
def stride (d : FormatDecoder) (width : UInt32) : PixelFormat → UInt32
  | .rgb24 => width * 3
  | .yuyv | .uyvy => width * 2
  | .nv12 | .grey => width
  | .raw => width * d.layout.bitsPerPixel / 8

/-- The pixels of a frame. -/
def picture (d : FormatDecoder) (frame : CompletedFrame) : Except DecodeFailure Picture :=
  match frame.encoding with
  | .mjpeg => d.decodeMjpeg frame
  | .frameBased _ => .error (.error (.unsupported frame.encoding))
  | _ => DecodeFailure.lift (d.decodeRaw frame)

/-- Decode a frame for the host. -/
def decode (d : FormatDecoder) (frame : CompletedFrame) : Except DecodeFailure DecodedFrame := do
  let p ← d.picture frame
  return {
    data := p.data
    width := p.width
    height := p.height
    stride := d.stride p.width p.format
    format := p.format
    sequence := frame.sequence
    pts := frame.pts }

end FormatDecoder

end UsbVideo
