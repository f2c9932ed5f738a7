import UsbVideo.Jpeg.Image

/-!
# Sets of codecs

`Codecs.software` decodes images and converts raw frames. `Codecs.standIn` replaces the image decoder
by one that needs no real images: it takes the size of the image from the bytes it is given, and its
pixels tell which bytes they were.
-/

namespace UsbVideo

namespace Codecs

/-- The decoders of this library. -/
def software : Codecs where
  jpeg bytes := DecodeFailure.lift (Jpeg.decode bytes)
  yuv := toRgb24

/-- An image whose third byte is its kind, the next two its width and height. Kind 3 breaks down. The
pixels count up from the sum of all bytes. -/
def standInImage (bytes : Bytes) : Except DecodeFailure Image :=
  match bytes with
  | _ :: _ :: kind :: width :: height :: _ :: _ :: _ =>
    let first := total (bytes.map UInt8.toNat)
    let image (format : PixelFormat) (depth : Nat) : Image :=
      { pixels := (List.range (width.toNat * height.toNat * depth)).map fun i => .ofNat (first + i)
        width := width.toUInt32
        height := height.toUInt32
        format }
    if kind = 0 then .ok (image .grey 1)
    else if kind = 1 then .ok (image .rgb24 3)
    else if kind = 3 then .error .crash
    else .error (.error (.jpeg (some s!"stub: kind {kind}")))
  | _ => .error (.error (.jpeg (some s!"stub: short ({bytes.length})")))

/-- The decoders of this library, with the stand-in for images. -/
def standIn : Codecs where
  jpeg := standInImage
  yuv := toRgb24

end Codecs

end UsbVideo
