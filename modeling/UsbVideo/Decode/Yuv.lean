import UsbVideo.Stream.Error

/-!
# Conversion to RGB

Integer BT.601 conversion of the known raw encodings to packed RGB.

* YUY2 and UYVY are runs of macropixels: two luma samples that share one pair of chroma samples.
* NV12 is a luma plane followed by a plane of chroma pairs, one per 2x2 block.
* GREY is luma alone.

The output has three bytes per pixel; pixels no input is left for stay zero.
-/

namespace UsbVideo

namespace Yuv

/-- The nearest byte. -/
def clampByte (n : Int) : UInt8 := .ofNat (min n.toNat 255)

/-- The red, green and blue of a luma sample and its two chroma samples. -/
def rgb (y u v : UInt8) : Bytes :=
  let luma : Int := y.toNat
  let cu : Int := (u.toNat : Int) - 128
  let cv : Int := (v.toNat : Int) - 128
  [clampByte (luma + cv * 359 / 256),
    clampByte (luma - (cu * 88 + cv * 183) / 256),
    clampByte (luma + cu * 454 / 256)]

/-- Two pixels and the chroma they share. -/
structure Macropixel where
  y0 : UInt8
  y1 : UInt8
  u : UInt8
  v : UInt8

namespace Macropixel

/-- The sample order `Y0 U Y1 V`. -/
def ofYuyv (a b c d : UInt8) : Macropixel := ⟨a, c, b, d⟩

/-- The sample order `U Y0 V Y1`. -/
def ofUyvy (a b c d : UInt8) : Macropixel := ⟨b, d, a, c⟩

/-- Both pixels. -/
def rgb (m : Macropixel) : Bytes := Yuv.rgb m.y0 m.u m.v ++ Yuv.rgb m.y1 m.u m.v

end Macropixel

/-- Append the pixels of up to `count` macropixels to `out`. -/
def appendPacked (order : UInt8 → UInt8 → UInt8 → UInt8 → Macropixel) :
    (count : Nat) → Bytes → Array UInt8 → Array UInt8
  | count + 1, a :: b :: c :: d :: data, out =>
    appendPacked order count data (out ++ (order a b c d).rgb)
  | _, _, out => out

/-- Append a row: each pair of luma samples takes one pair of chroma samples. -/
def appendRow : (luma chroma : Bytes) → Array UInt8 → Array UInt8
  | y0 :: y1 :: luma, u :: v :: chroma, out =>
    appendRow luma chroma (out ++ (Macropixel.mk y0 y1 u v).rgb)
  | _, _, out => out

/-- Append `count` pairs of rows of `width` pixels; both rows of a pair take one row of chroma. -/
def appendRowPairs (width : Nat) : (count : Nat) → (luma chroma : Bytes) → Array UInt8 → Array UInt8
  | 0, _, _, out => out
  | count + 1, luma, chroma, out =>
    let upper := luma.take width
    let lower := (luma.drop width).take width
    let shared := chroma.take width
    appendRowPairs width count (luma.drop (2 * width)) (chroma.drop width)
      (appendRow lower shared (appendRow upper shared out))

/-- Append each of up to `count` samples three times. -/
def appendGrey : (count : Nat) → Bytes → Array UInt8 → Array UInt8
  | count + 1, y :: data, out => appendGrey count data (out ++ [y, y, y])
  | _, _, out => out

/-- Zeros up to a size. -/
def padded (size : Nat) (out : Array UInt8) : Bytes :=
  out.toList ++ List.replicate (size - out.size) 0

end Yuv

/-- 4:2:0 planes need whole 2x2 blocks. -/
def checkSubsampled (encoding : Encoding) (width height : UInt32) : Except DecodeError Unit :=
  if width % 2 = 0 ∧ height % 2 = 0 then .ok ()
  else .error (.oddDimensions encoding width height)

open Yuv in
/-- A raw frame as packed RGB. -/
def toRgb24 (data : Bytes) (encoding : Encoding) (width height : UInt32) :
    Except DecodeError Bytes :=
  let pixels := width.toNat * height.toNat
  match encoding with
  | .yuy2 => .ok (padded (pixels * 3) (appendPacked .ofYuyv (pixels / 2) data #[]))
  | .uyvy => .ok (padded (pixels * 3) (appendPacked .ofUyvy (pixels / 2) data #[]))
  | .nv12 => do
    checkSubsampled encoding width height
    let needed := pixels + pixels / 2
    if data.length < needed then .error (.sizeMismatch needed data.length)
    else
      let rows := appendRowPairs width.toNat (height.toNat / 2) (data.take pixels)
        (data.drop pixels) #[]
      .ok (padded (pixels * 3) rows)
  | .grey => .ok (padded (pixels * 3) (appendGrey pixels data #[]))
  | other => .error (.unsupported other)

end UsbVideo
