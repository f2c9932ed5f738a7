import Mathlib.Algebra.Group.Nat.Defs
import UsbVideo.Proofs.Decode.Convertible
import UsbVideo.Proofs.Reassembly.Piece

/-!
# Sizes in machine words

A decoder multiplies machine words: the sizes of frames have 64 bits, the lengths of rows 32. Such a
product wraps around where it does not fit, and then it is not the size.

    width * height * depth / 8            64 bits     expectedWord, expectedSize
    width * height * 3                    64 bits     rgbWord
    width * 3, width * depth / 8          32 bits     stride

A descriptor has 16 bits for a width or a height and 8 for a depth. With a geometry of that kind
(`FrameLayout.Narrow`) nothing wraps anywhere (`FrameLayout.exact_of_narrow`).
-/

namespace UsbVideo

/-! ### Words and sizes -/

/-- Bytes in a row of `width` pixels. A depth in bits is needed only where the format does not have one
of its own. -/
def PixelFormat.rowBytes (width depth : Nat) : PixelFormat → Nat
  | rgb24 => width * 3
  | yuyv | uyvy => width * 2
  | nv12 | grey => width
  | raw => width * depth / 8

namespace FrameLayout

/-- The size of an uncompressed frame, whatever it takes to count it. -/
def exactSize (layout : FrameLayout) : Option Nat :=
  if layout.encoding.isCompressed then none
  else if layout.depth = 0 then none
  else some (layout.width.toNat * layout.height.toNat * layout.depth.toNat / 8)

/-- The size of a frame in RGB, multiplied in 64 bits. -/
def rgbWord (layout : FrameLayout) : UInt64 := layout.width.toUInt64 * layout.height.toUInt64 * 3

/-- The geometry fits into the fields of a descriptor. -/
structure Narrow (layout : FrameLayout) : Prop where
  width : layout.width.toNat < 2 ^ 16
  height : layout.height.toNat < 2 ^ 16
  bitsPerPixel : layout.bitsPerPixel.toNat < 2 ^ 8

/-- For frames of this geometry all words are exact. A division does not hide that a product wrapped: its
result would be too small. -/
structure Exact (layout : FrameLayout) : Prop where
  /-- The size of a frame is far from the limit of its words. -/
  below : ∀ size ∈ layout.expectedSize, size < 2 ^ 40
  expected : layout.expectedSize = layout.exactSize
  /-- Whatever a decoder makes of a frame, a row has the length that it says. -/
  stride : ∀ (d : FormatDecoder) (frame : CompletedFrame) (out : DecodedFrame), d.layout = layout →
    layout.Describes frame → d.decode frame = .ok out →
      out.width = layout.width ∧ out.height = layout.height ∧
        out.stride.toNat = out.format.rowBytes layout.width.toNat layout.bitsPerPixel.toNat
  rgb : layout.rgbWord.toNat = layout.width.toNat * layout.height.toNat * 3
  /-- A converted frame fills exactly the buffer of that size. -/
  converted : ∀ (data : Bytes) (encoding : Encoding) (bytes : Bytes),
    toRgb24 data encoding layout.width layout.height = .ok bytes →
      bytes.length = layout.rgbWord.toNat

end FrameLayout

/-! ### Narrow layouts -/

namespace FrameLayout

namespace Narrow

variable {layout : FrameLayout} (h : layout.Narrow)

include h

theorem depth_lt : layout.depth.toNat < 2 ^ 8 := by
  unfold depth
  cases layout.encoding with
  | mjpeg | uncompressed | frameBased => exact h.bitsPerPixel
  | yuy2 | uyvy => show 16 < 2 ^ 8; decide
  | nv12 => show 12 < 2 ^ 8; decide
  | grey => show 8 < 2 ^ 8; decide

theorem pixels_lt : layout.width.toNat * layout.height.toNat < 2 ^ 32 :=
  calc layout.width.toNat * layout.height.toNat
      < 2 ^ 16 * 2 ^ 16 := Nat.mul_lt_mul'' h.width h.height
    _ = 2 ^ 32 := by decide

theorem pixels_mul_lt {factor : Nat} (hfactor : factor < 2 ^ 8) :
    layout.width.toNat * layout.height.toNat * factor < 2 ^ 40 :=
  calc layout.width.toNat * layout.height.toNat * factor
      < 2 ^ 32 * 2 ^ 8 := Nat.mul_lt_mul'' h.pixels_lt hfactor
    _ = 2 ^ 40 := by decide

/-- There is room in 64 bits for the pixels, and for as many times that number as a byte can count. -/
theorem toNat_pixels_mul {factor : UInt64} (hfactor : factor.toNat < 2 ^ 8) :
    (layout.width.toUInt64 * layout.height.toUInt64 * factor).toNat =
      layout.width.toNat * layout.height.toNat * factor.toNat := by
  have hpixels : layout.width.toNat * layout.height.toNat < 2 ^ 64 :=
    Nat.lt_trans h.pixels_lt (by decide)
  have hproduct : layout.width.toNat * layout.height.toNat * factor.toNat < 2 ^ 64 :=
    Nat.lt_trans (h.pixels_mul_lt hfactor) (by decide)
  rw [UInt64.toNat_mul, UInt64.toNat_mul, UInt32.toNat_toUInt64, UInt32.toNat_toUInt64,
    Nat.mod_eq_of_lt hpixels, Nat.mod_eq_of_lt hproduct]

theorem expectedSize_eq : layout.expectedSize = layout.exactSize := by
  unfold expectedSize expectedWord exactSize
  split
  · rfl
  · split
    · rfl
    · have hdepth : layout.depth.toUInt64.toNat < 2 ^ 8 := h.depth_lt
      rw [Option.map_some, UInt64.toNat_div, h.toNat_pixels_mul hdepth]
      rfl

theorem below : ∀ size ∈ layout.expectedSize, size < 2 ^ 40 := by
  intro size hsize
  rw [h.expectedSize_eq, exactSize] at hsize
  split at hsize
  · cases hsize
  · split at hsize
    · cases hsize
    · cases hsize
      exact Nat.lt_of_le_of_lt (Nat.div_le_self _ 8) (h.pixels_mul_lt h.depth_lt)

theorem toNat_rgbWord :
    layout.rgbWord.toNat = layout.width.toNat * layout.height.toNat * 3 :=
  h.toNat_pixels_mul (by decide)

theorem toNat_width_mul {factor : UInt32} (hfactor : factor.toNat < 2 ^ 8) :
    (layout.width * factor).toNat = layout.width.toNat * factor.toNat := by
  have hproduct : layout.width.toNat * factor.toNat < 2 ^ 32 :=
    calc layout.width.toNat * factor.toNat
        < 2 ^ 16 * 2 ^ 8 := Nat.mul_lt_mul'' h.width hfactor
      _ < 2 ^ 32 := by decide
  rw [UInt32.toNat_mul, Nat.mod_eq_of_lt hproduct]

theorem toNat_stride {d : FormatDecoder} (hd : d.layout = layout) (format : PixelFormat) :
    (d.stride layout.width format).toNat =
      format.rowBytes layout.width.toNat layout.bitsPerPixel.toNat := by
  subst hd
  cases format with
  | rgb24 => exact h.toNat_width_mul (by decide)
  | yuyv | uyvy => exact h.toNat_width_mul (by decide)
  | nv12 | grey => rfl
  | raw =>
    show (d.layout.width * d.layout.bitsPerPixel / 8).toNat = _
    rw [UInt32.toNat_div, h.toNat_width_mul h.bitsPerPixel]
    rfl

end Narrow

end FrameLayout

/-! ### Decoded frames -/

namespace FormatDecoder

variable {d : FormatDecoder} {frame : CompletedFrame} {p : Picture}

/-- An image has the size of its frame, or it is refused. -/
theorem decodeMjpeg_size (h : d.decodeMjpeg frame = .ok p) :
    p.width = frame.width ∧ p.height = frame.height := by
  obtain ⟨bytes, -, h⟩ := bind_ok_iff.mp h
  obtain ⟨image, -, h⟩ := bind_ok_iff.mp h
  obtain ⟨_, hsize, h⟩ := bind_ok_iff.mp h
  have hsize := lift_ok_iff.mp hsize
  have hpresented := lift_ok_iff.mp h
  unfold checkSize at hsize
  split at hsize
  · next hsame =>
    unfold presentImage at hpresented
    split at hpresented
    · obtain ⟨rgb, -, hrgb⟩ := bind_ok_iff.mp hpresented
      cases hrgb
      exact hsame
    · cases hpresented
      exact hsame
  · cases hsize

theorem decodeRaw_size (h : d.decodeRaw frame = .ok p) :
    p.width = frame.width ∧ p.height = frame.height := by
  obtain ⟨native, -, h⟩ := bind_ok_iff.mp h
  split at h
  · obtain ⟨rgb, -, h⟩ := bind_ok_iff.mp h
    cases h
    exact ⟨rfl, rfl⟩
  · cases h
    exact ⟨rfl, rfl⟩

theorem picture_size (h : d.picture frame = .ok p) :
    p.width = frame.width ∧ p.height = frame.height := by
  unfold picture at h
  split at h
  · exact decodeMjpeg_size h
  · cases h
  · exact decodeRaw_size (lift_ok_iff.mp h)

end FormatDecoder

/-- A geometry of descriptors is counted exactly. -/
theorem FrameLayout.exact_of_narrow {layout : FrameLayout} (h : layout.Narrow) : layout.Exact where
  below := h.below
  expected := h.expectedSize_eq
  stride d frame out hd hframe hout := by
    obtain ⟨p, hp, hout⟩ := FormatDecoder.bind_ok_iff.mp hout
    cases hout
    obtain ⟨hwidth, hheight⟩ := FormatDecoder.picture_size hp
    have hwidth := hwidth.trans hframe.width
    refine ⟨hwidth, hheight.trans hframe.height, ?_⟩
    show (d.stride p.width p.format).toNat = _
    rw [hwidth]
    exact h.toNat_stride hd p.format
  rgb := h.toNat_rgbWord
  converted data encoding bytes hbytes := by
    rw [h.toNat_rgbWord, Nat.mul_comm]
    exact length_toRgb24 hbytes

/-- It takes more than the fields of a descriptor to make a product wrap. -/
example :
    let layout : FrameLayout := { encoding := .yuy2, width := 0x80000000, height := 0x80000000 }
    layout.expectedSize = some 0 ∧ layout.exactSize = some (2 ^ 63) := by decide

end UsbVideo
