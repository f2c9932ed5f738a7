import UsbVideo.Encoding

/-!
# Frames

`FrameLayout` is the geometry both reassembly and decoding work with. A `CompletedFrame` is what
reassembly hands on, a `DecodedFrame` what the host gets.
-/

namespace UsbVideo

/-- Geometry of a negotiated stream. -/
structure FrameLayout where
  encoding : Encoding
  width : UInt32
  height : UInt32
  /-- From the format descriptor; 0 for MJPEG. -/
  bitsPerPixel : UInt32 := 0
  /-- The largest frame the device announced, where it did. -/
  maxFrameSize : Option Nat := none
  deriving DecidableEq

namespace FrameLayout

/-- Bits per pixel: the encoding's own, else the descriptor's. -/
def depth (layout : FrameLayout) : UInt32 :=
  layout.encoding.bitsPerPixel?.getD layout.bitsPerPixel

/-- The size of an uncompressed frame, where one is known. The product has 64 bits, and wraps around where
it does not fit. -/
def expectedWord (layout : FrameLayout) : Option UInt64 :=
  if layout.encoding.isCompressed then none
  else if layout.depth = 0 then none
  else some (layout.width.toUInt64 * layout.height.toUInt64 * layout.depth.toUInt64 / 8)

/-- The bytes an uncompressed frame is to have, where that is known. -/
def expectedSize (layout : FrameLayout) : Option Nat := layout.expectedWord.map UInt64.toNat

end FrameLayout

/-- What is known of a frame besides its bytes. -/
structure FrameMeta where
  /-- Position in the stream, from 1. -/
  sequence : Nat
  width : UInt32
  height : UInt32
  encoding : Encoding
  /-- Presentation time of the first payload, in device clock ticks. -/
  pts : Option UInt32
  deriving DecidableEq

/-- A reassembled frame, headers stripped. -/
structure CompletedFrame extends FrameMeta where
  data : Bytes
  deriving DecidableEq

/-- A frame ready for the host. -/
structure DecodedFrame where
  data : Bytes
  width : UInt32
  height : UInt32
  /-- Bytes per row of the first plane. -/
  stride : UInt32
  format : PixelFormat
  sequence : Nat
  pts : Option UInt32
  deriving DecidableEq

end UsbVideo
