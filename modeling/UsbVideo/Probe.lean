import UsbVideo.Bytes

/-!
# The probe and commit block

Host and device agree on a stream by exchanging one control block. Its length depends on the version
of the video class: 26, 34 or 48 bytes; the longer forms only append fields.

`ProbeBlock.encode n` writes the first `n` bytes; `ProbeBlock.decode` reads a block of at least 26
bytes and takes what is missing for zero.
-/

namespace UsbVideo

/-- The video probe and commit control block. -/
structure ProbeBlock where
  hint : UInt16 := 0
  formatIndex : UInt8 := 0
  frameIndex : UInt8 := 0
  frameInterval : UInt32 := 0
  keyFrameRate : UInt16 := 0
  pFrameRate : UInt16 := 0
  compQuality : UInt16 := 0
  compWindowSize : UInt16 := 0
  delay : UInt16 := 0
  maxVideoFrameSize : UInt32 := 0
  maxPayloadTransferSize : UInt32 := 0
  -- from version 1.1 on
  clockFrequency : UInt32 := 0
  framingInfo : UInt8 := 0
  preferredVersion : UInt8 := 0
  minVersion : UInt8 := 0
  maxVersion : UInt8 := 0
  -- from version 1.5 on
  usage : UInt8 := 0
  bitDepthLuma : UInt8 := 0
  settings : UInt8 := 0
  maxNumberOfRefFrames : UInt8 := 0
  rateControlModes : UInt16 := 0
  layoutPerStream : UInt64 := 0
  deriving DecidableEq

namespace ProbeBlock

/-- The length up to version 1.0, which every answer must have. -/
def minLength : Nat := 26

/-- The length from version 1.5 on, with all fields. -/
def fullLength : Nat := 48

/-- The length of the block for a version of the video class. -/
def lengthFor (uvcVersion : UInt16) : Nat :=
  if 0x0150 ≤ uvcVersion then fullLength
  else if 0x0110 ≤ uvcVersion then 34
  else minLength

/-- A request for a format, a frame and an interval, with the hint to keep the interval. -/
def request (formatIndex frameIndex : UInt8) (frameInterval : UInt32) : ProbeBlock :=
  { hint := 0x0001, formatIndex, frameIndex, frameInterval }

/-- All fields on the wire. -/
def bytes (p : ProbeBlock) : Bytes :=
  Bytes.word16 p.hint ++ [p.formatIndex, p.frameIndex] ++ Bytes.word32 p.frameInterval
  ++ Bytes.word16 p.keyFrameRate ++ Bytes.word16 p.pFrameRate
  ++ Bytes.word16 p.compQuality ++ Bytes.word16 p.compWindowSize ++ Bytes.word16 p.delay
  ++ Bytes.word32 p.maxVideoFrameSize ++ Bytes.word32 p.maxPayloadTransferSize
  ++ Bytes.word32 p.clockFrequency
  ++ [p.framingInfo, p.preferredVersion, p.minVersion, p.maxVersion]
  ++ [p.usage, p.bitDepthLuma, p.settings, p.maxNumberOfRefFrames]
  ++ Bytes.word16 p.rateControlModes ++ Bytes.word64 p.layoutPerStream

@[simp] theorem length_bytes (p : ProbeBlock) : p.bytes.length = fullLength := by
  simp [bytes, fullLength]

/-- The block cut to `length` bytes. -/
def encode (p : ProbeBlock) (length : Nat) : Bytes := p.bytes.take length

/-- The number in the `n` bytes at `i`. -/
def field (block : Bytes) (i n : Nat) : Nat := Bytes.value ((block.drop i).take n)

/-- The fields of a block; those past its end are zero. -/
def ofBytes (block : Bytes) : ProbeBlock :=
  { hint := .ofNat (field block 0 2)
    formatIndex := .ofNat (field block 2 1)
    frameIndex := .ofNat (field block 3 1)
    frameInterval := .ofNat (field block 4 4)
    keyFrameRate := .ofNat (field block 8 2)
    pFrameRate := .ofNat (field block 10 2)
    compQuality := .ofNat (field block 12 2)
    compWindowSize := .ofNat (field block 14 2)
    delay := .ofNat (field block 16 2)
    maxVideoFrameSize := .ofNat (field block 18 4)
    maxPayloadTransferSize := .ofNat (field block 22 4)
    clockFrequency := .ofNat (field block 26 4)
    framingInfo := .ofNat (field block 30 1)
    preferredVersion := .ofNat (field block 31 1)
    minVersion := .ofNat (field block 32 1)
    maxVersion := .ofNat (field block 33 1)
    usage := .ofNat (field block 34 1)
    bitDepthLuma := .ofNat (field block 35 1)
    settings := .ofNat (field block 36 1)
    maxNumberOfRefFrames := .ofNat (field block 37 1)
    rateControlModes := .ofNat (field block 38 2)
    layoutPerStream := .ofNat (field block 40 8) }

/-- Read a block, if it is long enough. -/
def decode (block : Bytes) : Option ProbeBlock :=
  if block.length < minLength then none else some (ofBytes block)

end ProbeBlock

end UsbVideo
