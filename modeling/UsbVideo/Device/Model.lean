import UsbVideo.Descriptor.Device

/-!
# Device models

A `DeviceModel` says what a camera offers: its version, its endpoint, its formats and frames.
`DeviceModel.configuration` lays it out as the configuration block such a camera reports: a control
interface with the chain camera terminal → processing unit → extension unit → output terminal, and
one streaming interface.

Lengths and counts are stored in single bytes, totals in 16 bits; larger ones are cut.
-/

namespace UsbVideo

/-- One picture size of a format. -/
structure FrameSpec where
  width : UInt16
  height : UInt16
  intervals : FrameIntervals
  deriving DecidableEq

/-- The first discrete interval, or the lower end of a range. -/
def FrameSpec.defaultInterval (f : FrameSpec) : UInt32 :=
  match f.intervals with
  | .discrete (first :: _) => first
  | .discrete [] => 333333
  | .continuous min _ _ => min

/-- An encoding and its picture sizes. -/
structure FormatSpec where
  encoding : Encoding
  frames : List FrameSpec
  deriving DecidableEq

namespace FormatSpec

/-- The depth a format descriptor states. -/
def bitsPerPixel (f : FormatSpec) : UInt8 := (f.encoding.bitsPerPixel?.getD 16).toUInt8

/-- The frame size a frame descriptor states. -/
def maxFrameSize (f : FormatSpec) (frame : FrameSpec) : UInt32 :=
  let pixels := frame.width.toUInt32 * frame.height.toUInt32
  match f.encoding with
  | .mjpeg => pixels * 2
  | .frameBased _ => 0
  | _ => pixels * f.bitsPerPixel.toUInt32 / 8

end FormatSpec

/-- What a camera offers. As it stands: version 1.10, endpoint `0x81`, one isochronous alternate
setting of 1024 bytes and no formats. -/
structure DeviceModel where
  uvcVersion : UInt16 := 0x0110
  endpoint : UInt8 := 0x81
  /-- Packet size of a bulk endpoint on alternate setting 0. -/
  bulkPacketSize : Option UInt16 := none
  /-- Packet size fields of the alternate settings from 1 on. -/
  isoPacketSizes : List UInt16 := [1024]
  formats : List FormatSpec := []
  deriving DecidableEq

namespace DeviceModel

/-! ### Making a model -/

/-- Stream over a bulk endpoint in place of isochronous settings. -/
def withBulk (m : DeviceModel) (packetSize : UInt16) : DeviceModel :=
  { m with bulkPacketSize := some packetSize, isoPacketSizes := [] }

/-- Stream over isochronous settings of these packet sizes in place of a bulk endpoint. -/
def withIso (m : DeviceModel) (packetSizes : List UInt16) : DeviceModel :=
  { m with bulkPacketSize := none, isoPacketSizes := packetSizes }

def withFormat (m : DeviceModel) (format : FormatSpec) : DeviceModel :=
  { m with formats := m.formats ++ [format] }

/-- A typical webcam: YUY2 and MJPEG over five isochronous settings of 128 to 3072 bytes. -/
def webcam : DeviceModel :=
  let frame (width height : UInt16) : FrameSpec :=
    ⟨width, height, .discrete [333333, 666666, 1000000]⟩
  { isoPacketSizes := [128, 512, 1024, 0x0C00, 0x1400]
    formats :=
      [⟨.yuy2, [frame 640 480, frame 800 600]⟩,
       ⟨.mjpeg, [frame 640 480, frame 800 600, frame 1280 720]⟩] }

/-! ### Looking up -/

/-- The format and frame of a pair of descriptor indices, which count from 1. -/
def lookup (m : DeviceModel) (format frame : UInt8) : Option (FormatSpec × FrameSpec) :=
  if format = 0 ∨ frame = 0 then none
  else do
    let formatSpec ← m.formats[format.toNat - 1]?
    let frameSpec ← formatSpec.frames[frame.toNat - 1]?
    return (formatSpec, frameSpec)

/-! ### Descriptors -/

def controlInterfaceNumber : UInt8 := 0

def streamingInterfaceNumber : UInt8 := 1

def cameraTerminalId : UInt8 := 1

def processingUnitId : UInt8 := 2

def outputTerminalId : UInt8 := 3

def extensionUnitId : UInt8 := 4

/-- The GUID of the extension unit. -/
def extensionGuid : Guid :=
  #v[0x41, 0x76, 0x9E, 0xA2, 0x04, 0xDE, 0xE3, 0x47, 0x8B, 0x2B, 0xF4, 0x34, 0x1A, 0xFF, 0x00, 0x3B]

/-- The device descriptor of a composite device on a bus of version 2.00. -/
def deviceDescriptor (vendorId productId : UInt16) : Bytes :=
  [18, DescriptorType.device, 0x00, 0x02, 0xEF, 0x02, 0x01, 64]
    ++ Bytes.word16 vendorId ++ Bytes.word16 productId
    ++ [0x00, 0x01, 1, 2, 0, 1]

/-- A standard interface entry. -/
def interfaceEntry (number alt endpoints subclass : UInt8) : Bytes :=
  [9, DescriptorType.interface, number, alt, endpoints, VideoClass.code, subclass, 0, 0]

/-- A standard endpoint entry. -/
def endpointEntry (address attributes : UInt8) (packetSize : UInt16) (interval : UInt8) : Bytes :=
  [7, DescriptorType.endpoint, address, attributes] ++ Bytes.word16 packetSize ++ [interval]

/-- The entries of the control interface behind its header. -/
def controlUnits : Bytes :=
  [18, DescriptorType.classInterface, ControlSubtype.inputTerminal, cameraTerminalId,
    0x01, 0x02, 0, 0, 0, 0, 0, 0, 0, 0, 3, 0x0A, 0x00, 0x00]
  ++ [11, DescriptorType.classInterface, ControlSubtype.processingUnit, processingUnitId,
    cameraTerminalId, 0, 0, 2, 0x7F, 0x15, 0]
  ++ [26, DescriptorType.classInterface, ControlSubtype.extensionUnit, extensionUnitId]
    ++ extensionGuid.toList ++ [2, 1, processingUnitId, 1, 0x03, 0]
  ++ [9, DescriptorType.classInterface, ControlSubtype.outputTerminal, outputTerminalId,
    0x01, 0x01, 0, extensionUnitId, 0]

/-- The header of the control interface; it states the length of itself and the units. -/
def controlHeader (m : DeviceModel) : Bytes :=
  [13, DescriptorType.classInterface, ControlSubtype.header] ++ Bytes.word16 m.uvcVersion
    ++ Bytes.littleEndian 2 (13 + controlUnits.length)
    ++ Bytes.word32 48000000 ++ [1, streamingInterfaceNumber]

/-- The control interface with its status endpoint. -/
def controlBlock (m : DeviceModel) : Bytes :=
  interfaceEntry controlInterfaceNumber 0 1 VideoClass.control
    ++ m.controlHeader ++ controlUnits
    ++ endpointEntry 0x83 0x03 16 8
    ++ [5, DescriptorType.classEndpoint, 0x03, 16, 0]

/-- The interval count and the intervals of a frame entry. -/
def intervalFields (intervals : FrameIntervals) : UInt8 × List UInt32 :=
  match intervals with
  | .discrete list => (.ofNat list.length, list)
  | .continuous min max step => (0, [min, max, step])

/-- The entry of the frame with this index. -/
def frameEntry (format : FormatSpec) (index : UInt8) (frame : FrameSpec) : Bytes :=
  let (count, intervals) := intervalFields frame.intervals
  let bitrate := frame.width.toUInt32 * frame.height.toUInt32 * 16 * 30
  let sizes : Bytes :=
    match format.encoding with
    | .frameBased _ => Bytes.word32 frame.defaultInterval ++ [count] ++ Bytes.word32 0
    | _ =>
      Bytes.word32 (format.maxFrameSize frame) ++ Bytes.word32 frame.defaultInterval ++ [count]
  [.ofNat (26 + intervals.length * 4), DescriptorType.classInterface,
    format.encoding.frameSubtype, index, 0]
  ++ Bytes.word16 frame.width ++ Bytes.word16 frame.height
  ++ Bytes.word32 (bitrate / 4) ++ Bytes.word32 bitrate
  ++ sizes ++ intervals.flatMap Bytes.word32

/-- The entry of the format itself. -/
def formatHead (index : UInt8) (format : FormatSpec) : Bytes :=
  let frames := UInt8.ofNat format.frames.length
  match format.encoding with
  | .mjpeg =>
    [11, DescriptorType.classInterface, StreamingSubtype.mjpegFormat, index, frames,
      1, 1, 0, 0, 0, 0]
  | .frameBased guid =>
    [28, DescriptorType.classInterface, StreamingSubtype.frameBasedFormat, index, frames]
      ++ guid.toList ++ [format.bitsPerPixel, 1, 0, 0, 0, 0, 1]
  | raw =>
    [27, DescriptorType.classInterface, StreamingSubtype.uncompressedFormat, index, frames]
      ++ (raw.guid?.getD (Vector.replicate 16 0)).toList ++ [format.bitsPerPixel, 1, 0, 0, 0, 0]

/-- The entries of the format with this index: itself, its frames and its colour matching. -/
def formatBlock (index : UInt8) (format : FormatSpec) : Bytes :=
  formatHead index format
  ++ (format.frames.zipIdx.flatMap fun (frame, i) => frameEntry format (.ofNat (i + 1)) frame)
  ++ [6, DescriptorType.classInterface, StreamingSubtype.colorFormat, 1, 1, 4]

/-- The entries of all formats. -/
def formatBlocks (m : DeviceModel) : Bytes :=
  m.formats.zipIdx.flatMap fun (format, i) => formatBlock (.ofNat (i + 1)) format

/-- The input header; it states the length of itself and the formats. -/
def inputHeader (m : DeviceModel) : Bytes :=
  let formats := UInt8.ofNat m.formats.length
  [13 + formats, DescriptorType.classInterface, StreamingSubtype.inputHeader, formats]
    ++ Bytes.littleEndian 2 (13 + formats.toNat + m.formatBlocks.length)
    ++ [m.endpoint, 0, outputTerminalId, 2, 0, 0, 1]
    ++ List.replicate formats.toNat 0

/-- The alternate setting with this number and its isochronous endpoint. -/
def isoAltBlock (m : DeviceModel) (number : UInt8) (packetSize : UInt16) : Bytes :=
  interfaceEntry streamingInterfaceNumber number 1 VideoClass.streaming
    ++ endpointEntry m.endpoint 0x05 packetSize 1

/-- The streaming interface with all its alternate settings. -/
def streamingBlock (m : DeviceModel) : Bytes :=
  interfaceEntry streamingInterfaceNumber 0 (if m.bulkPacketSize.isSome then 1 else 0)
      VideoClass.streaming
    ++ m.inputHeader ++ m.formatBlocks
    ++ (match m.bulkPacketSize with
        | some packetSize => endpointEntry m.endpoint 0x02 packetSize 0
        | none => [])
    ++ m.isoPacketSizes.zipIdx.flatMap fun (packetSize, i) =>
        m.isoAltBlock (.ofNat (i + 1)) packetSize

/-- Everything behind the configuration entry. -/
def interfaces (m : DeviceModel) : Bytes :=
  [8, DescriptorType.interfaceAssociation, controlInterfaceNumber, 2, VideoClass.code, 0x03, 0, 0]
    ++ m.controlBlock ++ m.streamingBlock

/-- The configuration block. -/
def configuration (m : DeviceModel) : Bytes :=
  [9, DescriptorType.configuration] ++ Bytes.littleEndian 2 (9 + m.interfaces.length)
    ++ [2, 1, 0, 0x80, 250] ++ m.interfaces

end DeviceModel

end UsbVideo
