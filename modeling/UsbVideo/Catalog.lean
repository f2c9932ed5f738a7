import UsbVideo.Encoding
import UsbVideo.Text

/-!
# The catalog of a device

What a device's descriptors announce: the topology of the control interface, and for each streaming
interface its formats, their frames and the alternate settings that carry its endpoint.
-/

namespace UsbVideo

/-! ### Endpoints -/

inductive EndpointKind where
  | control
  | isochronous
  | bulk
  | interrupt
  deriving DecidableEq

/-- The transfer type in the low two bits of an endpoint's attributes. -/
def EndpointKind.ofAttributes (attributes : UInt8) : EndpointKind :=
  if attributes &&& 0x03 = 0 then control
  else if attributes &&& 0x03 = 1 then isochronous
  else if attributes &&& 0x03 = 2 then bulk
  else interrupt

/-- An endpoint descriptor. -/
structure Endpoint where
  address : UInt8
  kind : EndpointKind
  /-- The packet size field as it stands, multiplier bits included. -/
  maxPacketSize : UInt16
  interval : UInt8
  deriving DecidableEq

namespace Endpoint

/-- Bytes per transaction: the low eleven bits of the packet size. -/
def baseSize (e : Endpoint) : Nat := e.maxPacketSize.toNat % 2048

/-- Transactions per service interval: the two bits above, where 0 stands for one and a value
`n` for `n + 1`. -/
def multiplier (e : Endpoint) : Nat := e.maxPacketSize.toNat / 2048 % 4 + 1

/-- Bytes per service interval. -/
def capacity (e : Endpoint) : Nat := e.baseSize * e.multiplier

/-- Whether data flow to the host. -/
def isIn (e : Endpoint) : Bool := 0x80 ≤ e.address

end Endpoint

/-! ### Frame intervals -/

/-- The frame intervals a frame supports, in ticks of 100 ns. -/
inductive FrameIntervals where
  | discrete (intervals : List UInt32)
  | continuous (min max step : UInt32)
  deriving DecidableEq

namespace FrameIntervals

/-- Whether a frame may be sent at this interval. -/
def supports : FrameIntervals → UInt32 → Bool
  | discrete intervals, i => intervals.contains i
  | continuous min max step, i => min ≤ i && i ≤ max && (step = 0 || (i - min) % step = 0)

/-- The intervals as messages show them. -/
def text : FrameIntervals → String
  | discrete intervals => bracketed (intervals.map UInt32.toNat)
  | continuous min max step => s!"{min}..={max} step {step}"

end FrameIntervals

/-! ### Formats and frames -/

/-- A frame descriptor: one picture size of a format. -/
structure FrameDescriptor where
  index : UInt8
  width : UInt16
  height : UInt16
  /-- The largest frame in bytes; 0 for frame-based formats. -/
  maxFrameSize : UInt32
  defaultInterval : UInt32
  intervals : FrameIntervals
  deriving DecidableEq

/-- A format descriptor and its frames. -/
structure FormatDescriptor where
  index : UInt8
  encoding : Encoding
  bitsPerPixel : UInt8
  defaultFrameIndex : UInt8
  frames : List FrameDescriptor
  deriving DecidableEq

namespace FormatDescriptor

def frame? (f : FormatDescriptor) (index : UInt8) : Option FrameDescriptor :=
  f.frames.find? (·.index == index)

/-- The first frame of this picture size. -/
def frameOfSize? (f : FormatDescriptor) (width height : UInt32) : Option FrameDescriptor :=
  f.frames.find? fun frame => frame.width.toUInt32 == width && frame.height.toUInt32 == height

end FormatDescriptor

/-! ### Streaming interfaces -/

/-- An alternate setting and the endpoint it carries. -/
structure AltSetting where
  number : UInt8
  endpoint : Option Endpoint
  deriving DecidableEq

namespace AltSetting

/-- Bytes per service interval, 0 without an endpoint. -/
def capacity (a : AltSetting) : Nat :=
  match a.endpoint with
  | some e => e.capacity
  | none => 0

/-- Whether the setting carries an endpoint of this kind. -/
def carries (kind : EndpointKind) (a : AltSetting) : Bool :=
  match a.endpoint with
  | some e => e.kind == kind
  | none => false

end AltSetting

/-- A streaming interface and everything declared under it. -/
structure StreamingInterface where
  number : UInt8
  /-- The endpoint named by the input header. -/
  endpointAddress : UInt8 := 0
  terminalLink : UInt8 := 0
  stillCaptureMethod : UInt8 := 0
  formats : List FormatDescriptor := []
  altSettings : List AltSetting := []
  deriving DecidableEq

namespace StreamingInterface

def format? (s : StreamingInterface) (index : UInt8) : Option FormatDescriptor :=
  s.formats.find? (·.index == index)

def altSetting? (s : StreamingInterface) (number : UInt8) : Option AltSetting :=
  s.altSettings.find? (·.number == number)

/-- The bulk endpoint of alternate setting 0, for a device that streams over bulk. -/
def bulkEndpoint? (s : StreamingInterface) : Option Endpoint :=
  match s.altSetting? 0 with
  | some ⟨_, some e⟩ => if e.kind = .bulk then some e else none
  | _ => none

/-- The alternate settings with an isochronous endpoint, by ascending capacity; settings of one
capacity stay in the order they were declared in. -/
def isochronousAlts (s : StreamingInterface) : List AltSetting :=
  (s.altSettings.filter (·.carries .isochronous)).mergeSort (·.capacity ≤ ·.capacity)

end StreamingInterface

/-! ### The control interface -/

structure InputTerminal where
  id : UInt8
  terminalType : UInt16
  /-- The control bits, of camera terminals only. -/
  controls : Bytes
  deriving DecidableEq

structure OutputTerminal where
  id : UInt8
  terminalType : UInt16
  sourceId : UInt8
  deriving DecidableEq

structure SelectorUnit where
  id : UInt8
  sources : Bytes
  deriving DecidableEq

structure ProcessingUnit where
  id : UInt8
  sourceId : UInt8
  controls : Bytes
  deriving DecidableEq

structure ExtensionUnit where
  id : UInt8
  guid : Guid
  numControls : UInt8
  sources : Bytes
  controls : Bytes
  deriving DecidableEq

/-- The terminal type of a camera. -/
def cameraTerminalType : UInt16 := 0x0201

/-- The control interface and its topology. -/
structure ControlInterface where
  number : UInt8 := 0
  clockFrequency : UInt32 := 0
  inputTerminals : List InputTerminal := []
  outputTerminals : List OutputTerminal := []
  selectorUnits : List SelectorUnit := []
  processingUnits : List ProcessingUnit := []
  extensionUnits : List ExtensionUnit := []
  deriving DecidableEq

/-- The first camera terminal. -/
def ControlInterface.camera? (c : ControlInterface) : Option InputTerminal :=
  c.inputTerminals.find? (·.terminalType == cameraTerminalType)

/-! ### The device -/

/-- Everything a stream can be chosen from. -/
structure Catalog where
  vendorId : UInt16 := 0
  productId : UInt16 := 0
  /-- The version of the bus, binary-coded. -/
  usbVersion : UInt16 := 0
  /-- The version of the video class, binary-coded. -/
  uvcVersion : UInt16
  control : ControlInterface
  streaming : List StreamingInterface
  deriving DecidableEq

def Catalog.interface? (c : Catalog) (number : UInt8) : Option StreamingInterface :=
  c.streaming.find? (·.number == number)

end UsbVideo
