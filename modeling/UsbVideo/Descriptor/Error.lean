import UsbVideo.Encoding
import UsbVideo.Text

/-!
# Malformed descriptors

A block of descriptors is refused at an offset, for a reason. `DescriptorError.message` words it.
-/

namespace UsbVideo

/-- The parts of a descriptor that need a minimum length. -/
inductive DescriptorPart where
  | configuration
  | interface
  | endpoint
  | controlHeader
  | inputTerminal
  | cameraTerminal
  | cameraControls
  | outputTerminal
  | selectorUnit
  | selectorSources
  | processingUnit
  | processingControls
  | extensionUnit
  | extensionSources
  | extensionControls
  | inputHeader
  | format
  | mjpegFormat
  | frame
  | frameBasedFrame
  | continuousIntervals
  | discreteIntervals
  deriving DecidableEq

/-- The name of a part in messages. -/
def DescriptorPart.name : DescriptorPart → String
  | configuration => "configuration descriptor"
  | interface => "interface descriptor"
  | endpoint => "endpoint descriptor"
  | controlHeader => "VC header"
  | inputTerminal => "input terminal"
  | cameraTerminal => "camera terminal"
  | cameraControls => "camera terminal controls"
  | outputTerminal => "output terminal"
  | selectorUnit => "selector unit"
  | selectorSources => "selector unit sources"
  | processingUnit => "processing unit"
  | processingControls => "processing unit controls"
  | extensionUnit => "extension unit"
  | extensionSources => "extension unit sources"
  | extensionControls => "extension unit controls"
  | inputHeader => "VS input header"
  | format => "format descriptor"
  | mjpegFormat => "MJPEG format descriptor"
  | frame => "frame descriptor"
  | frameBasedFrame => "frame-based frame descriptor"
  | continuousIntervals => "continuous frame intervals"
  | discreteIntervals => "discrete frame intervals"

/-- Why a block of descriptors is refused. -/
inductive DescriptorFlaw where
  | deviceTooShort
  | notADevice (kind : UInt8)
  | trailingByte
  | lengthTooSmall (length : Nat)
  | lengthPastEnd (length remaining : Nat)
  | notAConfiguration (kind : UInt8)
  | tooShort (part : DescriptorPart) (needed actual : Nat)
  | noSubtype
  | frameBeforeFormat
  | frameOfOtherFormat (subtype : UInt8) (encoding : Encoding) (expected : UInt8)
  /-- A format follows a format that has no frames. -/
  | formatLeftEmpty (index : UInt8)
  | noControlInterface
  | noStreamingInterface
  /-- At the end of the block a format has no frames. -/
  | formatWithoutFrames (index : UInt8) (encoding : Encoding) (interface : UInt8)
  /-- A flaw found elsewhere and given in words. -/
  | other (text : String)
  deriving DecidableEq

/-- The words of a flaw. -/
def DescriptorFlaw.message : DescriptorFlaw → String
  | deviceTooShort => "device descriptor shorter than 18 bytes"
  | notADevice kind => s!"expected device descriptor, found type 0x{hex2 kind.toNat}"
  | trailingByte => "trailing byte after last descriptor"
  | lengthTooSmall length => s!"bLength {length} too small"
  | lengthPastEnd length remaining => s!"bLength {length} exceeds remaining {remaining} bytes"
  | notAConfiguration kind => s!"expected configuration descriptor, found type 0x{hex2 kind.toNat}"
  | tooShort part needed actual => s!"{part.name} needs {needed} bytes, bLength is {actual}"
  | noSubtype => "class-specific entry without subtype"
  | frameBeforeFormat => "frame descriptor before any format descriptor"
  | frameOfOtherFormat subtype encoding expected =>
    s!"frame subtype 0x{hex2 subtype.toNat} under {encoding.name} format " ++
      s!"(expected 0x{hex2 expected.toNat})"
  | formatLeftEmpty index => s!"format {index} has no frame descriptors"
  | noControlInterface => "no video control interface"
  | noStreamingInterface => "no video streaming interface"
  | formatWithoutFrames index encoding interface =>
    s!"format {index} ({encoding.name}) on interface {interface} has no frame descriptors"
  | other text => text

/-- A flaw and where it is. -/
structure DescriptorError where
  offset : Nat
  flaw : DescriptorFlaw
  deriving DecidableEq

def DescriptorError.message (e : DescriptorError) : String :=
  s!"malformed descriptor at offset {e.offset}: {e.flaw.message}"

end UsbVideo
