import UsbVideo.Frame

/-!
# Stream requests

A host asks for a stream by filling in as many fields of a `StreamRequest` as it cares about. A
`Preset` is a request known to work; the empty request stands for one.
-/

namespace UsbVideo

/-- What a host asks for. Fields left open are filled from the device and the settings. -/
structure StreamRequest where
  interface : Option UInt8 := none
  formatIndex : Option UInt8 := none
  frameIndex : Option UInt8 := none
  /-- Choose the format by its encoding. -/
  encoding : Option Encoding := none
  width : Option UInt32 := none
  height : Option UInt32 := none
  frameInterval : Option UInt32 := none
  altSetting : Option UInt8 := none
  maxPacketSize : Option Nat := none
  packetsPerRequest : Option Nat := none
  /-- Requests kept in flight. -/
  activeRequests : Option Nat := none
  unitId : Option UInt8 := none
  terminalId : Option UInt8 := none
  /-- Control bits of the camera terminal. -/
  controlTerminal : Option Bytes := none
  /-- Control bits of the processing unit. -/
  controlUnit : Option Bytes := none
  stillCaptureMethod : Option UInt8 := none
  bulk : Option Bool := none
  deriving DecidableEq

/-- Whether every field was left open. -/
def StreamRequest.isEmpty (r : StreamRequest) : Bool := r == {}

/-- Requests known to work. -/
inductive Preset where
  /-- MJPEG 800x600 at 30 fps, 32 requests of 32 packets of 1024 bytes. -/
  | standard
  /-- MJPEG 640x480 at 30 fps, 64 requests of 96 packets of 1024 bytes. -/
  | brioStable
  deriving DecidableEq

namespace Preset

/-- The name shown in the log. -/
def name : Preset → String
  | standard => "Default"
  | brioStable => "BrioStable"

/-- The interval of 30 frames per second. -/
def interval : UInt32 := 333333

/-- A preset spelled out. -/
def request : Preset → StreamRequest
  | standard =>
    { encoding := some .mjpeg, width := some 800, height := some 600
      frameInterval := some interval, altSetting := some 4, maxPacketSize := some 1024
      packetsPerRequest := some 32, activeRequests := some 32 }
  | brioStable =>
    { encoding := some .mjpeg, width := some 640, height := some 480
      frameInterval := some interval, altSetting := some 4, maxPacketSize := some 1024
      packetsPerRequest := some 96, activeRequests := some 64 }

end Preset

end UsbVideo
