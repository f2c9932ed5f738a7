import UsbVideo.Descriptor.Error
import UsbVideo.Frame
import UsbVideo.Transport.Basic

/-!
# Errors and faults of a stream

`StreamError` is why a stream did not open, `StreamFault` why an open one ended, `DecodeError` why one
of its frames was not delivered. Each has its words in one `message`.
-/

namespace UsbVideo

/-- Where a controller stands. -/
inductive StreamState where
  | closed
  | negotiating
  | streaming
  | stopping
  /-- The stream ended by itself; only closing is accepted. -/
  | faulted
  deriving DecidableEq

def StreamState.name : StreamState → String
  | closed => "closed"
  | negotiating => "negotiating"
  | streaming => "streaming"
  | stopping => "stopping"
  | faulted => "faulted"

/-! ### Decoding -/

/-- Why a frame could not be decoded. -/
inductive DecodeError where
  | missingStart
  | missingEnd
  /-- The image decoder refused the image; it may say why. -/
  | jpeg (detail : Option String)
  | sizeMismatch (expected actual : Nat)
  | dimensionMismatch (width height actualWidth actualHeight : UInt32)
  | oddDimensions (encoding : Encoding) (width height : UInt32)
  | unsupported (encoding : Encoding)
  deriving DecidableEq

def DecodeError.message : DecodeError → String
  | missingStart => "truncated MJPEG frame: missing SOI marker"
  | missingEnd => "truncated MJPEG frame: missing EOI marker"
  | jpeg none => "invalid JPEG stream"
  | jpeg (some detail) => "invalid JPEG stream: " ++ detail
  | sizeMismatch expected actual =>
    s!"frame size mismatch: expected {expected} bytes, got {actual}"
  | dimensionMismatch width height actualWidth actualHeight =>
    s!"decoded image is {actualWidth}x{actualHeight}, negotiated {width}x{height}"
  | oddDimensions encoding width height =>
    s!"{encoding.name} needs even dimensions, got {width}x{height}"
  | unsupported encoding => "no decoder for " ++ encoding.name

/-! ### Faults -/

/-- Why an open stream ended. -/
inductive StreamFault where
  | transferFailures (count : Nat) (last : TransferStatus)
  | disconnected
  | decodeErrors (count : Nat)
  deriving DecidableEq

def StreamFault.message : StreamFault → String
  | transferFailures count last =>
    s!"{count} consecutive transfer failures (last status: {last.name})"
  | disconnected => "device disconnected"
  | decodeErrors count => s!"{count} consecutive frames failed to decode"

/-! ### Starting transfers -/

/-- Why buffers could not be had. -/
inductive AllocationFailure where
  /-- Nothing to transfer, or a request of more bytes than can be counted. -/
  | shape (requestCount packetSize packetsPerRequest : Nat)
  | poolOverflow
  /-- More bytes than an allocation can be asked for. -/
  | capacityOverflow
  /-- More bytes than the memory has. -/
  | outOfMemory
  | other (text : String)
  deriving DecidableEq

def AllocationFailure.message : AllocationFailure → String
  | shape requestCount packetSize packetsPerRequest =>
    s!"{requestCount} requests of {packetSize} x {packetsPerRequest} bytes"
  | poolOverflow => "transfer pool size overflows"
  | capacityOverflow =>
    "memory allocation failed because the computed capacity exceeded the collection's maximum"
  | outOfMemory => "memory allocation failed because the memory allocator returned an error"
  | other text => text

/-- Why transfers could not be started on an endpoint. -/
inductive StartError where
  | deviceBusy (endpoint : UInt8)
  | allocationFailure (failure : AllocationFailure)
  | transport (error : TransportError)
  deriving DecidableEq

def StartError.message : StartError → String
  | deviceBusy endpoint => s!"endpoint 0x{hex2 endpoint.toNat} already has an active stream"
  | allocationFailure failure => "transfer buffer allocation failed: " ++ failure.message
  | transport error => "initial submission failed: " ++ error.message

/-! ### Opening -/

/-- What a request asks for that the device does not offer. -/
inductive Unsupported where
  | noSuchInterface (number : UInt8)
  | noInterface
  | noFormatWithIndex (index : UInt8)
  | otherEncoding (index : UInt8) (actual wanted : Encoding)
  | noFormatWithEncoding (encoding : Encoding)
  | noFormat
  | noFrameWithIndex (encoding : Encoding) (index : UInt8)
  | otherSize (index : UInt8) (width height : UInt16)
  | noFrameOfSize (encoding : Encoding) (width height : UInt32)
  | noFrame
  | halfASize
  | interval (encoding : Encoding) (width height : UInt16) (wanted : UInt32) (supported : String)
  | noBulkEndpoint
  | noIsochronousAlt
  | altNotIsochronous (alt : UInt8)
  | interfaceVanished
  | zeroBulkPacket
  | other (text : String)
  deriving DecidableEq

def Unsupported.message : Unsupported → String
  | noSuchInterface number => s!"no streaming interface {number}"
  | noInterface => "device has no streaming interface"
  | noFormatWithIndex index => s!"no format with index {index}"
  | otherEncoding index actual wanted => s!"format {index} is {actual.name}, not {wanted.name}"
  | noFormatWithEncoding encoding => s!"device offers no {encoding.name} format"
  | noFormat => "streaming interface has no formats"
  | noFrameWithIndex encoding index => s!"{encoding.name} format has no frame with index {index}"
  | otherSize index width height => s!"frame {index} is {width}x{height}, not the requested size"
  | noFrameOfSize encoding width height => s!"{encoding.name} {width}x{height}"
  | noFrame => "format has no frames"
  | halfASize => "width and height must be given together"
  | interval encoding width height wanted supported =>
    s!"{encoding.name} {width}x{height} does not support interval {wanted} " ++
      s!"(supported: {supported})"
  | noBulkEndpoint => "device has no bulk streaming endpoint"
  | noIsochronousAlt => "device has no isochronous alternate setting"
  | altNotIsochronous alt => s!"alternate setting {alt} has no isochronous endpoint"
  | interfaceVanished => "streaming interface vanished"
  | zeroBulkPacket => "bulk endpoint reports zero packet size"
  | other text => text

/-- The exchanges of the probe and commit handshake. -/
inductive HandshakeStep where
  | setProbe
  | getProbe
  | setCommit
  deriving DecidableEq

def HandshakeStep.name : HandshakeStep → String
  | setProbe => "probe SET_CUR"
  | getProbe => "probe GET_CUR"
  | setCommit => "commit SET_CUR"

/-- How a device turned the handshake down. -/
inductive Rejection where
  | refused (step : HandshakeStep) (error : TransportError)
  | shortAnswer (length : Nat)
  | otherSelection (format frame requestedFormat requestedFrame : UInt8)
  | other (text : String)
  deriving DecidableEq

def Rejection.message : Rejection → String
  | refused step error => s!"{step.name}: {error.message}"
  | shortAnswer length => s!"probe answer is {length} bytes"
  | otherSelection format frame requestedFormat requestedFrame =>
    s!"device answered format {format} frame {frame}, " ++
      s!"requested format {requestedFormat} frame {requestedFrame}"
  | other text => text

/-- Why a stream did not open. -/
inductive StreamError where
  | malformedDescriptor (error : DescriptorError)
  | unsupportedFormat (reason : Unsupported)
  | negotiationRejected (reason : Rejection)
  | deviceBusy (device : String)
  | start (error : StartError)
  | invalidState (operation : String) (state : StreamState)
  | transport (error : TransportError)
  deriving DecidableEq

namespace StreamError

def message : StreamError → String
  | malformedDescriptor error => error.message
  | unsupportedFormat reason => "unsupported format: " ++ reason.message
  | negotiationRejected reason => "device rejected stream negotiation: " ++ reason.message
  | deviceBusy device => "device is already streaming: " ++ device
  | start error => error.message
  | invalidState operation state => s!"{operation} not allowed in state {state.name}"
  | transport error => "transport error: " ++ error.message

/-- Whether opening may succeed with a different request. -/
def isRecoverable : StreamError → Bool
  | unsupportedFormat _ | negotiationRejected _ | deviceBusy _ => true
  | _ => false

end StreamError

end UsbVideo
