import UsbVideo.Transport.Transfer

/-!
# Transports

Everything that streaming needs of a host's bus stack: descriptor reads, control transfers, the choice
of an alternate setting, and transfers submitted now and completed later. `Transport σ` says that
states of type `σ` offer this.

A completion is posted to the mailbox given at submission. An honest transport posts exactly one for
each submission it accepted, cancelled ones included.
-/

namespace UsbVideo

/-- What the bus stack reports. -/
inductive TransportError where
  | stall
  | timeout
  | noDevice
  | busy
  | noMemory
  | io (text : String)
  deriving DecidableEq

def TransportError.message : TransportError → String
  | stall => "endpoint stalled"
  | timeout => "operation timed out"
  | noDevice => "device disconnected"
  | busy => "resource busy"
  | noMemory => "out of memory"
  | io text => "transport I/O error: " ++ text

/-- The header of a control transfer. -/
structure ControlSetup where
  requestType : UInt8
  request : UInt8
  value : UInt16
  index : UInt16
  deriving DecidableEq

/-- A finished transfer. -/
structure Completion where
  transfer : Transfer
  status : TransferStatus

/-- Names the receiver of completions. -/
abbrev Mailbox := Nat

/-- A completion on its way to a mailbox. -/
structure Post where
  mailbox : Mailbox
  completion : Completion

/-- A refused submission; the transfer comes back. -/
structure Refusal where
  transfer : Transfer
  error : TransportError

/-- A bus stack whose states are of type `σ`. Times are in milliseconds. -/
class Transport (σ : Type) where
  /-- A stable name of the device. -/
  deviceId : σ → String
  deviceDescriptor : σ → Except TransportError Bytes × σ
  /-- The configuration block with all interfaces. -/
  configurationDescriptor : σ → Except TransportError Bytes × σ
  /-- Ask for up to `length` bytes. -/
  controlIn (setup : ControlSetup) (length timeout : Nat) : σ → Except TransportError Bytes × σ
  /-- Send bytes; yields how many were taken. -/
  controlOut (setup : ControlSetup) (data : Bytes) (timeout : Nat) :
    σ → Except TransportError Nat × σ
  setInterface (interface alt : UInt8) : σ → Except TransportError Unit × σ
  /-- Queue a transfer. -/
  submit (mailbox : Mailbox) (transfer : Transfer) : σ → Except Refusal Unit × σ
  /-- Ask for a transfer back. It is posted as cancelled, or with its real status. -/
  cancel (endpoint : UInt8) (id : Nat) : σ → Except TransportError Unit × List Post × σ

end UsbVideo
