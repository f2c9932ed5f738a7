import UsbVideo.Probe
import UsbVideo.Stream.Error

/-!
# The handshake

Host and device agree in three control transfers: the host proposes a block, reads the device's
answer, and commits to the answer as it stands. The device may adjust the interval and the sizes but
must keep the format and the frame.
-/

namespace UsbVideo

namespace VideoControl

/-- Request type of a transfer to a streaming interface. -/
def setRequestType : UInt8 := 0x21

/-- Request type of a transfer from a streaming interface. -/
def getRequestType : UInt8 := 0xA1

def setCurrent : UInt8 := 0x01

def getCurrent : UInt8 := 0x81

/-- Selector of the probe control. -/
def probe : UInt8 := 0x01

/-- Selector of the commit control. -/
def commit : UInt8 := 0x02

/-- Write a control of an interface. -/
def set (selector interface : UInt8) : ControlSetup :=
  ⟨setRequestType, setCurrent, selector.toUInt16 * 256, interface.toUInt16⟩

/-- Read a control of an interface. -/
def get (selector interface : UInt8) : ControlSetup :=
  ⟨getRequestType, getCurrent, selector.toUInt16 * 256, interface.toUInt16⟩

end VideoControl

/-- A stall or a timeout is the device's refusal; anything else is a problem of the transport. -/
def HandshakeStep.failure (step : HandshakeStep) : TransportError → StreamError
  | .stall => .negotiationRejected (.refused step .stall)
  | .timeout => .negotiationRejected (.refused step .timeout)
  | error => .transport error

/-- The device's answer, if it may be committed to. -/
def checkAnswer (request : ProbeBlock) (answer : Bytes) : Except StreamError ProbeBlock :=
  match ProbeBlock.decode answer with
  | none => .error (.negotiationRejected (.shortAnswer answer.length))
  | some block =>
    if block.formatIndex = request.formatIndex ∧ block.frameIndex = request.frameIndex then .ok block
    else
      .error (.negotiationRejected
        (.otherSelection block.formatIndex block.frameIndex request.formatIndex request.frameIndex))

/-- Propose, read the answer and commit to it. -/
def negotiate {σ : Type} [Transport σ] (interface : UInt8) (uvcVersion : UInt16)
    (request : ProbeBlock) (timeout : Nat) (device : σ) : Except StreamError ProbeBlock × σ :=
  let length := ProbeBlock.lengthFor uvcVersion
  match Transport.controlOut (VideoControl.set VideoControl.probe interface)
      (request.encode length) timeout device with
  | (.error e, device) => (.error (HandshakeStep.setProbe.failure e), device)
  | (.ok _, device) =>
  match Transport.controlIn (VideoControl.get VideoControl.probe interface) length timeout
      device with
  | (.error e, device) => (.error (HandshakeStep.getProbe.failure e), device)
  | (.ok bytes, device) =>
  match checkAnswer request bytes with
  | .error e => (.error e, device)
  | .ok answer =>
  match Transport.controlOut (VideoControl.set VideoControl.commit interface)
      (answer.encode length) timeout device with
  | (.error e, device) => (.error (HandshakeStep.setCommit.failure e), device)
  | (.ok _, device) => (.ok answer, device)

end UsbVideo
