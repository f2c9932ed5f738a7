import UsbVideo.Device.Model
import UsbVideo.Lineup
import UsbVideo.Payload
import UsbVideo.Size
import UsbVideo.Stream.Negotiation

/-!
# A camera in memory

A `Loopback` serves the descriptors of a device model, answers the handshake, and completes submitted
transfers from a queue of payloads, at the moment its owner says so.

A transfer that completes successfully takes payloads from the front of the queue: one per packet, or
one for a bulk transfer. Any other completion takes none. A transfer is to have a buffer that holds its
packets; one that does not cannot be filled, and is lost.
-/

namespace UsbVideo

/-- A submission that waits for its completion. -/
structure PendingTransfer where
  mailbox : Mailbox
  transfer : Transfer

/-- A camera in memory. -/
structure Loopback where
  name : String
  model : DeviceModel
  /-- The payload size reported in probe answers. -/
  maxPayload : UInt32 := 3072
  connected : Bool := true
  rejectsProbe : Bool := false
  /-- Answer with this frame index in place of the requested one. -/
  answeredFrame : Option UInt8 := none
  probe : Option ProbeBlock := none
  committed : Option ProbeBlock := none
  /-- Interface and alternate setting of every selection so far. -/
  interfaceCalls : List (UInt8 × UInt8) := []
  /-- Submissions not completed yet, the oldest first. -/
  pending : Lineup PendingTransfer := {}
  payloads : List Bytes := []
  /-- The frame id of the next frame. -/
  toggle : Bool := false
  /-- Submissions still to be refused. -/
  failingSubmits : Nat := 0
  submitted : Nat := 0
  cancelled : Nat := 0

namespace Loopback

/-! ### Payloads -/

def queuePayload (d : Loopback) (payload : Bytes) : Loopback :=
  { d with payloads := d.payloads ++ [payload] }

/-- The payloads of a frame: `count` pieces of `chunk` bytes, each behind a header; the last one ends
the frame. -/
def framePayloads (frameId : Bool) (chunk : Nat) : (count : Nat) → Bytes → List Bytes
  | 0, _ => []
  | 1, data => [({ frameId, endOfFrame := true : Header }).encode ++ data.take chunk]
  | count + 2, data =>
    (({ frameId : Header }).encode ++ data.take chunk)
      :: framePayloads frameId chunk (count + 1) (data.drop chunk)

/-- Queue a frame in payloads of at most `payloadSize` bytes, headers included, and flip the frame id.
An empty frame is one payload without data. -/
def queueFrame (d : Loopback) (data : Bytes) (payloadSize : Nat) : Loopback :=
  let chunk := max (payloadSize - 2) 1
  let count := max (divCeil data.length chunk) 1
  { d with
    payloads := d.payloads ++ framePayloads d.toggle chunk count data
    toggle := !d.toggle }

/-- Fill packet slots from `slot` on, one payload each. A slot that lies outside of the buffer has its
payload taken from the queue, but there is no transfer then. -/
def fillSlots (t : Transfer) : (slots : List Nat) → List Bytes → Option Transfer × List Bytes
  | slot :: slots, payload :: payloads =>
    match t.fillPacket? slot payload .completed with
    | none => (none, payloads)
    | some (_, filled) => fillSlots filled slots payloads
  | _, payloads => (some t, payloads)

/-- Fill a transfer from a queue of payloads, as far as its slots lie inside of its buffer; yields what is
left of the queue. -/
def fill (t : Transfer) (payloads : List Bytes) : Option Transfer × List Bytes :=
  match t.kind with
  | .isochronous => fillSlots t (List.range t.packets.length) payloads
  | .bulk =>
    match payloads with
    | [] => (some t, [])
    | payload :: rest => (some (t.fillBulk payload).2, rest)

/-! ### What the owner does -/

/-- Complete the `n`-th pending transfer, the oldest being 0. Says whether there is one. A transfer that
cannot be filled is lost, and there is no answer. -/
def completeNth (d : Loopback) (n : Nat) (status : TransferStatus) :
    Option Bool × List Post × Loopback :=
  match d.pending.toList[n]? with
  | none => (some false, [], d)
  | some p =>
    let (filled, payloads) :=
      if status.isSuccess then fill p.transfer d.payloads else (some p.transfer, d.payloads)
    let d := { d with pending := d.pending.eraseIdx n, payloads }
    match filled with
    | none => (none, [], d)
    | some transfer => (some true, [⟨p.mailbox, ⟨transfer, status⟩⟩], d)

def completeNext (d : Loopback) (status : TransferStatus) : Option Bool × List Post × Loopback :=
  d.completeNth 0 status

/-- Complete pending transfers while payloads are left, up to a number of turns; yields how many. -/
def pumpTurns (d : Loopback) : Nat → Option Nat × List Post × Loopback
  | 0 => (some 0, [], d)
  | turns + 1 =>
    if d.payloads.isEmpty then (some 0, [], d)
    else
      match d.completeNext .completed with
      | (none, _, d) => (none, [], d)
      | (some false, _, d) => (some 0, [], d)
      | (some true, first, d) =>
        let (n, later, d) := d.pumpTurns turns
        (n.map (· + 1), first ++ later, d)

/-- Complete pending transfers until the payloads are used up; yields how many. -/
def pump (d : Loopback) : Option Nat × List Post × Loopback := d.pumpTurns d.pending.length

/-- Unplug the device: every pending transfer ends, and nothing works any more. -/
def disconnect (d : Loopback) : List Post × Loopback :=
  (d.pending.toList.map fun p => ⟨p.mailbox, ⟨p.transfer, .noDevice⟩⟩,
    { d with connected := false, pending := {} })

/-! ### The handshake -/

/-- The answer to the block proposed last: its interval made one the frame supports, its sizes filled
in. A format or frame that does not exist has no answer. -/
def probeAnswer (d : Loopback) : Option ProbeBlock := do
  let proposed ← d.probe
  let (format, frame) ← d.model.lookup proposed.formatIndex proposed.frameIndex
  return { proposed with
    frameInterval :=
      if frame.intervals.supports proposed.frameInterval then proposed.frameInterval
      else frame.defaultInterval
    maxVideoFrameSize := format.maxFrameSize frame
    maxPayloadTransferSize := d.maxPayload
    frameIndex := d.answeredFrame.getD proposed.frameIndex }

/-- Whether a control transfer reads or writes the given control. -/
def addresses (setup : ControlSetup) (requestType request selector : UInt8) : Bool :=
  setup.requestType == requestType && setup.request == request
    && setup.value.toNat / 256 == selector.toNat

open VideoControl in
def controlIn (d : Loopback) (setup : ControlSetup) (length : Nat) : Except TransportError Bytes :=
  if !d.connected then .error .noDevice
  else if addresses setup getRequestType getCurrent VideoControl.probe then
    match d.probeAnswer with
    | some answer =>
      .ok ((answer.encode (ProbeBlock.lengthFor d.model.uvcVersion)).take length)
    | none => .error .stall
  else .error .stall

open VideoControl in
def controlOut (d : Loopback) (setup : ControlSetup) (data : Bytes) :
    Except TransportError Nat × Loopback :=
  if !d.connected then (.error .noDevice, d)
  else if addresses setup setRequestType setCurrent VideoControl.probe then
    if d.rejectsProbe then (.error .stall, d)
    else
      match ProbeBlock.decode data with
      | some block => (.ok data.length, { d with probe := some block })
      | none => (.error .stall, d)
  else if addresses setup setRequestType setCurrent VideoControl.commit then
    match ProbeBlock.decode data with
    | some block => (.ok data.length, { d with committed := some block })
    | none => (.error .stall, d)
  else (.error .stall, d)

/-! ### Transfers -/

def submit (d : Loopback) (mailbox : Mailbox) (transfer : Transfer) :
    Except Refusal Unit × Loopback :=
  if !d.connected then (.error ⟨transfer, .noDevice⟩, d)
  else if 0 < d.failingSubmits then
    (.error ⟨transfer, .io "injected submit failure"⟩,
      { d with failingSubmits := d.failingSubmits - 1 })
  else
    (.ok (), { d with
      submitted := d.submitted + 1
      pending := d.pending.push ⟨mailbox, transfer⟩ })

/-- Take a transfer back. One that has completed already is no error. -/
def cancel (d : Loopback) (endpoint : UInt8) (id : Nat) : List Post × Loopback :=
  let wanted (p : PendingTransfer) : Bool := p.transfer.endpoint == endpoint && p.transfer.id == id
  match d.pending.find? wanted with
  | none => ([], d)
  | some p =>
    ([⟨p.mailbox, ⟨p.transfer, .cancelled⟩⟩],
      { d with pending := d.pending.eraseP wanted, cancelled := d.cancelled + 1 })

/-- What a connected device reports. -/
def ifConnected {α : Type} (d : Loopback) (a : α) : Except TransportError α :=
  if d.connected then .ok a else .error .noDevice

def vendorId : UInt16 := 0x1d6b

def productId : UInt16 := 0x0102

instance : Transport Loopback where
  deviceId d := d.name
  deviceDescriptor d := (d.ifConnected (DeviceModel.deviceDescriptor vendorId productId), d)
  configurationDescriptor d := (d.ifConnected d.model.configuration, d)
  controlIn setup length _ d := (d.controlIn setup length, d)
  controlOut setup data _ d := d.controlOut setup data
  setInterface interface alt d :=
    if d.connected then (.ok (), { d with interfaceCalls := d.interfaceCalls ++ [(interface, alt)] })
    else (.error .noDevice, d)
  submit mailbox transfer d := d.submit mailbox transfer
  cancel endpoint id d :=
    let (posts, d) := d.cancel endpoint id
    (.ok (), posts, d)

end Loopback

end UsbVideo
