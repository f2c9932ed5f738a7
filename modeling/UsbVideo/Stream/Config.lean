import UsbVideo.Size
import UsbVideo.Stream.Resolve

/-!
# Stream configurations

A `StreamConfig` is everything agreed on for an open stream. `ResolvedRequest.finalize` makes it from
a resolved request once the device has answered the probe: it fixes the alternate setting, the packet
size and the number of packets.
-/

namespace UsbVideo

/-- How a pool of transfers is run on an endpoint. -/
structure TransferPlan where
  endpoint : UInt8
  kind : TransferKind
  packetSize : Nat
  packetsPerRequest : Nat
  requestCount : Nat
  /-- How long cancelled transfers are waited for, in milliseconds. -/
  cancelTimeout : Nat
  deriving DecidableEq

/-- Bytes of one request, if they can be counted. -/
def TransferPlan.requestSize (p : TransferPlan) : Option Nat :=
  countable (p.packetSize * p.packetsPerRequest)

/-- The parameters of an open stream. -/
structure StreamConfig where
  interface : UInt8
  formatIndex : UInt8
  frameIndex : UInt8
  encoding : Encoding
  width : UInt32
  height : UInt32
  bitsPerPixel : UInt32
  frameInterval : UInt32
  altSetting : UInt8
  endpoint : UInt8
  transfer : TransferKind
  maxPacketSize : Nat
  packetsPerRequest : Nat
  activeRequests : Nat
  maxVideoFrameSize : UInt32
  maxPayloadTransferSize : UInt32
  uvcVersion : UInt16
  unitId : Option UInt8
  terminalId : Option UInt8
  controlTerminal : Bytes
  controlUnit : Bytes
  stillCaptureMethod : UInt8
  deriving DecidableEq

namespace StreamConfig

/-- Frames per second. -/
def fps (c : StreamConfig) : Float := fpsOfInterval c.frameInterval

def isBulk (c : StreamConfig) : Bool := c.transfer == .bulk

/-- The geometry for reassembly and decoding. -/
def layout (c : StreamConfig) : FrameLayout :=
  { encoding := c.encoding
    width := c.width
    height := c.height
    bitsPerPixel := c.bitsPerPixel
    maxFrameSize := if c.maxVideoFrameSize = 0 then none else some c.maxVideoFrameSize.toNat }

/-- The pool of transfers for the stream. -/
def plan (c : StreamConfig) (settings : TransferSettings) : TransferPlan :=
  { endpoint := c.endpoint
    kind := c.transfer
    packetSize := c.maxPacketSize
    packetsPerRequest := c.packetsPerRequest
    requestCount := c.activeRequests
    cancelTimeout := settings.cancelTimeout }

end StreamConfig

/-- The part of a configuration that waits for the answer to the probe. -/
structure TransportChoice where
  transfer : TransferKind
  altSetting : UInt8
  endpoint : UInt8
  packetSize : Nat
  packetsPerRequest : Nat
  deriving DecidableEq

namespace ResolvedRequest

open StreamRequest

/-- Bulk: as many packets as a whole payload needs, or more if asked for. -/
def chooseBulk (r : ResolvedRequest) (s : StreamingInterface) (maxPayload : Nat) :
    Selection TransportChoice := do
  let endpoint ← foundOr .noBulkEndpoint s.bulkEndpoint?
  let packetSize := r.maxPacketSize.getD endpoint.capacity
  if packetSize = 0 then unsupported .zeroBulkPacket
  else
    return ⟨.bulk, 0, endpoint.address, packetSize,
      max r.packetsPerRequest (divCeil maxPayload packetSize)⟩

/-- The smallest of the settings that holds `need` bytes per interval, else the largest.
The settings are in ascending order. -/
def smallestSufficient (alts : List AltSetting) (need : Nat) : Option AltSetting :=
  (alts.find? (need ≤ ·.capacity)).or alts.getLast?

/-- The alternate setting asked for, where it is there, and else the one that suits. -/
def chooseAlt (r : ResolvedRequest) (alts : List AltSetting) (maxPayload : Nat) :
    Selection AltSetting :=
  let suitable : Selection AltSetting := do
    let need := r.maxPacketSize.getD maxPayload
    let alt ← foundOr .noIsochronousAlt (smallestSufficient alts need)
    remark <|
      s!"Selected alternate setting {alt.number} ({alt.capacity} bytes per interval) " ++
        s!"for {need} byte payloads"
    return alt
  match r.altSetting with
  | some number =>
    match alts.find? (·.number == number) with
    | some alt => pure alt
    | none => if r.altIsHint then suitable else unsupported (.altNotIsochronous number)
  | none => suitable

def chooseIsochronous (r : ResolvedRequest) (s : StreamingInterface) (maxPayload : Nat) :
    Selection TransportChoice := do
  let alt ← r.chooseAlt s.isochronousAlts maxPayload
  let packetSize := r.maxPacketSize.getD alt.capacity
  if packetSize < alt.capacity then
    Noted.note <| .warn <|
      s!"Packet size {packetSize} is below the {alt.capacity} bytes " ++
        s!"alternate setting {alt.number} may deliver"
  return ⟨.isochronous, alt.number, (alt.endpoint.map (·.address)).getD r.endpoint, packetSize,
    r.packetsPerRequest⟩

/-- Fix the transport parameters. The device may adjust the interval and the sizes. -/
def finalize (r : ResolvedRequest) (catalog : Catalog) (answer : ProbeBlock) :
    Noted StreamError StreamConfig := do
  let s ← foundOr .interfaceVanished (catalog.interface? r.interface)
  let maxPayload := answer.maxPayloadTransferSize.toNat
  let choice ← if r.bulk then r.chooseBulk s maxPayload else r.chooseIsochronous s maxPayload
  if answer.frameInterval ≠ r.frameInterval ∧ answer.frameInterval ≠ 0 then
    remark s!"Device adjusted frame interval {r.frameInterval} -> {answer.frameInterval}"
  return {
    interface := r.interface
    formatIndex := r.format.index
    frameIndex := r.frame.index
    encoding := r.format.encoding
    width := r.frame.width.toUInt32
    height := r.frame.height.toUInt32
    bitsPerPixel := r.format.bitsPerPixel.toUInt32
    frameInterval := if answer.frameInterval ≠ 0 then answer.frameInterval else r.frameInterval
    altSetting := choice.altSetting
    endpoint := choice.endpoint
    transfer := choice.transfer
    maxPacketSize := choice.packetSize
    packetsPerRequest := choice.packetsPerRequest
    activeRequests := r.activeRequests
    maxVideoFrameSize :=
      if answer.maxVideoFrameSize ≠ 0 then answer.maxVideoFrameSize else r.frame.maxFrameSize
    maxPayloadTransferSize := answer.maxPayloadTransferSize
    uvcVersion := r.uvcVersion
    unitId := r.unitId
    terminalId := r.terminalId
    controlTerminal := r.controlTerminal
    controlUnit := r.controlUnit
    stillCaptureMethod := r.stillCaptureMethod }

end ResolvedRequest

end UsbVideo
