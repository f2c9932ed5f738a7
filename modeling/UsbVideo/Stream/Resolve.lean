import UsbVideo.Catalog
import UsbVideo.Decimal
import UsbVideo.Log
import UsbVideo.Probe
import UsbVideo.Settings
import UsbVideo.Stream.Error
import UsbVideo.Units

/-!
# Resolving a request

`resolve` picks the interface, format, frame and interval a request means on a catalog. What the
request sets is never overridden; what it leaves open is filled in, with a note. The transport
parameters stay open until the device has answered the probe.

    request  ──effective──▶  request or preset  ──select…──▶  resolved request
-/

namespace UsbVideo

/-- A request whose selection is fixed. -/
structure ResolvedRequest where
  interface : UInt8
  endpoint : UInt8
  uvcVersion : UInt16
  format : FormatDescriptor
  frame : FrameDescriptor
  frameInterval : UInt32
  bulk : Bool
  altSetting : Option UInt8
  /-- A preset's alternate setting is only a preference. -/
  altIsHint : Bool
  maxPacketSize : Option Nat
  packetsPerRequest : Nat
  activeRequests : Nat
  unitId : Option UInt8
  terminalId : Option UInt8
  controlTerminal : Bytes
  controlUnit : Bytes
  stillCaptureMethod : UInt8
  deriving DecidableEq

/-- The block that proposes the selection to the device. -/
def ResolvedRequest.probe (r : ResolvedRequest) : ProbeBlock :=
  .request r.format.index r.frame.index r.frameInterval

namespace StreamRequest

/-- A result of the selection, with notes on what was filled in. -/
abbrev Selection (α : Type) := Noted StreamError α

/-- Refuse the request. -/
def unsupported {α : Type} (reason : Unsupported) : Selection α :=
  .fail (.unsupportedFormat reason)

/-- Note that something was filled in. -/
def remark (text : String) : Selection Unit := .note (.info text)

/-- What was found, or a refusal. -/
def foundOr {α : Type} (reason : Unsupported) : Option α → Selection α
  | some a => pure a
  | none => unsupported reason

/-! ### Interface, format, frame -/

/-- The request meant: an empty one stands for the preset. -/
def effective (r : StreamRequest) (preset : Option Preset) : StreamRequest :=
  if r.isEmpty then (preset.getD .standard).request else r

def selectInterface (r : StreamRequest) (catalog : Catalog) : Selection StreamingInterface :=
  match r.interface with
  | some number => foundOr (.noSuchInterface number) (catalog.interface? number)
  | none => foundOr .noInterface catalog.streaming.head?

/-- The format by index, by encoding, or the first. An index and an encoding must agree. -/
def selectFormat (r : StreamRequest) (formats : List FormatDescriptor) :
    Selection FormatDescriptor :=
  match r.formatIndex, r.encoding with
  | some index, encoding => do
    let format ← foundOr (.noFormatWithIndex index) (formats.find? (·.index == index))
    match encoding with
    | some wanted =>
      if wanted = format.encoding then pure format
      else unsupported (.otherEncoding index format.encoding wanted)
    | none => pure format
  | none, some encoding =>
    foundOr (.noFormatWithEncoding encoding) (formats.find? (·.encoding == encoding))
  | none, none => do
    let format ← foundOr .noFormat formats.head?
    remark s!"format_index unset, using format {format.index} ({format.encoding.name})"
    return format

/-- The frame of an index, which must have the size asked for. -/
def selectFrameByIndex (r : StreamRequest) (format : FormatDescriptor) (index : UInt8) :
    Selection FrameDescriptor := do
  let frame ← foundOr (.noFrameWithIndex format.encoding index) (format.frame? index)
  if r.width.all (· == frame.width.toUInt32) && r.height.all (· == frame.height.toUInt32) then
    pure frame
  else unsupported (.otherSize index frame.width frame.height)

/-- The frame by index, by size, or the format's default. -/
def selectFrame (r : StreamRequest) (format : FormatDescriptor) : Selection FrameDescriptor :=
  match r.frameIndex, r.width, r.height with
  | some index, _, _ => r.selectFrameByIndex format index
  | none, some width, some height =>
    foundOr (.noFrameOfSize format.encoding width height) (format.frameOfSize? width height)
  | none, none, none => do
    let frame ← foundOr .noFrame
      ((format.frame? format.defaultFrameIndex).or format.frames.head?)
    remark <|
      s!"frame_index unset, using default frame {frame.index} ({frame.width}x{frame.height})"
    return frame
  | none, _, _ => unsupported .halfASize

end StreamRequest

/-- The interval of a frame when none is asked for: its default, or the first it supports. -/
def FrameDescriptor.usualInterval (frame : FrameDescriptor) : UInt32 :=
  if frame.intervals.supports frame.defaultInterval then frame.defaultInterval
  else
    match frame.intervals with
    | .discrete intervals => intervals.head?.getD frame.defaultInterval
    | .continuous min _ _ => min

namespace StreamRequest

/-! ### Interval and transport -/

def selectInterval (r : StreamRequest) (format : FormatDescriptor) (frame : FrameDescriptor) :
    Selection UInt32 :=
  match r.frameInterval with
  | some interval =>
    if frame.intervals.supports interval then pure interval
    else
      unsupported
        (.interval format.encoding frame.width frame.height interval frame.intervals.text)
  | none => do
    let interval := frame.usualInterval
    remark <|
      s!"frame_interval unset, using device default {interval} " ++
        s!"({Decimal.fixed 1 (fpsOfInterval interval)} fps)"
    return interval

/-- Bulk only where asked for or where nothing else is there. -/
def selectBulk (r : StreamRequest) (s : StreamingInterface) : Selection Bool :=
  match r.bulk with
  | some true => if s.bulkEndpoint?.isNone then unsupported .noBulkEndpoint else pure true
  | some false => if s.isochronousAlts.isEmpty then unsupported .noIsochronousAlt else pure false
  | none =>
    if s.isochronousAlts.isEmpty && s.bulkEndpoint?.isSome then do
      remark "Device streams over bulk endpoint"
      return true
    else pure false

/-- An alternate setting the host itself asks for must be isochronous. -/
def checkAlt (r : StreamRequest) (s : StreamingInterface) (bulk fromPreset : Bool) :
    Selection Unit :=
  match r.altSetting with
  | some alt =>
    if bulk || fromPreset || s.isochronousAlts.any (·.number == alt) then pure ()
    else unsupported (.altNotIsochronous alt)
  | none => pure ()

/-- The value of the request, or else the default under its name. -/
def orDefault (name : String) (default : Nat) : Option Nat → Selection Nat
  | some n => pure n
  | none => do
    remark s!"{name} unset, using {default}"
    return default

end StreamRequest

open StreamRequest in
/-- Pick interface, format, frame and interval for a request. -/
def resolve (request : StreamRequest) (preset : Option Preset) (catalog : Catalog)
    (settings : TransferSettings) : Noted StreamError ResolvedRequest := do
  let fromPreset := request.isEmpty
  if fromPreset then
    remark s!"No stream parameters set, using preset {(preset.getD .standard).name}"
  let r := request.effective preset
  let s ← r.selectInterface catalog
  let format ← r.selectFormat s.formats
  let frame ← r.selectFrame format
  let frameInterval ← r.selectInterval format frame
  let bulk ← r.selectBulk s
  r.checkAlt s bulk fromPreset
  let packetsPerRequest ←
    orDefault "packets_per_request" settings.packetsPerRequest r.packetsPerRequest
  let activeRequests ← orDefault "active_urbs" settings.activeRequests r.activeRequests
  let camera := catalog.control.camera?
  let processing := catalog.control.processingUnits.head?
  return {
    interface := s.number
    endpoint := s.endpointAddress
    uvcVersion := catalog.uvcVersion
    format, frame, frameInterval, bulk
    altSetting := r.altSetting
    altIsHint := fromPreset
    maxPacketSize := r.maxPacketSize.or settings.maxPacketSize
    packetsPerRequest, activeRequests
    unitId := r.unitId.or (processing.map (·.id))
    terminalId := r.terminalId.or (camera.map (·.id))
    controlTerminal := r.controlTerminal.getD ((camera.map (·.controls)).getD [])
    controlUnit := r.controlUnit.getD ((processing.map (·.controls)).getD [])
    stillCaptureMethod := r.stillCaptureMethod.getD s.stillCaptureMethod }

end UsbVideo
