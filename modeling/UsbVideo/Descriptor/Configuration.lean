import UsbVideo.Catalog
import UsbVideo.Descriptor.Entry

/-!
# Configuration blocks

A configuration block is read entry by entry into a `Survey`. The standard interface entry read
last decides how the class-specific entries after it are understood; an entry that means nothing in
its place is passed over.

    block  ──tile──▶  entries  ──read──▶  survey  ──conclude──▶  catalog
-/

namespace UsbVideo

/-! ### Numbers of the video class -/

namespace VideoClass

def code : UInt8 := 0x0E

def control : UInt8 := 0x01

def streaming : UInt8 := 0x02

end VideoClass

/-! Subtypes of the entries under a control interface. -/

namespace ControlSubtype

def header : UInt8 := 0x01

def inputTerminal : UInt8 := 0x02

def outputTerminal : UInt8 := 0x03

def selectorUnit : UInt8 := 0x04

def processingUnit : UInt8 := 0x05

def extensionUnit : UInt8 := 0x06

end ControlSubtype

/-! Subtypes of the entries under a streaming interface. -/

namespace StreamingSubtype

def inputHeader : UInt8 := 0x01

def uncompressedFormat : UInt8 := 0x04

def uncompressedFrame : UInt8 := 0x05

def mjpegFormat : UInt8 := 0x06

def mjpegFrame : UInt8 := 0x07

def colorFormat : UInt8 := 0x0D

def frameBasedFormat : UInt8 := 0x10

def frameBasedFrame : UInt8 := 0x11

end StreamingSubtype

/-- The subtype of the frame entries that belong to an encoding. -/
def Encoding.frameSubtype : Encoding → UInt8
  | mjpeg => StreamingSubtype.mjpegFrame
  | frameBased _ => StreamingSubtype.frameBasedFrame
  | _ => StreamingSubtype.uncompressedFrame

/-! ### Entries of a control interface -/

namespace ControlInterface

/-- Take in a terminal. Only a camera terminal has control bits. -/
def readInputTerminal (c : ControlInterface) (e : Entry) :
    Except DescriptorError ControlInterface :=
  e.needs 8 .inputTerminal fun _ =>
  let terminal (controls : Bytes) : ControlInterface :=
    { c with inputTerminals := c.inputTerminals ++ [⟨e.u8 3, e.u16 4, controls⟩] }
  if e.u16 4 = cameraTerminalType then
    e.needs 15 .cameraTerminal fun _ =>
    e.needs (15 + (e.u8 14).toNat) .cameraControls fun _ =>
    .ok (terminal (e.slice 15 (e.u8 14).toNat))
  else .ok (terminal [])

def readOutputTerminal (c : ControlInterface) (e : Entry) :
    Except DescriptorError ControlInterface :=
  e.needs 9 .outputTerminal fun _ =>
  .ok { c with outputTerminals := c.outputTerminals ++ [⟨e.u8 3, e.u16 4, e.u8 7⟩] }

def readSelectorUnit (c : ControlInterface) (e : Entry) :
    Except DescriptorError ControlInterface :=
  e.needs 5 .selectorUnit fun _ =>
  e.needs (5 + (e.u8 4).toNat) .selectorSources fun _ =>
  .ok { c with selectorUnits := c.selectorUnits ++ [⟨e.u8 3, e.slice 5 (e.u8 4).toNat⟩] }

def readProcessingUnit (c : ControlInterface) (e : Entry) :
    Except DescriptorError ControlInterface :=
  e.needs 8 .processingUnit fun _ =>
  e.needs (8 + (e.u8 7).toNat) .processingControls fun _ =>
  .ok { c with
    processingUnits := c.processingUnits ++ [⟨e.u8 3, e.u8 4, e.slice 8 (e.u8 7).toNat⟩] }

/-- Take in an extension unit: its sources are counted at 21, its controls right behind them. -/
def readExtensionUnit (c : ControlInterface) (e : Entry) :
    Except DescriptorError ControlInterface :=
  e.needs 22 .extensionUnit fun _ =>
  let pins := (e.u8 21).toNat
  e.needs (23 + pins) .extensionSources fun _ =>
  let size := (e.u8 (22 + pins)).toNat
  e.needs (23 + pins + size) .extensionControls fun _ =>
  .ok { c with
    extensionUnits := c.extensionUnits ++
      [{ id := e.u8 3
         guid := e.guid 4
         numControls := e.u8 20
         sources := e.slice 22 pins
         controls := e.slice (23 + pins) size }] }

end ControlInterface

/-! ### Entries of a streaming interface -/

/-- The interval list of a frame entry: `count` intervals from 26 on, or a range if `count` is 0. -/
def readIntervals (e : Entry) (count : Nat) : Except DescriptorError FrameIntervals :=
  if count = 0 then
    e.needs (26 + 12) .continuousIntervals fun _ =>
    .ok (.continuous (e.u32 26) (e.u32 30) (e.u32 34))
  else
    e.needs (26 + count * 4) .discreteIntervals fun _ =>
    .ok (.discrete ((List.finRange count).map fun i => e.u32 (26 + i.val * 4)))

/-- A frame entry. A frame-based frame has no size field, and its default interval and interval
count stand four bytes earlier. -/
def readFrame (e : Entry) (frameBased : Bool) : Except DescriptorError FrameDescriptor :=
  e.needs 26 (if frameBased then .frameBasedFrame else .frame) fun _ => do
    let count := if frameBased then e.u8 21 else e.u8 25
    let intervals ← readIntervals e count.toNat
    return {
      index := e.u8 3
      width := e.u16 5
      height := e.u16 7
      maxFrameSize := if frameBased then 0 else e.u32 17
      defaultInterval := if frameBased then e.u32 17 else e.u32 21
      intervals }

namespace StreamingInterface

/-- Declare a format. The one before must have a frame by now. -/
def addFormat (s : StreamingInterface) (e : Entry) (format : FormatDescriptor) :
    Except DescriptorError StreamingInterface :=
  match s.formats.getLast? with
  | some previous =>
    if previous.frames.isEmpty then e.refuse (.formatLeftEmpty previous.index)
    else .ok { s with formats := s.formats ++ [format] }
  | none => .ok { s with formats := s.formats ++ [format] }

/-- Put a frame under the format declared last. -/
def addFrame (s : StreamingInterface) (format : FormatDescriptor) (frame : FrameDescriptor) :
    StreamingInterface :=
  { s with formats := s.formats.dropLast ++ [{ format with frames := format.frames ++ [frame] }] }

def readInputHeader (s : StreamingInterface) (e : Entry) :
    Except DescriptorError StreamingInterface :=
  e.needs 13 .inputHeader fun _ =>
  .ok { s with
    endpointAddress := e.u8 6
    terminalLink := e.u8 8
    stillCaptureMethod := e.u8 9 }

def readUncompressedFormat (s : StreamingInterface) (e : Entry) :
    Except DescriptorError StreamingInterface :=
  e.needs 27 .format fun _ =>
  s.addFormat e ⟨e.u8 3, .ofGuid (e.guid 5), e.u8 21, e.u8 22, []⟩

def readFrameBasedFormat (s : StreamingInterface) (e : Entry) :
    Except DescriptorError StreamingInterface :=
  e.needs 28 .format fun _ =>
  s.addFormat e ⟨e.u8 3, .frameBased (e.guid 5), e.u8 21, e.u8 22, []⟩

def readMjpegFormat (s : StreamingInterface) (e : Entry) :
    Except DescriptorError StreamingInterface :=
  e.needs 11 .mjpegFormat fun _ =>
  s.addFormat e ⟨e.u8 3, .mjpeg, 0, e.u8 6, []⟩

/-- Take in a frame entry, which must suit the format declared last. -/
def readFrameEntry (s : StreamingInterface) (e : Entry) (subtype : UInt8) :
    Except DescriptorError StreamingInterface :=
  match s.formats.getLast? with
  | none => e.refuse .frameBeforeFormat
  | some format =>
    if subtype = format.encoding.frameSubtype then do
      let frame ← readFrame e (subtype = StreamingSubtype.frameBasedFrame)
      return s.addFrame format frame
    else e.refuse (.frameOfOtherFormat subtype format.encoding format.encoding.frameSubtype)

end StreamingInterface

/-- Take in a class-specific entry under a control interface. The header's version is the
catalog's. -/
def readControlEntry (version : UInt16) (c : ControlInterface) (e : Entry) :
    Except DescriptorError (UInt16 × ControlInterface) := do
  match e.subtype? with
  | none => e.refuse .noSubtype
  | some subtype =>
    if subtype = ControlSubtype.header then
      e.needs 12 .controlHeader fun _ => .ok (e.u16 3, { c with clockFrequency := e.u32 7 })
    else if subtype = ControlSubtype.inputTerminal then
      return (version, ← c.readInputTerminal e)
    else if subtype = ControlSubtype.outputTerminal then
      return (version, ← c.readOutputTerminal e)
    else if subtype = ControlSubtype.selectorUnit then
      return (version, ← c.readSelectorUnit e)
    else if subtype = ControlSubtype.processingUnit then
      return (version, ← c.readProcessingUnit e)
    else if subtype = ControlSubtype.extensionUnit then
      return (version, ← c.readExtensionUnit e)
    else return (version, c)

/-- Take in a class-specific entry under a streaming interface. -/
def readStreamingEntry (s : StreamingInterface) (e : Entry) :
    Except DescriptorError StreamingInterface :=
  match e.subtype? with
  | none => e.refuse .noSubtype
  | some subtype =>
    if subtype = StreamingSubtype.inputHeader then s.readInputHeader e
    else if subtype = StreamingSubtype.uncompressedFormat then s.readUncompressedFormat e
    else if subtype = StreamingSubtype.frameBasedFormat then s.readFrameBasedFormat e
    else if subtype = StreamingSubtype.mjpegFormat then s.readMjpegFormat e
    else if subtype = StreamingSubtype.uncompressedFrame
        ∨ subtype = StreamingSubtype.mjpegFrame
        ∨ subtype = StreamingSubtype.frameBasedFrame then s.readFrameEntry e subtype
    else .ok s

/-! ### The survey of a block -/

/-- The interface the entries being read belong to. -/
inductive DescriptorContext where
  | unset
  | control
  /-- A streaming interface; endpoints belong to its latest alternate setting. -/
  | streaming (interface : UInt8)
  | other
  deriving DecidableEq

/-- What is known after a part of a configuration block. -/
structure Survey where
  context : DescriptorContext := .unset
  control : Option ControlInterface := none
  uvcVersion : UInt16 := 0
  streaming : List StreamingInterface := []
  deriving DecidableEq

namespace Survey

def interface? (v : Survey) (number : UInt8) : Option StreamingInterface :=
  v.streaming.find? (·.number == number)

/-- Change the streaming interface of this number. -/
def modifyInterface (v : Survey) (number : UInt8)
    (f : StreamingInterface → StreamingInterface) : Survey :=
  { v with streaming := v.streaming.map fun s => if s.number = number then f s else s }

/-- A streaming interface entry: one more alternate setting, of an interface known or new. -/
def enterStreaming (v : Survey) (number alt : UInt8) : Survey :=
  let known :=
    if (v.interface? number).isSome then v
    else { v with streaming := v.streaming ++ [{ number }] }
  { known.modifyInterface number fun s => { s with altSettings := s.altSettings ++ [⟨alt, none⟩] }
    with context := .streaming number }

def enterControl (v : Survey) (number : UInt8) : Survey :=
  { v with
    control := some { v.control.getD {} with number }
    context := .control }

/-- A standard interface entry sets the context. -/
def readInterface (v : Survey) (e : Entry) : Except DescriptorError Survey :=
  e.needs 9 .interface fun _ =>
  if e.u8 5 = VideoClass.code ∧ e.u8 6 = VideoClass.control then
    .ok (v.enterControl (e.u8 2))
  else if e.u8 5 = VideoClass.code ∧ e.u8 6 = VideoClass.streaming then
    .ok (v.enterStreaming (e.u8 2) (e.u8 3))
  else .ok { v with context := .other }

/-- Give an alternate setting an endpoint. An endpoint towards the host wins over any other. -/
def settleEndpoint (endpoint : Endpoint) (a : AltSetting) : AltSetting :=
  if a.endpoint.isNone || endpoint.isIn then { a with endpoint := some endpoint } else a

/-- Change the last element of a list. -/
def modifyLast {α : Type} (f : α → α) (xs : List α) : List α :=
  match xs.getLast? with
  | some x => xs.dropLast ++ [f x]
  | none => xs

/-- An endpoint entry counts under a streaming interface only. -/
def readEndpoint (v : Survey) (e : Entry) : Except DescriptorError Survey :=
  e.needs 7 .endpoint fun _ =>
  match v.context with
  | .streaming number =>
    let endpoint : Endpoint := ⟨e.u8 2, .ofAttributes (e.u8 3), e.u16 4, e.u8 6⟩
    .ok (v.modifyInterface number fun s =>
      { s with altSettings := modifyLast (settleEndpoint endpoint) s.altSettings })
  | _ => .ok v

/-- A class-specific entry is understood by its context. -/
def readClassEntry (v : Survey) (e : Entry) : Except DescriptorError Survey :=
  match v.context with
  | .control => do
    let (uvcVersion, control) ← readControlEntry v.uvcVersion (v.control.getD {}) e
    return { v with uvcVersion, control := some control }
  | .streaming number =>
    match v.interface? number with
    | some s => do
      let s ← readStreamingEntry s e
      return v.modifyInterface number fun _ => s
    | none => .ok v
  | _ => .ok v

/-- Read one entry. Entries of unknown types are passed over. -/
def read (v : Survey) (e : Entry) : Except DescriptorError Survey :=
  if e.kind = DescriptorType.configuration then e.needs 9 .configuration fun _ => .ok v
  else if e.kind = DescriptorType.interface then v.readInterface e
  else if e.kind = DescriptorType.endpoint then v.readEndpoint e
  else if e.kind = DescriptorType.classInterface then v.readClassEntry e
  else .ok v

/-- The first format without a frame, with its interface. -/
def emptyFormat? (v : Survey) : Option (StreamingInterface × FormatDescriptor) :=
  v.streaming.findSome? fun s =>
    (s.formats.find? (·.frames.isEmpty)).map fun f => (s, f)

/-- The catalog of a block of `total` bytes that was read to its end. -/
def conclude (v : Survey) (total : Nat) : Except DescriptorError Catalog :=
  match v.control with
  | none => .error ⟨total, .noControlInterface⟩
  | some control =>
    if v.streaming.isEmpty then .error ⟨total, .noStreamingInterface⟩
    else
      match v.emptyFormat? with
      | some (s, f) => .error ⟨total, .formatWithoutFrames f.index f.encoding s.number⟩
      | none => .ok { uvcVersion := v.uvcVersion, control, streaming := v.streaming }

end Survey

/-- The first entry of a block must be the configuration itself. -/
def checkFirst : List Entry → Except DescriptorError Unit
  | [] => .ok ()
  | e :: _ =>
    if e.kind = DescriptorType.configuration then .ok ()
    else .error ⟨0, .notAConfiguration e.kind⟩

/-- Read a configuration block. The fields of the device descriptor stay zero. -/
def parseConfiguration (block : Bytes) : Except DescriptorError Catalog := do
  let (entries, flaw) := tile 0 block
  checkFirst entries
  let survey ← entries.foldlM Survey.read {}
  match flaw with
  | some e => .error e
  | none => survey.conclude block.length

end UsbVideo
