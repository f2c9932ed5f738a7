import UsbVideo.Descriptor.Configuration

/-!
# The parser by index

The parser once more, written with plain indices: a byte is asked for by its place in the block or the
entry, an interface and an alternate setting by their place in their lists, and nothing is known of
any length but by the checks that are made on the way. A read that leaves its list ends the run with no
outcome at all.

Behind the checks of a reader every read of an entry succeeds, so each reader has an outcome, and it
is that of the reader in `UsbVideo.Descriptor.Configuration`.
-/

namespace UsbVideo

namespace Indexed

/-! ### Reading by index -/

/-- An outcome, or none if a read has left its list. -/
abbrev Reading (α : Type) : Type := ExceptT DescriptorError Option α

/-- An outcome that there is. -/
def Reading.of {α : Type} (x : Except DescriptorError α) : Reading α := ExceptT.mk (some x)

/-- The element at `i` of a list that must have one there. -/
def fetch {α : Type} (xs : List α) (i : Nat) : Reading α := ExceptT.lift xs[i]?

/-- The `n` bytes at `i` of a byte string that must have them. -/
def slice (bytes : Bytes) (i n : Nat) : Reading Bytes :=
  if i + n ≤ bytes.length then pure ((bytes.drop i).take n) else ExceptT.lift none

def u16 (bytes : Bytes) (i : Nat) : Reading UInt16 := do
  let low ← fetch bytes i
  let high ← fetch bytes (i + 1)
  return .ofNat (Bytes.value [low, high])

def u32 (bytes : Bytes) (i : Nat) : Reading UInt32 := do
  let first ← fetch bytes i
  let second ← fetch bytes (i + 1)
  let third ← fetch bytes (i + 2)
  let fourth ← fetch bytes (i + 3)
  return .ofNat (Bytes.value [first, second, third, fourth])

def guid (bytes : Bytes) (i : Nat) : Reading Guid := do
  let part ← slice bytes i 16
  if h : part.length = 16 then return .ofBytes part h else ExceptT.lift none

/-- An entry, with nothing known of its length. -/
structure Extent where
  offset : Nat
  bytes : Bytes

def Extent.refuse {α : Type} (e : Extent) (flaw : DescriptorFlaw) : Reading α :=
  .of (.error ⟨e.offset, flaw⟩)

/-- Refuse an entry shorter than this. -/
def Extent.require (e : Extent) (needed : Nat) (part : DescriptorPart) : Reading Unit :=
  if e.bytes.length < needed then e.refuse (.tooShort part needed e.bytes.length) else pure ()

/-! ### Entries of a control interface -/

def readInputTerminal (c : ControlInterface) (e : Extent) : Reading ControlInterface := do
  e.require 8 .inputTerminal
  let terminalType ← u16 e.bytes 4
  if terminalType = cameraTerminalType then
    e.require 15 .cameraTerminal
    let size ← fetch e.bytes 14
    e.require (15 + size.toNat) .cameraControls
    let controls ← slice e.bytes 15 size.toNat
    let id ← fetch e.bytes 3
    return { c with inputTerminals := c.inputTerminals ++ [⟨id, terminalType, controls⟩] }
  else
    let id ← fetch e.bytes 3
    return { c with inputTerminals := c.inputTerminals ++ [⟨id, terminalType, []⟩] }

def readOutputTerminal (c : ControlInterface) (e : Extent) : Reading ControlInterface := do
  e.require 9 .outputTerminal
  let id ← fetch e.bytes 3
  let terminalType ← u16 e.bytes 4
  let sourceId ← fetch e.bytes 7
  return { c with outputTerminals := c.outputTerminals ++ [⟨id, terminalType, sourceId⟩] }

def readSelectorUnit (c : ControlInterface) (e : Extent) : Reading ControlInterface := do
  e.require 5 .selectorUnit
  let pins ← fetch e.bytes 4
  e.require (5 + pins.toNat) .selectorSources
  let id ← fetch e.bytes 3
  let sources ← slice e.bytes 5 pins.toNat
  return { c with selectorUnits := c.selectorUnits ++ [⟨id, sources⟩] }

def readProcessingUnit (c : ControlInterface) (e : Extent) : Reading ControlInterface := do
  e.require 8 .processingUnit
  let size ← fetch e.bytes 7
  e.require (8 + size.toNat) .processingControls
  let id ← fetch e.bytes 3
  let sourceId ← fetch e.bytes 4
  let controls ← slice e.bytes 8 size.toNat
  return { c with processingUnits := c.processingUnits ++ [⟨id, sourceId, controls⟩] }

def readExtensionUnit (c : ControlInterface) (e : Extent) : Reading ControlInterface := do
  e.require 22 .extensionUnit
  let pins ← fetch e.bytes 21
  e.require (23 + pins.toNat) .extensionSources
  let size ← fetch e.bytes (22 + pins.toNat)
  e.require (23 + pins.toNat + size.toNat) .extensionControls
  let guid ← guid e.bytes 4
  let id ← fetch e.bytes 3
  let numControls ← fetch e.bytes 20
  let sources ← slice e.bytes 22 pins.toNat
  let controls ← slice e.bytes (23 + pins.toNat) size.toNat
  return { c with
    extensionUnits := c.extensionUnits ++ [⟨id, guid, numControls, sources, controls⟩] }

/-! ### Entries of a streaming interface -/

def readIntervals (e : Extent) (count : Nat) : Reading FrameIntervals :=
  if count = 0 then do
    e.require (26 + 12) .continuousIntervals
    let min ← u32 e.bytes 26
    let max ← u32 e.bytes 30
    let step ← u32 e.bytes 34
    return .continuous min max step
  else do
    e.require (26 + count * 4) .discreteIntervals
    let intervals ← (List.finRange count).mapM fun i => u32 e.bytes (26 + i.val * 4)
    return .discrete intervals

def readFrame (e : Extent) (frameBased : Bool) : Reading FrameDescriptor := do
  e.require 26 (if frameBased then .frameBasedFrame else .frame)
  let maxFrameSize ← if frameBased then pure 0 else u32 e.bytes 17
  let count ← fetch e.bytes (if frameBased then 21 else 25)
  let intervals ← readIntervals e count.toNat
  let index ← fetch e.bytes 3
  let width ← u16 e.bytes 5
  let height ← u16 e.bytes 7
  let defaultInterval ← u32 e.bytes (if frameBased then 17 else 21)
  return { index, width, height, maxFrameSize, defaultInterval, intervals }

def addFormat (s : StreamingInterface) (e : Extent) (encoding : Encoding)
    (bitsPerPixel defaultFrameIndex : UInt8) : Reading StreamingInterface :=
  let add : Reading StreamingInterface := do
    let index ← fetch e.bytes 3
    return { s with formats := s.formats ++ [⟨index, encoding, bitsPerPixel, defaultFrameIndex, []⟩] }
  match s.formats.getLast? with
  | some previous => if previous.frames.isEmpty then e.refuse (.formatLeftEmpty previous.index) else add
  | none => add

/-- A format named by a GUID. -/
def readGuidFormat (s : StreamingInterface) (e : Extent) (needed : Nat)
    (encoding : Guid → Encoding) : Reading StreamingInterface := do
  e.require needed .format
  let guid ← guid e.bytes 5
  let bitsPerPixel ← fetch e.bytes 21
  let defaultFrameIndex ← fetch e.bytes 22
  addFormat s e (encoding guid) bitsPerPixel defaultFrameIndex

def readMjpegFormat (s : StreamingInterface) (e : Extent) : Reading StreamingInterface := do
  e.require 11 .mjpegFormat
  let defaultFrameIndex ← fetch e.bytes 6
  addFormat s e .mjpeg 0 defaultFrameIndex

def readInputHeader (s : StreamingInterface) (e : Extent) : Reading StreamingInterface := do
  e.require 13 .inputHeader
  let endpointAddress ← fetch e.bytes 6
  let terminalLink ← fetch e.bytes 8
  let stillCaptureMethod ← fetch e.bytes 9
  return { s with endpointAddress, terminalLink, stillCaptureMethod }

def readFrameEntry (s : StreamingInterface) (e : Extent) (subtype : UInt8) :
    Reading StreamingInterface :=
  match s.formats.getLast? with
  | none => e.refuse .frameBeforeFormat
  | some format =>
    if subtype = format.encoding.frameSubtype then do
      let frame ← readFrame e (subtype = StreamingSubtype.frameBasedFrame)
      return s.addFrame format frame
    else e.refuse (.frameOfOtherFormat subtype format.encoding format.encoding.frameSubtype)

/-! ### Class-specific entries -/

def readControlEntry (version : UInt16) (c : ControlInterface) (e : Extent) :
    Reading (UInt16 × ControlInterface) := do
  match e.bytes[2]? with
  | none => e.refuse .noSubtype
  | some subtype =>
    if subtype = ControlSubtype.header then
      e.require 12 .controlHeader
      let version ← u16 e.bytes 3
      let clockFrequency ← u32 e.bytes 7
      return (version, { c with clockFrequency })
    else if subtype = ControlSubtype.inputTerminal then return (version, ← readInputTerminal c e)
    else if subtype = ControlSubtype.outputTerminal then return (version, ← readOutputTerminal c e)
    else if subtype = ControlSubtype.selectorUnit then return (version, ← readSelectorUnit c e)
    else if subtype = ControlSubtype.processingUnit then return (version, ← readProcessingUnit c e)
    else if subtype = ControlSubtype.extensionUnit then return (version, ← readExtensionUnit c e)
    else return (version, c)

def readStreamingEntry (s : StreamingInterface) (e : Extent) : Reading StreamingInterface :=
  match e.bytes[2]? with
  | none => e.refuse .noSubtype
  | some subtype =>
    if subtype = StreamingSubtype.inputHeader then readInputHeader s e
    else if subtype = StreamingSubtype.uncompressedFormat then readGuidFormat s e 27 .ofGuid
    else if subtype = StreamingSubtype.frameBasedFormat then readGuidFormat s e 28 .frameBased
    else if subtype = StreamingSubtype.mjpegFormat then readMjpegFormat s e
    else if subtype = StreamingSubtype.uncompressedFrame
        ∨ subtype = StreamingSubtype.mjpegFrame
        ∨ subtype = StreamingSubtype.frameBasedFrame then readFrameEntry s e subtype
    else pure s

/-! ### The draft of a survey -/

/-- The interface the entries being read belong to, by its place. -/
inductive Place where
  | unset
  | control
  /-- An alternate setting of a streaming interface. -/
  | streaming (stream alt : Nat)
  | other

/-- What is known after a part of a block. -/
structure Draft where
  place : Place := .unset
  control : Option ControlInterface := none
  uvcVersion : UInt16 := 0
  streaming : List StreamingInterface := []

namespace Draft

def enterStreaming (d : Draft) (number alt : UInt8) : Reading Draft := do
  let (stream, streaming) : Nat × List StreamingInterface :=
    match d.streaming.findIdx? (·.number == number) with
    | some i => (i, d.streaming)
    | none => (d.streaming.length, d.streaming ++ [{ number }])
  let s ← fetch streaming stream
  return { d with
    place := .streaming stream s.altSettings.length
    streaming := streaming.set stream { s with altSettings := s.altSettings ++ [⟨alt, none⟩] } }

def readInterface (d : Draft) (e : Extent) : Reading Draft := do
  e.require 9 .interface
  let number ← fetch e.bytes 2
  let alt ← fetch e.bytes 3
  let code ← fetch e.bytes 5
  let subclass ← fetch e.bytes 6
  if code = VideoClass.code ∧ subclass = VideoClass.control then
    return { d with control := some { d.control.getD {} with number }, place := .control }
  else if code = VideoClass.code ∧ subclass = VideoClass.streaming then
    d.enterStreaming number alt
  else return { d with place := .other }

def readEndpoint (d : Draft) (e : Extent) : Reading Draft := do
  e.require 7 .endpoint
  match d.place with
  | .streaming stream alt =>
    let address ← fetch e.bytes 2
    let attributes ← fetch e.bytes 3
    let maxPacketSize ← u16 e.bytes 4
    let interval ← fetch e.bytes 6
    let s ← fetch d.streaming stream
    let a ← fetch s.altSettings alt
    let endpoint : Endpoint := ⟨address, .ofAttributes attributes, maxPacketSize, interval⟩
    return { d with
      streaming := d.streaming.set stream
        { s with altSettings := s.altSettings.set alt (Survey.settleEndpoint endpoint a) } }
  | _ => return d

def readClassEntry (d : Draft) (e : Extent) : Reading Draft :=
  match d.place with
  | .control => do
    let (uvcVersion, control) ← readControlEntry d.uvcVersion (d.control.getD {}) e
    return { d with uvcVersion, control := some control }
  | .streaming stream _ => do
    let s ← fetch d.streaming stream
    let s ← readStreamingEntry s e
    return { d with streaming := d.streaming.set stream s }
  | _ => return d

def read (d : Draft) (e : Extent) : Reading Draft := do
  let kind ← fetch e.bytes 1
  if kind = DescriptorType.configuration then
    e.require 9 .configuration
    let _ ← fetch e.bytes 5
    let _ ← fetch e.bytes 4
    return d
  else if kind = DescriptorType.interface then d.readInterface e
  else if kind = DescriptorType.endpoint then d.readEndpoint e
  else if kind = DescriptorType.classInterface then d.readClassEntry e
  else return d

/-- The catalog of a block that was read to its end. -/
def conclude (d : Draft) (total : Nat) : Reading Catalog :=
  .of (Survey.conclude ⟨.unset, d.control, d.uvcVersion, d.streaming⟩ total)

end Draft

/-- Read a block from `offset` on. -/
def scan (block : Bytes) (offset : Nat) (d : Draft) : Reading Catalog :=
  if _hoffset : offset < block.length then do
    let remaining := block.length - offset
    if remaining < 2 then Extent.refuse ⟨offset, []⟩ .trailingByte else
    let length ← fetch block offset
    if _hlength : length.toNat < 2 then Extent.refuse ⟨offset, []⟩ (.lengthTooSmall length.toNat) else
    if remaining < length.toNat then
      Extent.refuse ⟨offset, []⟩ (.lengthPastEnd length.toNat remaining)
    else
    let e : Extent := ⟨offset, ← slice block offset length.toNat⟩
    let kind ← fetch e.bytes 1
    if offset = 0 ∧ kind ≠ DescriptorType.configuration then
      Extent.refuse ⟨0, []⟩ (.notAConfiguration kind)
    else
    let d ← d.read e
    scan block (offset + length.toNat) d
  else d.conclude block.length
termination_by block.length - offset

def parse (block : Bytes) : Reading Catalog := scan block 0 {}

/-! ### The reads agree -/

section Reads

variable {α β : Type} (e : Entry)

/-- Outcomes in a row. -/
theorem of_bind {a : Reading α} {x : Except DescriptorError α} {f : α → Reading β}
    {g : α → Except DescriptorError β} (h : a = .of x) (hf : ∀ r, f r = .of (g r)) :
    (a >>= f) = .of (x >>= g) := by
  rw [h, funext hf]
  cases x <;> rfl

/-- A result made from an outcome. -/
theorem of_map {a : Reading α} {x : Except DescriptorError α} (h : a = .of x) (f : α → β) :
    (a >>= fun r => pure (f r)) = .of (x >>= fun r => pure (f r)) :=
  of_bind h fun _ => rfl

theorem of_ite {p : Prop} [Decidable p] {a b : Reading α} {x y : Except DescriptorError α}
    (ha : p → a = .of x) (hb : ¬ p → b = .of y) :
    (if p then a else b) = .of (if p then x else y) := by
  split
  · next hp => exact ha hp
  · next hp => exact hb hp

/-- An entry as an extent. -/
def extent (e : Entry) : Extent := ⟨e.offset, e.bytes⟩

theorem fetch_eq {i : Nat} (h : i < e.size) : fetch (extent e).bytes i = pure (e.u8 i h) := by
  rw [fetch, extent, List.getElem?_eq_getElem h]
  rfl

theorem slice_eq {i n : Nat} (h : i + n ≤ e.size) :
    slice (extent e).bytes i n = pure (e.slice i n h) := if_pos h

theorem u16_eq {i : Nat} (h : i + 2 ≤ e.size) : u16 (extent e).bytes i = pure (e.u16 i h) := by
  have h₀ : i < e.bytes.length := Nat.lt_of_lt_of_le (by omega) h
  have h₁ : i + 1 < e.bytes.length := Nat.lt_of_lt_of_le (by omega) h
  have hslice : e.slice i 2 h = [e.bytes[i], e.bytes[i + 1]] := by
    rw [Entry.slice, List.drop_eq_getElem_cons h₀, List.drop_eq_getElem_cons h₁]
    rfl
  rw [u16, fetch_eq e h₀, fetch_eq e h₁, Entry.u16, hslice]
  rfl

theorem u32_eq {i : Nat} (h : i + 4 ≤ e.size) : u32 (extent e).bytes i = pure (e.u32 i h) := by
  have h₀ : i < e.bytes.length := Nat.lt_of_lt_of_le (by omega) h
  have h₁ : i + 1 < e.bytes.length := Nat.lt_of_lt_of_le (by omega) h
  have h₂ : i + 2 < e.bytes.length := Nat.lt_of_lt_of_le (by omega) h
  have h₃ : i + 3 < e.bytes.length := Nat.lt_of_lt_of_le (by omega) h
  have hslice : e.slice i 4 h = [e.bytes[i], e.bytes[i + 1], e.bytes[i + 2], e.bytes[i + 3]] := by
    rw [Entry.slice, List.drop_eq_getElem_cons h₀, List.drop_eq_getElem_cons h₁,
      List.drop_eq_getElem_cons h₂, List.drop_eq_getElem_cons h₃]
    rfl
  rw [u32, fetch_eq e h₀, fetch_eq e h₁, fetch_eq e h₂, fetch_eq e h₃, Entry.u32, hslice]
  rfl

theorem guid_eq {i : Nat} (h : i + 16 ≤ e.size) : guid (extent e).bytes i = pure (e.guid i h) := by
  rw [guid, slice_eq e h, pure_bind, dif_pos (e.length_slice i 16 h)]
  rfl

theorem fetch_some {xs : List α} {i : Nat} {a : α} (h : xs[i]? = some a) :
    fetch xs i = pure a := by
  rw [fetch, h]
  rfl

theorem subtype_eq : (extent e).bytes[2]? = e.subtype? := rfl

theorem fetch_bind {i : Nat} (h : i < e.size) (next : UInt8 → Reading α) :
    (fetch (extent e).bytes i >>= next) = next (e.u8 i h) := by
  rw [fetch_eq e h, pure_bind]

theorem slice_bind {i n : Nat} (h : i + n ≤ e.size) (next : Bytes → Reading α) :
    (slice (extent e).bytes i n >>= next) = next (e.slice i n h) := by
  rw [slice_eq e h, pure_bind]

theorem u16_bind {i : Nat} (h : i + 2 ≤ e.size) (next : UInt16 → Reading α) :
    (u16 (extent e).bytes i >>= next) = next (e.u16 i h) := by
  rw [u16_eq e h, pure_bind]

theorem u32_bind {i : Nat} (h : i + 4 ≤ e.size) (next : UInt32 → Reading α) :
    (u32 (extent e).bytes i >>= next) = next (e.u32 i h) := by
  rw [u32_eq e h, pure_bind]

theorem guid_bind {i : Nat} (h : i + 16 ≤ e.size) (next : Guid → Reading α) :
    (guid (extent e).bytes i >>= next) = next (e.guid i h) := by
  rw [guid_eq e h, pure_bind]

/-- A length required is one that the rest may rely on. -/
theorem require_bind {needed : Nat} {part : DescriptorPart} {next : Unit → Reading α}
    {go : needed ≤ e.size → Except DescriptorError α} (h : ∀ hlong, next () = .of (go hlong)) :
    ((extent e).require needed part >>= next) = .of (e.needs needed part go) := by
  have hsize : (extent e).bytes.length = e.size := rfl
  rw [Extent.require, Entry.needs, hsize]
  by_cases hlong : needed ≤ e.size
  · rw [if_neg (Nat.not_lt.mpr hlong), dif_pos hlong, pure_bind]
    exact h hlong
  · rw [if_pos (Nat.lt_of_not_le hlong), dif_neg hlong]
    rfl

end Reads

section Control

variable (c : ControlInterface) (e : Entry)

theorem readInputTerminal_eq : readInputTerminal c (extent e) = .of (c.readInputTerminal e) := by
  refine require_bind e fun hfixed => ?_
  rw [u16_bind e (by omega)]
  refine of_ite (fun hcamera => ?_) fun hother => ?_
  · refine require_bind e fun hcontrols => ?_
    rw [fetch_bind e (by omega)]
    refine require_bind e fun hall => ?_
    rw [slice_bind e (by omega), fetch_bind e (by omega)]
    rfl
  · rw [fetch_bind e (by omega)]
    rfl

theorem readOutputTerminal_eq : readOutputTerminal c (extent e) = .of (c.readOutputTerminal e) := by
  refine require_bind e fun hall => ?_
  rw [fetch_bind e (by omega), u16_bind e (by omega), fetch_bind e (by omega)]
  rfl

theorem readSelectorUnit_eq : readSelectorUnit c (extent e) = .of (c.readSelectorUnit e) := by
  refine require_bind e fun hfixed => ?_
  rw [fetch_bind e (by omega)]
  refine require_bind e fun hall => ?_
  rw [fetch_bind e (by omega), slice_bind e (by omega)]
  rfl

theorem readProcessingUnit_eq : readProcessingUnit c (extent e) = .of (c.readProcessingUnit e) := by
  refine require_bind e fun hfixed => ?_
  rw [fetch_bind e (by omega)]
  refine require_bind e fun hall => ?_
  rw [fetch_bind e (by omega), fetch_bind e (by omega), slice_bind e (by omega)]
  rfl

theorem readExtensionUnit_eq : readExtensionUnit c (extent e) = .of (c.readExtensionUnit e) := by
  refine require_bind e fun hfixed => ?_
  rw [fetch_bind e (by omega)]
  refine require_bind e fun hpins => ?_
  rw [fetch_bind e (by omega)]
  refine require_bind e fun hall => ?_
  rw [guid_bind e (by omega), fetch_bind e (by omega), fetch_bind e (by omega),
    slice_bind e (by omega), slice_bind e (by omega)]
  rfl

theorem readControlEntry_eq (version : UInt16) :
    readControlEntry version c (extent e) = .of (UsbVideo.readControlEntry version c e) := by
  rw [readControlEntry, UsbVideo.readControlEntry, subtype_eq]
  cases e.subtype? with
  | none => rfl
  | some subtype =>
    refine of_ite (fun hheader => require_bind e fun hlong => ?_) fun _ => ?_
    · rw [u16_bind e (by omega), u32_bind e (by omega)]
      rfl
    refine of_ite (fun _ => of_map (readInputTerminal_eq c e) _) fun _ => ?_
    refine of_ite (fun _ => of_map (readOutputTerminal_eq c e) _) fun _ => ?_
    refine of_ite (fun _ => of_map (readSelectorUnit_eq c e) _) fun _ => ?_
    refine of_ite (fun _ => of_map (readProcessingUnit_eq c e) _) fun _ => ?_
    exact of_ite (fun _ => of_map (readExtensionUnit_eq c e) _) fun _ => rfl

end Control

section Streaming

variable (s : StreamingInterface) (e : Entry)

/-- Reads that all succeed, one for each element. -/
theorem mapM_eq {α β : Type} {f : α → Reading β} {g : α → β} (h : ∀ a, f a = pure (g a))
    (xs : List α) : xs.mapM f = pure (xs.map g) := by
  rw [funext h]
  exact List.mapM_pure

theorem readIntervals_eq (count : Nat) :
    readIntervals (extent e) count = .of (UsbVideo.readIntervals e count) := by
  refine of_ite (fun _ => require_bind e fun hlong => ?_) fun _ => require_bind e fun hlong => ?_
  · rw [u32_bind e (by omega), u32_bind e (by omega), u32_bind e (by omega)]
    rfl
  · rw [mapM_eq fun i => u32_eq e (by omega), pure_bind]
    rfl

theorem readFrame_eq (frameBased : Bool) :
    readFrame (extent e) frameBased = .of (UsbVideo.readFrame e frameBased) := by
  refine require_bind e fun hfixed => ?_
  cases frameBased with
  | false =>
    rw [if_neg (by simp), if_neg (by simp), if_neg (by simp), u32_bind e (by omega)]
    dsimp only
    rw [fetch_bind e (by omega)]
    refine of_bind (readIntervals_eq e _) fun intervals => ?_
    rw [fetch_bind e (by omega), u16_bind e (by omega), u16_bind e (by omega),
      u32_bind e (by omega)]
    rfl
  | true =>
    rw [if_pos rfl, if_pos rfl, if_pos rfl, pure_bind]
    dsimp only
    rw [fetch_bind e (by omega)]
    refine of_bind (readIntervals_eq e _) fun intervals => ?_
    rw [fetch_bind e (by omega), u16_bind e (by omega), u16_bind e (by omega),
      u32_bind e (by omega)]
    rfl

theorem addFormat_eq (h : 3 < e.size) (encoding : Encoding) (bitsPerPixel defaultFrameIndex : UInt8) :
    addFormat s (extent e) encoding bitsPerPixel defaultFrameIndex =
      .of (s.addFormat e ⟨e.u8 3, encoding, bitsPerPixel, defaultFrameIndex, []⟩) := by
  rw [addFormat, StreamingInterface.addFormat, fetch_bind e h]
  cases s.formats.getLast? with
  | none => rfl
  | some previous => exact of_ite (fun _ => rfl) fun _ => rfl

theorem readFrameEntry_eq (subtype : UInt8) :
    readFrameEntry s (extent e) subtype = .of (s.readFrameEntry e subtype) := by
  rw [readFrameEntry, StreamingInterface.readFrameEntry]
  cases s.formats.getLast? with
  | none => rfl
  | some format => exact of_ite (fun _ => of_map (readFrame_eq e _) _) fun _ => rfl

theorem readStreamingEntry_eq :
    readStreamingEntry s (extent e) = .of (UsbVideo.readStreamingEntry s e) := by
  rw [readStreamingEntry, UsbVideo.readStreamingEntry, subtype_eq]
  cases e.subtype? with
  | none => rfl
  | some subtype =>
    refine of_ite (fun _ => require_bind e fun hlong => ?_) fun _ => ?_
    · rw [fetch_bind e (by omega), fetch_bind e (by omega), fetch_bind e (by omega)]
      rfl
    refine of_ite (fun _ => require_bind e fun hlong => ?_) fun _ => ?_
    · rw [guid_bind e (by omega), fetch_bind e (by omega), fetch_bind e (by omega)]
      exact addFormat_eq s e (by omega) _ _ _
    refine of_ite (fun _ => require_bind e fun hlong => ?_) fun _ => ?_
    · rw [guid_bind e (by omega), fetch_bind e (by omega), fetch_bind e (by omega)]
      exact addFormat_eq s e (by omega) _ _ _
    refine of_ite (fun _ => require_bind e fun hlong => ?_) fun _ => ?_
    · rw [fetch_bind e (by omega)]
      exact addFormat_eq s e (by omega) _ _ _
    exact of_ite (fun _ => readFrameEntry_eq s e subtype) fun _ => rfl

end Streaming

end Indexed

end UsbVideo
