import UsbVideo.Device.Model

/-!
# What a device model describes

A model stands for the catalog that its configuration block is meant to announce: one control interface
that is always the same, and one streaming interface with the model's formats, frames and alternate
settings, numbered from 1 on. The numbers lead back to the model (`DeviceModel.lookup_describe`).

`DeviceModel.Fits` is what the bytes of a block can hold: a length and a count have a byte each.
-/

namespace UsbVideo

/-! ### What a model describes -/

/-- The interval list of a frame fits its entry. -/
def FrameIntervals.Fit : FrameIntervals → Prop
  | discrete list => list ≠ [] ∧ list.length ≤ 57
  | continuous _ _ _ => True

namespace FormatSpec

/-- Every frame fits its entry, and an unknown GUID stands for itself. -/
structure Fits (f : FormatSpec) : Prop where
  nonempty : f.frames ≠ []
  count : f.frames.length ≤ 255
  intervals : ∀ frame ∈ f.frames, frame.intervals.Fit
  guid : ∀ guid, f.encoding = .uncompressed guid → .ofGuid guid = f.encoding

/-- The frame with this index. -/
def describeFrame (f : FormatSpec) (index : UInt8) (frame : FrameSpec) : FrameDescriptor where
  index
  width := frame.width
  height := frame.height
  maxFrameSize := f.maxFrameSize frame
  defaultInterval := frame.defaultInterval
  intervals := frame.intervals

/-- The frames, with indices from 1 on. -/
def describeFrames (f : FormatSpec) : List FrameDescriptor :=
  f.frames.zipIdx.map fun (frame, i) => f.describeFrame (.ofNat (i + 1)) frame

/-- The format with this index and some of its frames. An MJPEG format states no depth. -/
def describe (f : FormatSpec) (index : UInt8) (frames : List FrameDescriptor) : FormatDescriptor where
  index
  encoding := f.encoding
  bitsPerPixel := if f.encoding = .mjpeg then 0 else f.bitsPerPixel
  defaultFrameIndex := 1
  frames

end FormatSpec

namespace DeviceModel

/-- Counts fit their bytes. -/
structure Fits (m : DeviceModel) : Prop where
  count : m.formats.length ≤ 242
  formats : ∀ format ∈ m.formats, format.Fits
  alts : m.isoPacketSizes.length ≤ 255

/-- The topology every model has. -/
def topology : ControlInterface where
  number := controlInterfaceNumber
  clockFrequency := 48000000
  inputTerminals := [⟨cameraTerminalId, cameraTerminalType, [0x0A, 0x00, 0x00]⟩]
  outputTerminals := [⟨outputTerminalId, 0x0101, extensionUnitId⟩]
  processingUnits := [⟨processingUnitId, cameraTerminalId, [0x7F, 0x15]⟩]
  extensionUnits := [⟨extensionUnitId, extensionGuid, 2, [processingUnitId], [0x03]⟩]

/-- The formats, with indices from 1 on. -/
def describeFormats (m : DeviceModel) : List FormatDescriptor :=
  m.formats.zipIdx.map fun (format, i) => format.describe (.ofNat (i + 1)) format.describeFrames

/-- Alternate setting 0, with the bulk endpoint if there is one. -/
def describeIdle (m : DeviceModel) : AltSetting :=
  ⟨0, m.bulkPacketSize.map fun packetSize => ⟨m.endpoint, .bulk, packetSize, 0⟩⟩

/-- The isochronous settings, with numbers from 1 on. -/
def describeAlts (m : DeviceModel) : List AltSetting :=
  m.isoPacketSizes.zipIdx.map fun (packetSize, i) =>
    ⟨.ofNat (i + 1), some ⟨m.endpoint, .isochronous, packetSize, 1⟩⟩

/-- The streaming interface with some of its formats and settings. -/
def describeStreaming (m : DeviceModel) (formats : List FormatDescriptor)
    (altSettings : List AltSetting) : StreamingInterface where
  number := streamingInterfaceNumber
  endpointAddress := m.endpoint
  terminalLink := outputTerminalId
  stillCaptureMethod := 2
  formats
  altSettings

/-- What a model describes. -/
def catalog (m : DeviceModel) : Catalog where
  uvcVersion := m.uvcVersion
  control := topology
  streaming := [m.describeStreaming m.describeFormats (m.describeIdle :: m.describeAlts)]

end DeviceModel

namespace DeviceModel

variable (m : DeviceModel)

/-- The indices of a catalog lead back to the formats and frames it was made of. -/
theorem lookup_describe (hfit : m.Fits) {i j : Nat} {f : FormatDescriptor} {d : FrameDescriptor}
    (hf : m.describeFormats[i]? = some f) (hd : f.frames[j]? = some d) :
    ∃ format frame, m.formats[i]? = some format ∧ format.frames[j]? = some frame ∧
      m.lookup f.index d.index = some (format, frame) := by
  obtain ⟨format, hformat, rfl⟩ : ∃ format, m.formats[i]? = some format ∧
      format.describe (.ofNat (i + 1)) format.describeFrames = f := by
    simpa [describeFormats, List.getElem?_zipIdx] using hf
  obtain ⟨frame, hframe, rfl⟩ : ∃ frame, format.frames[j]? = some frame ∧
      format.describeFrame (.ofNat (j + 1)) frame = d := by
    simpa [FormatSpec.describe, FormatSpec.describeFrames, List.getElem?_zipIdx] using hd
  refine ⟨format, frame, hformat, hframe, ?_⟩
  obtain ⟨hi, -⟩ := List.getElem?_eq_some_iff.mp hformat
  obtain ⟨hj, -⟩ := List.getElem?_eq_some_iff.mp hframe
  have hcount := (hfit.formats format (List.mem_of_getElem? hformat)).count
  have hformats := hfit.count
  have hindex {n : Nat} (hn : n < 255) : (UInt8.ofNat (n + 1)).toNat = n + 1 := by
    rw [UInt8.toNat_ofNat']
    omega
  have hne {n : Nat} (hn : n < 255) : UInt8.ofNat (n + 1) ≠ 0 := fun hzero => by
    have := hindex hn
    rw [hzero] at this
    cases this
  dsimp only [FormatSpec.describe, FormatSpec.describeFrame]
  have hi : i < 255 := by omega
  have hj : j < 255 := by omega
  rw [lookup, if_neg (not_or.mpr ⟨hne hi, hne hj⟩), hindex hi, hindex hj, Nat.add_sub_cancel,
    Nat.add_sub_cancel, hformat]
  show (do
    let frame ← format.frames[j]?
    return (format, frame)) = _
  rw [hframe]
  rfl

end DeviceModel

end UsbVideo
