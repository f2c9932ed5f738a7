import UsbVideo.Proofs.Device.Entries

/-!
# A device model reads back

The configuration block of a device model is read back as the catalog the model describes, as long as
nothing in it is cut.

    model ──configuration──▶ block
      │                        │ parseConfiguration
      └───────catalog──────────▶ catalog

The streaming interface is read from the inside out: the head of a format, its frames one by one, the
formats one by one, and then the alternate settings.
-/

namespace UsbVideo

namespace DeviceModel

/-! ### The streaming interface -/

variable (m : DeviceModel)

/-- Within the streaming interface. -/
def streamingSurvey (s : StreamingInterface) : Survey where
  context := .streaming streamingInterfaceNumber
  control := some topology
  uvcVersion := m.uvcVersion
  streaming := [s]

theorem context_streamingSurvey (s : StreamingInterface) :
    (m.streamingSurvey s).context = .streaming streamingInterfaceNumber := rfl

/-- Within the streaming interface, behind its header and these formats and settings. -/
def within (formats : List FormatDescriptor) (altSettings : List AltSetting) : Survey :=
  m.streamingSurvey (m.describeStreaming formats altSettings)

/-- A class-specific entry changes the interface. -/
theorem takes_streamingEntry {s s' : StreamingInterface} {bytes : Bytes}
    (hnumber : s.number = streamingInterfaceNumber) (h : Measured bytes)
    (hkind : bytes[1]? = some DescriptorType.classInterface)
    (hread : ∀ offset, readStreamingEntry s ⟨offset, bytes, h.two_le⟩ = .ok s') :
    (m.streamingSurvey s).Takes bytes (m.streamingSurvey s') := by
  refine .entry h fun offset => ?_
  let e : Entry := ⟨offset, bytes, h.two_le⟩
  have hkind : e.kind = DescriptorType.classInterface := by
    rw [List.getElem?_eq_getElem h.two_le] at hkind
    exact Option.some.inj hkind
  have hsome : (m.streamingSurvey s).interface? streamingInterfaceNumber = some s := by
    simp [Survey.interface?, streamingSurvey, hnumber]
  show Survey.read _ e = _
  rw [Survey.read, hkind, if_neg (by decide), if_neg (by decide), if_neg (by decide), if_pos rfl]
  simp only [Survey.readClassEntry, context_streamingSurvey, hsome]
  rw [hread]
  show Except.ok _ = _
  simp [Survey.modifyInterface, streamingSurvey, hnumber]

theorem takes_inputHeader (hcount : m.formats.length ≤ 242) (altSettings : List AltSetting) :
    (m.streamingSurvey { number := streamingInterfaceNumber, altSettings }).Takes m.inputHeader
      (m.within [] altSettings) := by
  have hcut : (UInt8.ofNat m.formats.length).toNat = m.formats.length := by
    rw [UInt8.toNat_ofNat']
    omega
  have hlength : m.inputHeader.length = 13 + m.formats.length := by
    simp [inputHeader, hcut]
    omega
  have hhead : m.inputHeader.head? = some (13 + .ofNat m.formats.length) := rfl
  refine m.takes_streamingEntry rfl ⟨by omega, ?_⟩ rfl fun offset => ?_
  · rw [hhead, hlength, Option.map_some, UInt8.toNat_add, hcut]
    congr 1
    show (13 + _) % 256 = _
    omega
  · let e : Entry := ⟨offset, m.inputHeader, by omega⟩
    have hlong : 13 ≤ e.size := by
      show 13 ≤ m.inputHeader.length
      omega
    show readStreamingEntry _ e = _
    have hsubtype : e.subtype? = some StreamingSubtype.inputHeader := rfl
    rw [readStreamingEntry, hsubtype]
    dsimp only
    rw [if_pos rfl, StreamingInterface.readInputHeader, Entry.needs, dif_pos hlong]
    rfl

/-- The colour matching of a format says nothing that is kept. -/
theorem takes_colorEntry (s : StreamingInterface) (hnumber : s.number = streamingInterfaceNumber) :
    (m.streamingSurvey s).Takes
      [6, DescriptorType.classInterface, StreamingSubtype.colorFormat, 1, 1, 4]
      (m.streamingSurvey s) :=
  m.takes_streamingEntry hnumber ⟨by decide, by decide⟩ rfl fun _ => rfl

/-- A format behind formats that have frames, or the first. -/
theorem addFormat_eq {s : StreamingInterface} (hfull : ∀ f ∈ s.formats, f.frames ≠ []) (e : Entry)
    (format : FormatDescriptor) :
    s.addFormat e format = .ok { s with formats := s.formats ++ [format] } := by
  rw [StreamingInterface.addFormat]
  split
  · next previous hlast =>
    have := hfull previous (List.mem_of_getLast? hlast)
    rw [if_neg (by simpa using this)]
  · rfl

theorem u8_eq_of_getElem? {e : Entry} {i : Nat} {b : UInt8} (h : i < e.size)
    (hb : e.bytes[i]? = some b) : e.u8 i h = b := by
  rw [List.getElem?_eq_getElem h] at hb
  exact Option.some.inj hb

theorem guid_eq_of_slice {e : Entry} {i : Nat} {guid : Guid} (h : i + 16 ≤ e.size)
    (hslice : e.slice i 16 h = guid.toList) : e.guid i h = guid := by
  apply Vector.toList_inj.mp
  rw [Entry.guid, Guid.ofBytes, ← hslice]
  rfl

/-- A format entry that names a GUID in front of its depth. -/
def guidHead (length subtype index frames depth : UInt8) (guid : Guid) (tail : Bytes) : Bytes :=
  [length, DescriptorType.classInterface, subtype, index, frames] ++ guid.toList
    ++ (depth :: 1 :: tail)

section GuidFormat

variable (length subtype index frames depth : UInt8) (guid : Guid) (tail : Bytes)

theorem length_guidHead :
    (guidHead length subtype index frames depth guid tail).length = 23 + tail.length := by
  simp only [guidHead, List.length_append, List.length_cons, List.length_nil, Vector.length_toList]
  omega

theorem readGuidFormat_guidHead {s : StreamingInterface} (hfull : ∀ f ∈ s.formats, f.frames ≠ [])
    (encode : Guid → Encoding) (offset : Nat) {needed : Nat} (hneeded : 23 ≤ needed)
    (htail : 23 + tail.length = needed)
    (h : 2 ≤ (guidHead length subtype index frames depth guid tail).length) :
    let e : Entry := ⟨offset, guidHead length subtype index frames depth guid tail, h⟩
    (e.needs needed .format fun hlong =>
      s.addFormat e ⟨e.u8 3, encode (e.guid 5), e.u8 21, e.u8 22, []⟩) =
      .ok { s with formats := s.formats ++ [⟨index, encode guid, depth, 1, []⟩] } := by
  intro e
  have hlong : needed ≤ e.size := by
    refine Nat.le_of_eq ?_
    rw [Entry.size, length_guidHead, htail]
  have hguid : e.guid 5 = guid := by
    refine guid_eq_of_slice (by omega) ?_
    exact List.take_left' Vector.length_toList
  have hdepth : e.u8 21 = depth := by
    refine u8_eq_of_getElem? (by omega) ?_
    show (guidHead length subtype index frames depth guid tail)[21]? = _
    rw [guidHead, List.getElem?_append_right (by simp)]
    simp
  have hdefault : e.u8 22 = 1 := by
    refine u8_eq_of_getElem? (by omega) ?_
    show (guidHead length subtype index frames depth guid tail)[22]? = _
    rw [guidHead, List.getElem?_append_right (by simp)]
    simp
  rw [Entry.needs, dif_pos hlong, addFormat_eq hfull, hguid, hdepth, hdefault]
  rfl

end GuidFormat

/-- The frame subtypes lead to the reader of frames. -/
theorem readStreamingEntry_frame {s : StreamingInterface} {e : Entry} {encoding : Encoding}
    (h : e.subtype? = some encoding.frameSubtype) :
    readStreamingEntry s e = s.readFrameEntry e encoding.frameSubtype := by
  rw [readStreamingEntry, h]
  cases encoding <;> rfl

section Format

variable {m} {formats : List FormatDescriptor} (hfull : ∀ f ∈ formats, f.frames ≠ [])
  (altSettings : List AltSetting)

include hfull

/-- A raw format is told by its GUID. -/
theorem takes_rawHead {encoding : Encoding} (frames : List FrameSpec) (index : UInt8)
    (hguid : encoding.guid?.map .ofGuid = some encoding) (hraw : encoding ≠ .mjpeg)
    (hhead : formatHead index ⟨encoding, frames⟩ =
      guidHead 27 StreamingSubtype.uncompressedFormat index (.ofNat frames.length)
        (FormatSpec.bitsPerPixel ⟨encoding, frames⟩) (encoding.guid?.getD (Vector.replicate 16 0))
        [0, 0, 0, 0]) :
    (m.within formats altSettings).Takes (formatHead index ⟨encoding, frames⟩)
      (m.within (formats ++ [FormatSpec.describe ⟨encoding, frames⟩ index []]) altSettings) := by
  obtain ⟨guid, hsome, hof⟩ := Option.map_eq_some_iff.mp hguid
  rw [hsome, Option.getD_some] at hhead
  rw [hhead]
  have hmeasured : Measured (guidHead 27 StreamingSubtype.uncompressedFormat index
      (.ofNat frames.length) (FormatSpec.bitsPerPixel ⟨encoding, frames⟩) guid [0, 0, 0, 0]) :=
    ⟨by rw [length_guidHead]; decide, by rw [length_guidHead]; rfl⟩
  refine m.takes_streamingEntry rfl hmeasured rfl fun offset => ?_
  refine (readGuidFormat_guidHead 27 _ index _ _ guid [0, 0, 0, 0]
    (s := m.describeStreaming formats altSettings) hfull .ofGuid offset (by decide) rfl _).trans ?_
  rw [hof, FormatSpec.describe, if_neg hraw]
  rfl

theorem takes_formatHead {format : FormatSpec} (hfit : format.Fits) (index : UInt8) :
    (m.within formats altSettings).Takes (formatHead index format)
      (m.within (formats ++ [format.describe index []]) altSettings) := by
  obtain ⟨encoding, frames⟩ := format
  cases encoding with
  | mjpeg =>
    refine m.takes_streamingEntry rfl ⟨Nat.le_of_ble_eq_true rfl, rfl⟩ rfl fun offset => ?_
    exact addFormat_eq (s := m.describeStreaming formats altSettings) hfull _ _
  | frameBased guid =>
    have hmeasured : Measured (formatHead index ⟨.frameBased guid, frames⟩) := by
      constructor <;> simp [formatHead]
    refine m.takes_streamingEntry rfl hmeasured rfl fun offset => ?_
    exact readGuidFormat_guidHead 28 _ index _ _ guid [0, 0, 0, 0, 1]
      (s := m.describeStreaming formats altSettings) hfull .frameBased offset (by decide) rfl _
  | uncompressed guid =>
    exact takes_rawHead hfull altSettings frames index (congrArg some (hfit.guid guid rfl))
      (by simp) rfl
  | _ =>
    exact takes_rawHead hfull altSettings frames index (Encoding.ofGuid_of_named _ (by simp))
      (by simp) rfl

omit hfull in
theorem takes_frameEntry (format : FormatSpec) (formatIndex index : UInt8)
    (frames : List FrameDescriptor) {frame : FrameSpec} (hfit : frame.intervals.Fit) :
    (m.within (formats ++ [format.describe formatIndex frames]) altSettings).Takes
      (frameEntry format index frame)
      (m.within
        (formats ++ [format.describe formatIndex (frames ++ [format.describeFrame index frame])])
        altSettings) := by
  have hmeasured := measured_frameEntry format index hfit
  refine m.takes_streamingEntry rfl hmeasured ?_ fun offset => ?_
  · obtain ⟨encoding, _⟩ := format
    cases encoding <;> rfl
  let e : Entry := ⟨offset, frameEntry format index frame, hmeasured.two_le⟩
  have hsubtype : e.subtype? = some format.encoding.frameSubtype := by
    obtain ⟨encoding, _⟩ := format
    cases encoding <;> rfl
  rw [readStreamingEntry_frame hsubtype, StreamingInterface.readFrameEntry]
  dsimp only [describeStreaming]
  rw [List.getLast?_concat]
  dsimp only
  have hsame : format.encoding.frameSubtype =
      (format.describe formatIndex frames).encoding.frameSubtype := rfl
  rw [if_pos hsame]
  show (readFrame e (format.encoding.frameSubtype = StreamingSubtype.frameBasedFrame) >>= _) = _
  rw [readFrame_frameEntry format index hfit]
  show Except.ok _ = _
  rw [StreamingInterface.addFrame, List.dropLast_concat]
  rfl

theorem takes_formatBlock {format : FormatSpec} (hfit : format.Fits) (index : UInt8) :
    (m.within formats altSettings).Takes (formatBlock index format)
      (m.within (formats ++ [format.describe index format.describeFrames]) altSettings) := by
  have hframes : (m.within (formats ++ [format.describe index []]) altSettings).Takes
      (format.frames.zipIdx.flatMap fun p => frameEntry format (.ofNat (p.2 + 1)) p.1)
      (m.within (formats ++ [format.describe index format.describeFrames]) altSettings) := by
    refine .each (fun frames => m.within (formats ++ [format.describe index frames]) altSettings)
      fun front a h => ?_
    have hmem : a.1 ∈ format.frames := List.fst_mem_of_mem_zipIdx (h.subset (by simp))
    exact takes_frameEntry altSettings format index (.ofNat (a.2 + 1)) _ (hfit.intervals a.1 hmem)
  exact ((takes_formatHead hfull altSettings hfit index).trans hframes).trans
    (m.takes_colorEntry _ rfl)

end Format

theorem frames_describeFormats (hfit : m.Fits) : ∀ f ∈ m.describeFormats, f.frames ≠ [] := by
  intro f hf
  obtain ⟨⟨format, i⟩, hmem, rfl⟩ := List.mem_map.mp hf
  have hframes := (hfit.formats format (List.fst_mem_of_mem_zipIdx hmem)).nonempty
  simpa [FormatSpec.describe, FormatSpec.describeFrames] using hframes

theorem takes_formatBlocks (hfit : m.Fits) (altSettings : List AltSetting) :
    (m.within [] altSettings).Takes m.formatBlocks (m.within m.describeFormats altSettings) := by
  refine .each (fun formats => m.within formats altSettings) fun front a h => ?_
  have hmem : a.1 ∈ m.formats := List.fst_mem_of_mem_zipIdx (h.subset (by simp))
  refine takes_formatBlock (fun f hf => ?_) altSettings (hfit.formats a.1 hmem) (.ofNat (a.2 + 1))
  -- The formats in front are formats of the model, too.
  refine m.frames_describeFormats hfit f ?_
  obtain ⟨b, hb, rfl⟩ := List.mem_map.mp hf
  exact List.mem_map.mpr ⟨b, h.subset (List.mem_append_left _ hb), rfl⟩

/-- One more alternate setting. -/
theorem takes_interfaceEntry (formats : List FormatDescriptor) (altSettings : List AltSetting)
    (number endpoints : UInt8) :
    (m.within formats altSettings).Takes
      (interfaceEntry streamingInterfaceNumber number endpoints VideoClass.streaming)
      (m.within formats (altSettings ++ [⟨number, none⟩])) :=
  .entry ⟨Nat.le_of_ble_eq_true rfl, rfl⟩ fun _ => rfl

/-- The endpoint of the latest alternate setting. -/
theorem takes_endpointEntry (formats : List FormatDescriptor) (altSettings : List AltSetting)
    (number attributes interval : UInt8) (packetSize : UInt16) :
    (m.within formats (altSettings ++ [⟨number, none⟩])).Takes
      (endpointEntry m.endpoint attributes packetSize interval)
      (m.within formats (altSettings ++
        [⟨number, some ⟨m.endpoint, .ofAttributes attributes, packetSize, interval⟩⟩])) := by
  refine .entry ⟨Nat.le_of_ble_eq_true rfl, rfl⟩ fun offset => ?_
  let endpoint : Endpoint := ⟨m.endpoint, .ofAttributes attributes,
    .ofNat (Bytes.value (Bytes.word16 packetSize)), interval⟩
  have hread : Survey.read (m.within formats (altSettings ++ [⟨number, none⟩]))
      ⟨offset, endpointEntry m.endpoint attributes packetSize interval, Nat.le_of_ble_eq_true rfl⟩ =
      .ok (m.within formats
        (Survey.modifyLast (Survey.settleEndpoint endpoint) (altSettings ++ [⟨number, none⟩]))) := rfl
  rw [hread, Survey.modifyLast, List.getLast?_concat]
  dsimp only
  rw [List.dropLast_concat]
  dsimp only [endpoint]
  rw [Bytes.ofNat_value_word16]
  rfl

theorem takes_isoAlts (formats : List FormatDescriptor) (idle : AltSetting) :
    (m.within formats [idle]).Takes
      (m.isoPacketSizes.zipIdx.flatMap fun (packetSize, i) =>
        m.isoAltBlock (.ofNat (i + 1)) packetSize)
      (m.within formats (idle :: m.describeAlts)) := by
  refine .each (fun alts => m.within formats (idle :: alts)) fun front a h => ?_
  exact (m.takes_interfaceEntry formats (idle :: _) (.ofNat (a.2 + 1)) 1).trans
    (m.takes_endpointEntry formats (idle :: _) (.ofNat (a.2 + 1)) 0x05 1 a.1)

/-- The endpoint of a device that streams over bulk. -/
def bulkBlock : Bytes :=
  match m.bulkPacketSize with
  | some packetSize => endpointEntry m.endpoint 0x02 packetSize 0
  | none => []

theorem takes_bulkBlock :
    (m.within m.describeFormats [⟨0, none⟩]).Takes m.bulkBlock
      (m.within m.describeFormats [m.describeIdle]) := by
  rw [bulkBlock, describeIdle]
  cases m.bulkPacketSize with
  | none => exact .refl _
  | some packetSize => exact m.takes_endpointEntry m.describeFormats [] 0 0x02 0 packetSize

theorem takes_streamingBlock (hfit : m.Fits) :
    (m.controlSurvey topology).Takes m.streamingBlock
      (m.within m.describeFormats (m.describeIdle :: m.describeAlts)) := by
  have hinterface : (m.controlSurvey topology).Takes
      (interfaceEntry streamingInterfaceNumber 0 (if m.bulkPacketSize.isSome then 1 else 0)
        VideoClass.streaming)
      (m.streamingSurvey { number := streamingInterfaceNumber, altSettings := [⟨0, none⟩] }) :=
    .entry ⟨Nat.le_of_ble_eq_true rfl, rfl⟩ fun _ => rfl
  have hheader := m.takes_inputHeader hfit.count [⟨0, none⟩]
  have hformats := m.takes_formatBlocks hfit [⟨0, none⟩]
  exact (((hinterface.trans hheader).trans hformats).trans m.takes_bulkBlock).trans
    (m.takes_isoAlts _ _)

/-- The entry of the configuration itself. -/
def configurationEntry : Bytes :=
  [9, DescriptorType.configuration] ++ Bytes.littleEndian 2 (9 + m.interfaces.length)
    ++ [2, 1, 0, 0x80, 250]

theorem measured_configurationEntry : Measured m.configurationEntry :=
  ⟨Nat.le_of_ble_eq_true rfl, rfl⟩

theorem configuration_eq : m.configuration = m.configurationEntry ++ m.interfaces := rfl

theorem takes_configuration (hfit : m.Fits) :
    Survey.Takes {} m.configuration
      (m.within m.describeFormats (m.describeIdle :: m.describeAlts)) := by
  have hconfiguration : Survey.Takes {} m.configurationEntry {} :=
    .entry m.measured_configurationEntry fun _ => rfl
  have hassociation : Survey.Takes {}
      [8, DescriptorType.interfaceAssociation, controlInterfaceNumber, 2, VideoClass.code, 0x03, 0, 0]
      {} := .entry ⟨by decide, rfl⟩ fun _ => rfl
  exact hconfiguration.trans
    ((hassociation.trans m.takes_controlBlock).trans (m.takes_streamingBlock hfit))

theorem checkFirst_configuration : checkFirst (tile 0 m.configuration).1 = .ok () := by
  rw [configuration_eq, tile_append m.measured_configurationEntry]
  rfl

theorem conclude_within (hfit : m.Fits) (total : Nat) :
    (m.within m.describeFormats (m.describeIdle :: m.describeAlts)).conclude total =
      .ok m.catalog := by
  have hfull : (m.within m.describeFormats (m.describeIdle :: m.describeAlts)).emptyFormat? = none := by
    have := m.frames_describeFormats hfit
    simpa [Survey.emptyFormat?, within, streamingSurvey, describeStreaming] using this
  simp only [Survey.conclude, hfull]
  rfl

/-- A block in which nothing is cut is read as the catalog that the model describes. -/
theorem parseConfiguration_model (hfit : m.Fits) :
    parseConfiguration m.configuration = .ok m.catalog := by
  have htakes := m.takes_configuration hfit 0 [] m.configuration.length
  rw [List.append_nil, tile] at htakes
  rw [parseConfiguration_eq, checkFirst_configuration]
  exact htakes.trans (m.conclude_within hfit _)

/-- **A device model reads back.** A block in which nothing is cut is read as the catalog that the
model describes, and the indices in the catalog lead back to the model's own formats and frames. -/
theorem parseConfiguration_configuration (hfit : m.Fits) :
    parseConfiguration m.configuration = .ok m.catalog ∧
      ∀ s ∈ m.catalog.streaming, ∀ (i j : Nat) (f : FormatDescriptor) (d : FrameDescriptor),
        s.formats[i]? = some f → f.frames[j]? = some d →
        ∃ format frame, m.formats[i]? = some format ∧ format.frames[j]? = some frame ∧
          m.lookup f.index d.index = some (format, frame) := by
  constructor
  · exact m.parseConfiguration_model hfit
  · intro s hs i j f d hf hd
    obtain rfl := List.mem_singleton.mp hs
    exact m.lookup_describe hfit hf hd

/-- A camera with one format of each kind. -/
def fourFormats : DeviceModel :=
  { isoPacketSizes := [128, 0x1400]
    formats :=
      [⟨.mjpeg, [⟨640, 480, .discrete [333333, 666666]⟩, ⟨1280, 720, .discrete [333333]⟩]⟩,
       ⟨.frameBased (.named 'H' '2' '6' '4'), [⟨1280, 720, .continuous 333333 1000000 1⟩]⟩,
       ⟨.yuy2, [⟨640, 480, .discrete [333333]⟩]⟩,
       ⟨.uncompressed (.named 'B' 'Y' 'R' '1'), [⟨320, 240, .discrete [400000]⟩]⟩] }

theorem fits_fourFormats : fourFormats.Fits where
  count := by decide
  alts := by decide
  formats format hformat := by
    simp only [fourFormats, List.mem_cons, List.not_mem_nil, or_false] at hformat
    rcases hformat with rfl | rfl | rfl | rfl
    all_goals refine ⟨by simp, by decide, by simp [FrameIntervals.Fit], fun guid hguid => ?_⟩
    all_goals cases hguid
    decide

theorem parseConfiguration_fourFormats :
    parseConfiguration fourFormats.configuration = .ok fourFormats.catalog ∧
      ∃ format frame, fourFormats.formats[1]? = some format ∧ format.frames[0]? = some frame ∧
        fourFormats.lookup 2 1 = some (format, frame) :=
  ⟨(fourFormats.parseConfiguration_configuration fits_fourFormats).1,
    (fourFormats.parseConfiguration_configuration fits_fourFormats).2 _ (List.mem_singleton.mpr rfl)
      1 0 _ _ rfl rfl⟩

end DeviceModel

end UsbVideo
