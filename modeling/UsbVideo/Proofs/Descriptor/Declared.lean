import UsbVideo.Proofs.Descriptor.Chapters
import UsbVideo.Proofs.Descriptor.Conformance

/-!
# Readers take in what is declared

An interface in the survey is that of the class-specific entries read for it, in front of which it says
nothing:

    declared        ──ofEntries──▶ interface
       │ ++ [e]                       │ read e
       ▼                              ▼
    declared ++ [e] ──ofEntries──▶ interface

Each reader is gone through once: what it accepts is what the entries together with the new one say
(`Accepts`, `accepts_controlEntry`, `accepts_streamingEntry`).
-/

namespace UsbVideo

/-! ### What readers accept -/

/-- Whatever is accepted has the property. -/
def Accepts {α : Type} (x : Except DescriptorError α) (P : α → Prop) : Prop :=
  ∀ r, x = .ok r → P r

namespace Accepts

variable {α β : Type} {x : Except DescriptorError α} {P : α → Prop} {e : Entry}

protected theorem ok {a : α} (h : P a) : Accepts (.ok a) P := by
  rintro _ ⟨⟩
  exact h

protected theorem error (flaw : DescriptorError) : Accepts (.error flaw) P := by
  rintro _ ⟨⟩

theorem refuse (e : Entry) (flaw : DescriptorFlaw) : Accepts (e.refuse flaw) P := .error _

theorem needs {needed : Nat} {part : DescriptorPart}
    {go : needed ≤ e.size → Except DescriptorError α} (h : ∀ hlong, Accepts (go hlong) P) :
    Accepts (e.needs needed part go) P := by
  rw [Entry.needs]
  split
  · next hlong => exact h hlong
  · exact refuse e _

theorem bind {f : α → Except DescriptorError β} {Q : β → Prop} (h : Accepts x P)
    (hf : ∀ a, P a → Accepts (f a) Q) : Accepts (x >>= f) Q := by
  cases x with
  | error flaw => exact .error flaw
  | ok a => exact hf a (h a rfl)

/-- A result made from an outcome. -/
theorem map {f : α → β} {Q : β → Prop} (h : Accepts x P) (hf : ∀ a, P a → Q (f a)) :
    Accepts (x >>= fun a => pure (f a)) Q :=
  h.bind fun a ha => .ok (hf a ha)

end Accepts

/-! ### Fields of long entries -/

namespace Entry

variable (e : Entry)

theorem u8_eq {i : Nat} (h : i < e.size) : e.u8 i h = e.byte i := by
  rw [byte, List.getElem?_eq_getElem h]
  rfl

theorem u16_eq {i : Nat} (h : i + 2 ≤ e.size) : e.u16 i h = e.word i := rfl

theorem u32_eq {i : Nat} (h : i + 4 ≤ e.size) : e.u32 i h = e.long i := rfl

theorem slice_eq {i n : Nat} (h : i + n ≤ e.size) : e.slice i n h = e.part i n := rfl

theorem guid_eq {i : Nat} (h : i + 16 ≤ e.size) : e.guid i h = e.sixteen i := by
  refine Vector.ext fun j hj => ?_
  have hi : i + j < e.bytes.length := Nat.lt_of_lt_of_le (by omega) h
  simp [guid, Guid.ofBytes, slice, sixteen, byte, hi]

theorem toNat_byte (i : Nat) : (e.byte i).toNat = e.count i := rfl

end Entry

/-! ### Entries of a control interface -/

theorem ofSubtype_concat (subtype : UInt8) (entries : List Entry) (e : Entry) :
    ofSubtype subtype (entries ++ [e]) =
      ofSubtype subtype entries ++ if e.subtype? = some subtype then [e] else [] := by
  simp [ofSubtype, List.filter_append, List.filter_cons]

/-- The version in the last header. -/
def headerVersion (declared : List Entry) : UInt16 :=
  ((ofSubtype ControlSubtype.header declared).getLast?.map (·.word 3)).getD 0

/-- The control interface that declares these entries. -/
def ControlInterface.ofEntries (number : UInt8) (declared : List Entry) : ControlInterface where
  number
  clockFrequency :=
    ((ofSubtype ControlSubtype.header declared).getLast?.map (·.long 7)).getD 0
  inputTerminals := (ofSubtype ControlSubtype.inputTerminal declared).map Entry.inputTerminal
  outputTerminals := (ofSubtype ControlSubtype.outputTerminal declared).map Entry.outputTerminal
  selectorUnits := (ofSubtype ControlSubtype.selectorUnit declared).map Entry.selectorUnit
  processingUnits := (ofSubtype ControlSubtype.processingUnit declared).map Entry.processingUnit
  extensionUnits := (ofSubtype ControlSubtype.extensionUnit declared).map Entry.extensionUnit

section Control

variable (c : ControlInterface) (e : Entry)

theorem accepts_inputTerminal : Accepts (c.readInputTerminal e)
    (· = { c with inputTerminals := c.inputTerminals ++ [e.inputTerminal] }) := by
  refine .needs fun hfixed => ?_
  dsimp only
  rw [Entry.u8_eq, Entry.u16_eq]
  split
  · next hcamera =>
    refine .needs fun _ => .needs fun hall => .ok ?_
    simp [Entry.inputTerminal, hcamera, Entry.u8_eq, Entry.slice_eq, Entry.toNat_byte]
  · next hother => exact .ok (by simp [Entry.inputTerminal, hother])

theorem accepts_outputTerminal : Accepts (c.readOutputTerminal e)
    (· = { c with outputTerminals := c.outputTerminals ++ [e.outputTerminal] }) := by
  refine .needs fun hall => .ok ?_
  rw [Entry.u8_eq, Entry.u16_eq, Entry.u8_eq]
  rfl

theorem accepts_selectorUnit : Accepts (c.readSelectorUnit e)
    (· = { c with selectorUnits := c.selectorUnits ++ [e.selectorUnit] }) := by
  refine .needs fun hfixed => .needs fun hall => .ok ?_
  simp [Entry.selectorUnit, Entry.u8_eq, Entry.slice_eq, Entry.toNat_byte]

theorem accepts_processingUnit : Accepts (c.readProcessingUnit e)
    (· = { c with processingUnits := c.processingUnits ++ [e.processingUnit] }) := by
  refine .needs fun hfixed => .needs fun hall => .ok ?_
  simp [Entry.processingUnit, Entry.u8_eq, Entry.slice_eq, Entry.toNat_byte]

theorem accepts_extensionUnit : Accepts (c.readExtensionUnit e)
    (· = { c with extensionUnits := c.extensionUnits ++ [e.extensionUnit] }) := by
  refine .needs fun hfixed => .needs fun hpins => .needs fun hall => .ok ?_
  simp [Entry.extensionUnit, Entry.u8_eq, Entry.slice_eq, Entry.guid_eq, Entry.toNat_byte]

/-- An entry of a control interface is read as one more of its entries. -/
theorem accepts_controlEntry (number : UInt8) (declared : List Entry) :
    Accepts (readControlEntry (headerVersion declared) (.ofEntries number declared) e)
      (· = (headerVersion (declared ++ [e]), .ofEntries number (declared ++ [e]))) := by
  rw [readControlEntry]
  cases hsubtype : e.subtype? with
  | none => exact .refuse e _
  | some subtype =>
    dsimp only
    split
    case isTrue h =>
      refine .needs fun hall => .ok ?_
      simp +decide [headerVersion, ControlInterface.ofEntries, ofSubtype_concat, hsubtype, h,
        Entry.u16_eq, Entry.u32_eq]
    split
    case isTrue h =>
      refine (accepts_inputTerminal _ e).map fun _ hread => ?_
      simp +decide [hread, headerVersion, ControlInterface.ofEntries, ofSubtype_concat, hsubtype, h]
    split
    case isTrue h =>
      refine (accepts_outputTerminal _ e).map fun _ hread => ?_
      simp +decide [hread, headerVersion, ControlInterface.ofEntries, ofSubtype_concat, hsubtype, h]
    split
    case isTrue h =>
      refine (accepts_selectorUnit _ e).map fun _ hread => ?_
      simp +decide [hread, headerVersion, ControlInterface.ofEntries, ofSubtype_concat, hsubtype, h]
    split
    case isTrue h =>
      refine (accepts_processingUnit _ e).map fun _ hread => ?_
      simp +decide [hread, headerVersion, ControlInterface.ofEntries, ofSubtype_concat, hsubtype, h]
    split
    case isTrue h =>
      refine (accepts_extensionUnit _ e).map fun _ hread => ?_
      simp +decide [hread, headerVersion, ControlInterface.ofEntries, ofSubtype_concat, hsubtype, h]
    · next hheader hinput houtput hselector hprocessing hextension =>
      refine .ok ?_
      simp [headerVersion, ControlInterface.ofEntries, ofSubtype_concat, hsubtype, hheader, hinput,
        houtput, hselector, hprocessing, hextension]

end Control

/-! ### Entries of a streaming interface -/

/-- The streaming interface that declares these entries. -/
def StreamingInterface.ofEntries (number : UInt8) (altSettings : List AltSetting)
    (declared : List Entry) : StreamingInterface where
  number
  endpointAddress :=
    ((ofSubtype StreamingSubtype.inputHeader declared).getLast?.map (·.byte 6)).getD 0
  terminalLink :=
    ((ofSubtype StreamingSubtype.inputHeader declared).getLast?.map (·.byte 8)).getD 0
  stillCaptureMethod :=
    ((ofSubtype StreamingSubtype.inputHeader declared).getLast?.map (·.byte 9)).getD 0
  formats := (formatChapters declared).map formatOf
  altSettings

section Streaming

variable {e : Entry} {declared : List Entry}

theorem formats_concat_format (h : e.IsFormat) :
    (formatChapters (declared ++ [e])).map formatOf =
      (formatChapters declared).map formatOf ++ [e.format []] := by
  rw [formatChapters, chapters_concat_opener (by simpa using h), List.map_append]
  rfl

/-- A format takes in a frame. -/
theorem Entry.format_concat (e : Entry) (frames : List FrameDescriptor) (frame : FrameDescriptor) :
    e.format (frames ++ [frame]) =
      { e.format frames with frames := (e.format frames).frames ++ [frame] } := by
  unfold format
  by_cases huncompressed : e.subtype? = some StreamingSubtype.uncompressedFormat
  · simp only [if_pos huncompressed]
  by_cases hframeBased : e.subtype? = some StreamingSubtype.frameBasedFormat
  · simp only [if_neg huncompressed, if_pos hframeBased]
  · simp only [if_neg huncompressed, if_neg hframeBased]

theorem formats_concat_frame (h : e.IsFrame) :
    (formatChapters (declared ++ [e])).map formatOf =
      Survey.modifyLast (fun f => { f with frames := f.frames ++ [e.frame] })
        ((formatChapters declared).map formatOf) := by
  rw [formatChapters, chapters_concat_other (by simpa using h.not_isFormat)]
  refine map_modifyLast (fun c => ?_) _
  have hframes : (c.2 ++ [e]).filter (·.IsFrame) = c.2.filter (·.IsFrame) ++ [e] := by
    simp [List.filter_append, h]
  rw [formatOf, formatOf, hframes, List.map_append]
  exact c.1.format_concat _ _

theorem formats_concat_other (hformat : ¬ e.IsFormat) (hframe : ¬ e.IsFrame) :
    (formatChapters (declared ++ [e])).map formatOf = (formatChapters declared).map formatOf := by
  rw [formatChapters, chapters_concat_other (by simpa using hformat)]
  refine map_modifyLast_of_same (fun c => ?_) _
  have hframes : (c.2 ++ [e]).filter (·.IsFrame) = c.2.filter (·.IsFrame) := by
    simp [List.filter_append, hframe]
  rw [formatOf, formatOf, hframes]

theorem accepts_intervals (count : Nat) (hcount : e.intervalCount = count) :
    Accepts (readIntervals e count) (· = e.intervals) := by
  rw [readIntervals, Entry.intervals, hcount]
  split
  · exact .needs fun _ => .ok rfl
  · refine .needs fun hlong => .ok ?_
    rw [← List.map_coe_finRange_eq_range, List.map_map]
    rfl

theorem accepts_frame (frameBased : Bool) (h : e.IsFrameBased ↔ frameBased = true) :
    Accepts (readFrame e frameBased) (· = e.frame) := by
  refine .needs fun hfixed => ?_
  have hcount : (if frameBased then e.u8 21 else e.u8 25).toNat = e.intervalCount := by
    rw [Entry.intervalCount]
    cases frameBased <;> simp [h, Entry.toNat_u8]
  dsimp only
  refine (accepts_intervals _ hcount.symm).map fun intervals hintervals => ?_
  cases frameBased <;> simp [Entry.frame, h, hintervals, Entry.u8_eq, Entry.u16_eq, Entry.u32_eq]

theorem accepts_addFormat (s : StreamingInterface) (format : FormatDescriptor) :
    Accepts (s.addFormat e format) (· = { s with formats := s.formats ++ [format] }) := by
  rw [StreamingInterface.addFormat]
  split
  · split
    · exact .refuse e _
    · exact .ok rfl
  · exact .ok rfl

/-- An entry that is no header shows in the formats at most. -/
theorem StreamingInterface.ofEntries_concat (number : UInt8) (altSettings : List AltSetting)
    (h : e.subtype? ≠ some StreamingSubtype.inputHeader) :
    ofEntries number altSettings (declared ++ [e]) =
      { ofEntries number altSettings declared with
        formats := (formatChapters (declared ++ [e])).map formatOf } := by
  simp [ofEntries, ofSubtype_concat, h]

/-- A header is no format and no frame. -/
theorem accepts_inputHeader (number : UInt8) (altSettings : List AltSetting)
    (h : e.subtype? = some StreamingSubtype.inputHeader) (hformat : ¬ e.IsFormat) (hframe : ¬ e.IsFrame) :
    Accepts ((StreamingInterface.ofEntries number altSettings declared).readInputHeader e)
      (· = .ofEntries number altSettings (declared ++ [e])) := by
  refine .needs fun hlong => .ok ?_
  simp [StreamingInterface.ofEntries, ofSubtype_concat, h, Entry.u8_eq,
    formats_concat_other hformat hframe]

/-- A format goes behind the others. -/
theorem accepts_formatEntry (number : UInt8) (altSettings : List AltSetting) (hformat : e.IsFormat)
    {format : FormatDescriptor} (heq : format = e.format []) :
    Accepts ((StreamingInterface.ofEntries number altSettings declared).addFormat e format)
      (· = .ofEntries number altSettings (declared ++ [e])) := by
  have hheader : e.subtype? ≠ some StreamingSubtype.inputHeader := fun h => by
    rw [Entry.IsFormat, Entry.frameSubtype?, h] at hformat
    exact absurd hformat (by decide)
  intro s hs
  rw [accepts_addFormat _ _ s hs, StreamingInterface.ofEntries_concat _ _ hheader,
    formats_concat_format hformat, heq]
  rfl

/-- A frame finds the format declared last. -/
theorem accepts_frameEntry (number : UInt8) (altSettings : List AltSetting) {subtype : UInt8}
    (hsubtype : e.subtype? = some subtype) (hframe : e.IsFrame) :
    Accepts ((StreamingInterface.ofEntries number altSettings declared).readFrameEntry e subtype)
      fun s => s = .ofEntries number altSettings (declared ++ [e]) ∧ ∃ f ∈ declared, f.IsFormat := by
  have hheader : e.subtype? ≠ some StreamingSubtype.inputHeader := by
    rcases hframe with h | h | h <;> rw [h] <;> decide
  rw [StreamingInterface.readFrameEntry]
  split
  · exact .refuse e _
  · next format hlast =>
    split
    · refine (accepts_frame _ (by simp [Entry.IsFrameBased, hsubtype])).map fun frame hread => ⟨?_, ?_⟩
      · rw [StreamingInterface.ofEntries_concat _ _ hheader, formats_concat_frame hframe, hread,
          StreamingInterface.addFrame, Survey.modifyLast]
        have hlast' : ((formatChapters declared).map formatOf).getLast? = some format := hlast
        rw [hlast']
        rfl
      · -- Without a format there would be no last one.
        by_contra hnone
        have hempty : formatChapters declared = [] :=
          chapters_eq_nil_iff.mpr fun f hf => by
            simpa using fun hformat => hnone ⟨f, hf, hformat⟩
        rw [StreamingInterface.ofEntries, hempty] at hlast
        cases hlast
    · exact .refuse e _

/-- What is neither header nor format nor frame does not show. -/
theorem StreamingInterface.ofEntries_concat_other (number : UInt8) (altSettings : List AltSetting)
    (hheader : e.subtype? ≠ some StreamingSubtype.inputHeader) (hformat : ¬ e.IsFormat)
    (hframe : ¬ e.IsFrame) :
    ofEntries number altSettings (declared ++ [e]) = ofEntries number altSettings declared := by
  rw [ofEntries_concat _ _ hheader, formats_concat_other hformat hframe]
  rfl

/-- An entry of a streaming interface is read as one more of its entries. A frame has a format in front
of it. -/
theorem accepts_streamingEntry (number : UInt8) (altSettings : List AltSetting)
    (declared : List Entry) (e : Entry) :
    Accepts (readStreamingEntry (.ofEntries number altSettings declared) e) fun s =>
      s = .ofEntries number altSettings (declared ++ [e]) ∧
        (e.IsFrame → ∃ f ∈ declared, f.IsFormat) := by
  have hother {x : Except DescriptorError StreamingInterface} (hframe : ¬ e.IsFrame)
      (hx : Accepts x (· = .ofEntries number altSettings (declared ++ [e]))) :
      Accepts x fun s => s = .ofEntries number altSettings (declared ++ [e]) ∧
        (e.IsFrame → ∃ f ∈ declared, f.IsFormat) :=
    fun s hs => ⟨hx s hs, fun h => absurd h hframe⟩
  rw [readStreamingEntry]
  cases hsubtype : e.subtype? with
  | none => exact .refuse e _
  | some subtype =>
    dsimp only
    split
    case isTrue h =>
      rw [h] at hsubtype
      have hframe : ¬ e.IsFrame := by
        rw [Entry.IsFrame, hsubtype]
        decide
      have hformat : ¬ e.IsFormat := by
        rw [Entry.IsFormat, Entry.frameSubtype?, hsubtype]
        decide
      exact hother hframe (accepts_inputHeader _ _ hsubtype hformat hframe)
    case isFalse hheader =>
    split
    case isTrue h =>
      have hformat : e.IsFormat := by
        rw [Entry.IsFormat, Entry.frameSubtype?, hsubtype, h]
        rfl
      refine hother hformat.not_isFrame (.needs fun hlong => accepts_formatEntry _ _ hformat ?_)
      simp [Entry.format, hsubtype, h, Entry.u8_eq, Entry.guid_eq]
    split
    case isTrue h =>
      have hformat : e.IsFormat := by
        rw [Entry.IsFormat, Entry.frameSubtype?, hsubtype, h]
        rfl
      refine hother hformat.not_isFrame (.needs fun hlong => accepts_formatEntry _ _ hformat ?_)
      simp +decide [Entry.format, hsubtype, h, Entry.u8_eq, Entry.guid_eq]
    split
    case isTrue h =>
      have hformat : e.IsFormat := by
        rw [Entry.IsFormat, Entry.frameSubtype?, hsubtype, h]
        rfl
      refine hother hformat.not_isFrame (.needs fun hlong => accepts_formatEntry _ _ hformat ?_)
      simp +decide [Entry.format, hsubtype, h, Entry.u8_eq]
    split
    case isTrue h =>
      have hframe : e.IsFrame := by simpa [Entry.IsFrame, hsubtype] using h
      exact fun s hs => (accepts_frameEntry _ _ hsubtype hframe s hs).imp_right fun hfound _ => hfound
    case isFalse h =>
      have hframe : ¬ e.IsFrame := by simpa [Entry.IsFrame, hsubtype] using h
      have hformat : ¬ e.IsFormat := by simp_all [Entry.IsFormat, Entry.frameSubtype?]
      have hheader : e.subtype? ≠ some StreamingSubtype.inputHeader := by simpa [hsubtype] using hheader
      exact hother hframe (.ok (StreamingInterface.ofEntries_concat_other _ _ hheader hformat hframe).symm)

end Streaming

end UsbVideo
