import UsbVideo.Proofs.Descriptor.Grammar

/-!
# Readers of entries

Every reader accepts an entry exactly under the rules for it, and refuses it at its own offset
otherwise: it `Settles` them. For an entry of a control interface the rule is a length. For an entry of
a streaming interface it is a length and the place among the formats and frames declared before, which
the interface being read `Mirrors`.
-/

namespace UsbVideo

/-! ### Settling a question -/

/-- The outcome is one with `R` if `P` holds, and a refusal at `offset` if it does not. -/
def Settles {α : Type} (x : Except DescriptorError α) (offset : Nat) (P : Prop) (R : α → Prop) :
    Prop :=
  (P ∧ ∃ a, x = .ok a ∧ R a) ∨ (¬ P ∧ ∃ flaw, x = .error ⟨offset, flaw⟩)

namespace Settles

variable {α β : Type} {x : Except DescriptorError α} {offset : Nat} {P Q : Prop} {R S : α → Prop}

theorem ok {a : α} (hP : P) (h : R a) : Settles (.ok a) offset P R :=
  .inl ⟨hP, a, rfl, h⟩

theorem refuse {e : Entry} (hP : ¬ P) (flaw : DescriptorFlaw) :
    Settles (e.refuse flaw) e.offset P R :=
  .inr ⟨hP, flaw, rfl⟩

theorem congr (h : Settles x offset P R) (hPQ : P ↔ Q) : Settles x offset Q R := by
  rwa [Settles, ← hPQ]

theorem imp (h : Settles x offset P R) (hRS : ∀ a, R a → S a) : Settles x offset P S := by
  rcases h with ⟨hP, a, hx, ha⟩ | hno
  · exact .inl ⟨hP, a, hx, hRS a ha⟩
  · exact .inr hno

/-- A length asked for is one that the condition includes. -/
theorem needs {e : Entry} {needed : Nat} {part : DescriptorPart}
    {go : needed ≤ e.size → Except DescriptorError α} (hP : P → needed ≤ e.size)
    (h : ∀ hlong, Settles (go hlong) e.offset P R) :
    Settles (e.needs needed part go) e.offset P R := by
  rw [Entry.needs]
  split
  · next hlong => exact h hlong
  · next hshort => exact refuse (mt hP hshort) _

theorem bind {f : α → Except DescriptorError β} {T : β → Prop} (h : Settles x offset P R)
    (hf : ∀ a, R a → Settles (f a) offset Q T) : Settles (x >>= f) offset (P ∧ Q) T := by
  rcases h with ⟨hP, a, rfl, ha⟩ | ⟨hP, flaw, rfl⟩
  · exact (hf a ha).congr (by simp [hP])
  · exact .inr ⟨fun hboth => hP hboth.1, flaw, rfl⟩

/-- A result made from an accepted one. -/
theorem map {f : α → β} {T : β → Prop} (h : Settles x offset P R) (hf : ∀ a, R a → T (f a)) :
    Settles (x >>= fun a => pure (f a)) offset P T :=
  (h.bind (Q := True) fun a ha => .ok trivial (hf a ha)).congr (by simp)

end Settles

/-! ### Bytes read and bytes counted -/

namespace Entry

theorem toNat_u8 (e : Entry) (i : Nat) (h : i < e.size) : (e.u8 i h).toNat = e.count i := by
  rw [count, List.getElem?_eq_getElem h]
  rfl

theorem toNat_u16 (e : Entry) (i : Nat) (h : i + 2 ≤ e.size) :
    (e.u16 i h).toNat = e.count i + 256 * e.count (i + 1) := by
  have hi : i < e.bytes.length := by rw [size] at h; omega
  have hi' : i + 1 < e.bytes.length := by rw [size] at h; omega
  have hlow := (e.bytes[i]).toNat_lt
  have hhigh := (e.bytes[i + 1]).toNat_lt
  have hslice : e.slice i 2 h = [e.bytes[i], e.bytes[i + 1]] := by
    rw [slice, List.drop_eq_getElem_cons hi, List.drop_eq_getElem_cons hi']
    rfl
  rw [u16, hslice, count, count, List.getElem?_eq_getElem hi, List.getElem?_eq_getElem hi']
  simp only [Bytes.value, Option.getD_some, UInt16.toNat_ofNat']
  omega

theorem subtype?_eq_none_iff (e : Entry) : e.subtype? = none ↔ e.size < 3 := by
  rw [subtype?, List.getElem?_eq_none_iff, size]
  omega

end Entry

/-! ### Entries of a control interface -/

section Control

variable (c : ControlInterface) (e : Entry)

theorem settles_inputTerminal (h : e.subtype? = some ControlSubtype.inputTerminal) :
    Settles (c.readInputTerminal e) e.offset (e.controlLength ≤ e.size) fun _ => True := by
  have hlength : e.controlLength =
      if e.count 4 + 256 * e.count 5 = cameraTerminalType.toNat then 15 + e.count 14 else 8 := by
    rw [Entry.controlLength, h]
    rfl
  rw [hlength]
  refine .needs (by split <;> omega) fun hfixed => ?_
  have hcamera : e.u16 4 = cameraTerminalType ↔
      e.count 4 + 256 * e.count 5 = cameraTerminalType.toNat := by
    rw [← UInt16.toNat_inj, e.toNat_u16]
  dsimp only
  split
  · next his =>
    rw [if_pos (hcamera.mp his)]
    refine .needs (by omega) fun hcamera => ?_
    have hcontrols := e.toNat_u8 14 (by omega)
    exact .needs (by omega) fun hall => .ok (by omega) trivial
  · next hnot =>
    rw [if_neg (mt hcamera.mpr hnot)]
    exact .ok hfixed trivial

theorem settles_outputTerminal (h : e.subtype? = some ControlSubtype.outputTerminal) :
    Settles (c.readOutputTerminal e) e.offset (e.controlLength ≤ e.size) fun _ => True := by
  have hlength : e.controlLength = 9 := by
    rw [Entry.controlLength, h]
    rfl
  exact .needs (by omega) fun hall => .ok (by omega) trivial

theorem settles_selectorUnit (h : e.subtype? = some ControlSubtype.selectorUnit) :
    Settles (c.readSelectorUnit e) e.offset (e.controlLength ≤ e.size) fun _ => True := by
  have hlength : e.controlLength = 5 + e.count 4 := by
    rw [Entry.controlLength, h]
    rfl
  refine .needs (by omega) fun hfixed => ?_
  have hpins := e.toNat_u8 4 (by omega)
  exact .needs (by omega) fun hall => .ok (by omega) trivial

theorem settles_processingUnit (h : e.subtype? = some ControlSubtype.processingUnit) :
    Settles (c.readProcessingUnit e) e.offset (e.controlLength ≤ e.size) fun _ => True := by
  have hlength : e.controlLength = 8 + e.count 7 := by
    rw [Entry.controlLength, h]
    rfl
  refine .needs (by omega) fun hfixed => ?_
  have hcontrols := e.toNat_u8 7 (by omega)
  exact .needs (by omega) fun hall => .ok (by omega) trivial

theorem settles_extensionUnit (h : e.subtype? = some ControlSubtype.extensionUnit) :
    Settles (c.readExtensionUnit e) e.offset (e.controlLength ≤ e.size) fun _ => True := by
  have hlength : e.controlLength = 23 + e.count 21 + e.count (22 + e.count 21) := by
    rw [Entry.controlLength, h]
    rfl
  refine .needs (by omega) fun hfixed => ?_
  have hpins := e.toNat_u8 21 (by omega)
  refine .needs (by omega) fun hsources => ?_
  have hcontrols := e.toNat_u8 (22 + (e.u8 21).toNat) (by omega)
  rw [congrArg (fun pins => e.count (22 + pins)) hpins] at hcontrols
  exact .needs (by omega) fun hall => .ok (by omega) trivial

/-- A class-specific entry of a control interface is accepted if it is long enough. -/
theorem settles_controlEntry (version : UInt16) :
    Settles (readControlEntry version c e) e.offset (e.controlLength ≤ e.size) fun _ => True := by
  rw [readControlEntry]
  match hsubtype : e.subtype? with
  | none =>
    have hshort := e.subtype?_eq_none_iff.mp hsubtype
    have hlength : e.controlLength = 3 := by
      rw [Entry.controlLength, hsubtype]
      rfl
    exact .refuse (by omega) _
  | some subtype =>
    have hthree : 3 ≤ e.size := by
      refine Nat.le_of_not_lt fun hshort => ?_
      rw [e.subtype?_eq_none_iff.mpr hshort] at hsubtype
      cases hsubtype
    dsimp only
    split
    case isTrue hheader =>
      have hlength : e.controlLength = 12 := by
        rw [Entry.controlLength, hsubtype, if_pos (by rw [hheader])]
      exact .needs (by omega) fun hall => .ok (by omega) trivial
    split
    case isTrue hinput =>
      exact (settles_inputTerminal c e (hinput ▸ hsubtype)).map fun _ _ => trivial
    split
    case isTrue houtput =>
      exact (settles_outputTerminal c e (houtput ▸ hsubtype)).map fun _ _ => trivial
    split
    case isTrue hselector =>
      exact (settles_selectorUnit c e (hselector ▸ hsubtype)).map fun _ _ => trivial
    split
    case isTrue hprocessing =>
      exact (settles_processingUnit c e (hprocessing ▸ hsubtype)).map fun _ _ => trivial
    split
    case isTrue hextension =>
      exact (settles_extensionUnit c e (hextension ▸ hsubtype)).map fun _ _ => trivial
    have hlength : e.controlLength = 3 := by simp_all [Entry.controlLength]
    exact .ok (by omega) trivial

end Control

/-! ### Entries of a streaming interface -/

/-- What an interface shows of the entries that declared its formats and frames, the latest first. -/
inductive Mirrors (s : StreamingInterface) (declared : List Entry) : Prop where
  | nothing (hformats : s.formats = []) (hlatest : latestFormat? declared = none)
      (hhead : ¬ LeftEmpty declared)
  | formats (front : List FormatDescriptor) (last : FormatDescriptor) (format : Entry)
      (hformats : s.formats = front ++ [last]) (hfull : ∀ f ∈ front, f.frames ≠ [])
      (hlatest : latestFormat? declared = some format)
      (hsubtype : format.frameSubtype? = some last.encoding.frameSubtype)
      (hempty : last.frames = [] ↔ LeftEmpty declared)

/-- Only its formats matter. -/
theorem Mirrors.of_formats {s s' : StreamingInterface} {declared : List Entry}
    (h : Mirrors s declared) (heq : s'.formats = s.formats) : Mirrors s' declared := by
  cases h with
  | nothing hformats hlatest hhead => exact .nothing (heq.trans hformats) hlatest hhead
  | formats front last format hformats hfull hlatest hsubtype hempty =>
    exact .formats front last format (heq.trans hformats) hfull hlatest hsubtype hempty

section Streaming

variable {s : StreamingInterface} {declared : List Entry} {e : Entry}

theorem settles_intervals (e : Entry) (count : Nat) :
    Settles (readIntervals e count) e.offset (26 + Entry.intervalsLength count ≤ e.size)
      fun _ => True := by
  rw [readIntervals, Entry.intervalsLength]
  split
  · exact .needs id fun hall => .ok hall trivial
  · exact .needs (by omega) fun hall => .ok (by omega) trivial

/-- A frame behind its format. -/
theorem Mirrors.addFrame {front : List FormatDescriptor} {last : FormatDescriptor} {format : Entry}
    (hformats : s.formats = front ++ [last]) (hfull : ∀ f ∈ front, f.frames ≠ [])
    (hlatest : latestFormat? declared = some format)
    (hsubtype : format.frameSubtype? = some last.encoding.frameSubtype) (frame : FrameDescriptor)
    (hformat : ¬ e.IsFormat) :
    Mirrors (s.addFrame last frame) (e :: declared) := by
  refine .formats front { last with frames := last.frames ++ [frame] } format ?_ hfull ?_ hsubtype ?_
  · rw [StreamingInterface.addFrame, hformats, List.dropLast_concat]
  · rw [latestFormat?, List.find?_cons_of_neg (by simpa using hformat)]
    exact hlatest
  · simp [LeftEmpty, hformat]

/-- A format behind a full one, or the first. -/
theorem settles_addFormat (h : Mirrors s declared) (format : FormatDescriptor)
    (hnew : format.frames = []) (hsubtype : e.frameSubtype? = some format.encoding.frameSubtype) :
    Settles (s.addFormat e format) e.offset (¬ LeftEmpty declared) fun s' =>
      Mirrors s' (e :: declared) ∧ s'.number = s.number := by
  have hformat : e.IsFormat := by simp [Entry.IsFormat, hsubtype]
  have hlatest : latestFormat? (e :: declared) = some e := by
    rw [latestFormat?, List.find?_cons_of_pos (by simpa using hformat)]
  have hempty : format.frames = [] ↔ LeftEmpty (e :: declared) := by simp [LeftEmpty, hformat, hnew]
  rw [StreamingInterface.addFormat]
  cases h with
  | nothing hformats _ hhead =>
    rw [hformats]
    exact .ok hhead ⟨.formats [] format e rfl (by simp) hlatest hsubtype hempty, rfl⟩
  | formats front last _ hformats hfull _ _ hleft =>
    rw [hformats, List.getLast?_concat]
    dsimp only
    split
    · next hlast => exact .refuse (fun hno => hno (hleft.mp (List.isEmpty_iff.mp hlast))) _
    · next hlast =>
      refine .ok (fun hno => hlast (List.isEmpty_iff.mpr (hleft.mpr hno)))
        ⟨.formats (front ++ [last]) format e rfl ?_ hlatest hsubtype hempty, rfl⟩
      intro f hf
      rcases List.mem_append.mp hf with hf | hf
      · exact hfull f hf
      · rw [List.mem_singleton.mp hf]
        exact fun hno => hlast (List.isEmpty_iff.mpr hno)

/-- The subtype of a format tells which frames belong to it. -/
theorem Entry.IsFormat.suits_iff (h : e.IsFormat) (hframe : ¬ e.IsFrame) :
    Suits declared e ↔ ¬ LeftEmpty declared :=
  ⟨fun hsuits => hsuits.format h, fun hfull => ⟨fun hno => absurd hno hframe, fun _ => hfull⟩⟩

theorem Entry.IsFrame.suits_iff (h : e.IsFrame) (hformat : ¬ e.IsFormat) :
    Suits declared e ↔
      ∃ format, latestFormat? declared = some format ∧ e.subtype? = format.frameSubtype? :=
  ⟨fun hsuits => hsuits.frame h, fun hlatest => ⟨fun _ => hlatest, fun hno => absurd hno hformat⟩⟩

theorem settles_frame (e : Entry) (frameBased : Bool) :
    Settles (readFrame e frameBased) e.offset
      (26 + Entry.intervalsLength (e.count (if frameBased then 21 else 25)) ≤ e.size)
      fun _ => True := by
  rw [readFrame]
  refine .needs (by omega) fun hfixed => ?_
  have hcount : (if frameBased then e.u8 21 else e.u8 25).toNat =
      e.count (if frameBased then 21 else 25) := by
    cases frameBased
    · exact e.toNat_u8 25 _
    · exact e.toNat_u8 21 _
  dsimp only
  rw [hcount]
  exact (settles_intervals e _).map fun _ _ => trivial

/-- The frame subtypes are those of no format. -/
theorem Entry.IsFrame.not_isFormat (h : e.IsFrame) : ¬ e.IsFormat := by
  rcases h with h | h | h <;> rw [IsFormat, frameSubtype?, h] <;> decide

theorem Entry.IsFormat.not_isFrame (h : e.IsFormat) : ¬ e.IsFrame :=
  fun hframe => hframe.not_isFormat h

theorem Entry.IsFrame.streamingLength_eq (h : e.IsFrame) :
    e.streamingLength = 26 + Entry.intervalsLength
      (e.count (if e.subtype? = some StreamingSubtype.frameBasedFrame then 21 else 25)) := by
  have hframe := h
  rcases h with h | h | h <;> simp +decide only [streamingLength, h, hframe, if_true, if_false]

theorem settles_frameEntry (h : Mirrors s declared) {subtype : UInt8}
    (hsubtype : e.subtype? = some subtype) (hframe : e.IsFrame) :
    Settles (s.readFrameEntry e subtype) e.offset
      (e.streamingLength ≤ e.size ∧ Suits declared e) fun s' =>
        Mirrors s' (e :: declared) ∧ s'.number = s.number := by
  rw [hframe.suits_iff hframe.not_isFormat, StreamingInterface.readFrameEntry]
  cases h with
  | nothing hformats hnone _ =>
    rw [hformats]
    exact .refuse (by simp [hnone]) _
  | formats front last format hformats hfull hlatest hfits _ =>
    have hright : (∃ format, latestFormat? declared = some format ∧
        e.subtype? = format.frameSubtype?) ↔ subtype = last.encoding.frameSubtype := by
      simp [hlatest, hsubtype, hfits]
    rw [hright, hformats, List.getLast?_concat, hframe.streamingLength_eq, hsubtype]
    dsimp only
    split
    · next heq =>
      refine Settles.congr (.map (settles_frame e _) fun frame _ => ?_) ?_
      · exact ⟨.addFrame hformats hfull hlatest hfits frame hframe.not_isFormat, rfl⟩
      · simp [heq]
    · next hne => exact .refuse (fun hboth => hne hboth.2) _

/-- Whatever an uncompressed format's GUID stands for, its frames are uncompressed frames. -/
theorem Encoding.frameSubtype_ofGuid (guid : Guid) :
    (Encoding.ofGuid guid).frameSubtype = StreamingSubtype.uncompressedFrame := by
  rw [ofGuid]
  split
  · rfl
  split
  · rfl
  split
  · rfl
  split <;> rfl

theorem settles_formatEntry (h : Mirrors s declared) {needed : Nat} {part : DescriptorPart}
    {format : needed ≤ e.size → FormatDescriptor} (hlength : e.streamingLength = needed)
    (hnew : ∀ hlong, (format hlong).frames = [])
    (hsubtype : ∀ hlong, e.frameSubtype? = some (format hlong).encoding.frameSubtype)
    (hformat : e.IsFormat) :
    Settles (e.needs needed part fun hlong => s.addFormat e (format hlong)) e.offset
      (e.streamingLength ≤ e.size ∧ Suits declared e) fun s' =>
        Mirrors s' (e :: declared) ∧ s'.number = s.number := by
  rw [hlength, hformat.suits_iff hformat.not_isFrame]
  refine .needs And.left fun hlong => ?_
  exact (settles_addFormat h _ (hnew hlong) (hsubtype hlong)).congr (by simp [hlong])

/-- A class-specific entry of a streaming interface is accepted if it is long enough and suits the
formats before it. -/
theorem settles_streamingEntry (h : Mirrors s declared) (e : Entry) :
    Settles (readStreamingEntry s e) e.offset (e.streamingLength ≤ e.size ∧ Suits declared e)
      fun s' => Mirrors s' (if e.IsFormat ∨ e.IsFrame then e :: declared else declared) ∧
        s'.number = s.number := by
  rw [readStreamingEntry]
  match hsubtype : e.subtype? with
  | none =>
    have hshort := e.subtype?_eq_none_iff.mp hsubtype
    have hlength : e.streamingLength = 3 := by
      simp [Entry.streamingLength, Entry.IsFrame, hsubtype]
    exact .refuse (by omega) _
  | some subtype =>
    have hthree : 3 ≤ e.size := by
      refine Nat.le_of_not_lt fun hshort => ?_
      rw [e.subtype?_eq_none_iff.mpr hshort] at hsubtype
      cases hsubtype
    dsimp only
    split
    case isTrue hheader =>
      have hformat : ¬ e.IsFormat := by
        rw [Entry.IsFormat, Entry.frameSubtype?, hsubtype, hheader]
        decide
      have hframe : ¬ e.IsFrame := by
        rw [Entry.IsFrame, hsubtype, hheader]
        decide
      have hlength : e.streamingLength = 13 := by
        rw [Entry.streamingLength, hsubtype, if_pos (by rw [hheader])]
      rw [if_neg (by simp [hformat, hframe]), hlength]
      refine .needs And.left fun hlong => .ok ⟨hlong, ?_⟩ ⟨?_, rfl⟩
      · exact ⟨fun hno => absurd hno hframe, fun hno => absurd hno hformat⟩
      · exact h.of_formats rfl
    split
    case isTrue huncompressed =>
      have hfits : e.frameSubtype? = some StreamingSubtype.uncompressedFrame := by
        rw [Entry.frameSubtype?, hsubtype, if_pos (by rw [huncompressed])]
      have hlength : e.streamingLength = 27 := by
        rw [Entry.streamingLength, hsubtype, huncompressed]
        rfl
      have hformat : e.IsFormat := by simp [Entry.IsFormat, hfits]
      rw [if_pos (.inl hformat)]
      refine settles_formatEntry h hlength (fun _ => rfl) (fun hlong => ?_) hformat
      rw [hfits, Encoding.frameSubtype_ofGuid]
    split
    case isTrue hframeBased =>
      have hfits : e.frameSubtype? = some StreamingSubtype.frameBasedFrame := by
        rw [Entry.frameSubtype?, hsubtype, hframeBased]
        rfl
      have hlength : e.streamingLength = 28 := by
        rw [Entry.streamingLength, hsubtype, hframeBased]
        rfl
      have hformat : e.IsFormat := by simp [Entry.IsFormat, hfits]
      rw [if_pos (.inl hformat)]
      exact settles_formatEntry h hlength (fun _ => rfl) (fun _ => hfits) hformat
    split
    case isTrue hmjpeg =>
      have hfits : e.frameSubtype? = some StreamingSubtype.mjpegFrame := by
        rw [Entry.frameSubtype?, hsubtype, hmjpeg]
        rfl
      have hlength : e.streamingLength = 11 := by
        rw [Entry.streamingLength, hsubtype, hmjpeg]
        rfl
      have hformat : e.IsFormat := by simp [Entry.IsFormat, hfits]
      rw [if_pos (.inl hformat)]
      exact settles_formatEntry h hlength (fun _ => rfl) (fun _ => hfits) hformat
    split
    case isTrue hframe =>
      have hframe : e.IsFrame := by simpa [Entry.IsFrame, hsubtype] using hframe
      rw [if_pos (.inr hframe)]
      exact settles_frameEntry h hsubtype hframe
    case isFalse hframe =>
      have hframe : ¬ e.IsFrame := by simpa [Entry.IsFrame, hsubtype] using hframe
      have hformat : ¬ e.IsFormat := by simp_all [Entry.IsFormat, Entry.frameSubtype?]
      have hlength : e.streamingLength = 3 := by simp_all [Entry.streamingLength]
      rw [if_neg (by simp [hformat, hframe]), hlength]
      exact .ok ⟨hthree, fun hno => absurd hno hframe, fun hno => absurd hno hformat⟩ ⟨h, rfl⟩

end Streaming

end UsbVideo
