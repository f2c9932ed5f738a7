import UsbVideo.Stream.Resolve

/-!
# What a request is resolved to

A selection finds what it picks in the catalog: an interface, a format of it, a frame of that and an
interval that suits the frame (`ResolvedRequest.Picked`). Whatever the request says or leaves open, a
request is resolved to nothing else (`resolve_picked`).

What is picked is what the request allows, and a request that names one entry of the catalog gets it:

    ok, and so allowed        selectInterface_ok  selectFormat_allowed   selectFrame_allowed
    allowed alone, and so ok                      selectFormat_of_only   selectFrame_of_only

A request is resolved by picking all of it, checking the alternate setting and filling in the rest
(`resolve_result`), so it is resolved if every selection finds something (`resolve_ok_iff`).
-/

namespace UsbVideo

namespace StreamRequest

variable {r : StreamRequest}

/-- What was found was there. -/
theorem foundOr_ok {α : Type} {reason : Unsupported} {found : Option α} {a : α} :
    (foundOr reason found).result = .ok a ↔ found = some a := by
  cases found with
  | none => exact ⟨nofun, nofun⟩
  | some b => exact ⟨fun h => by cases h; rfl, fun h => by cases h; rfl⟩

/-- The only element with a property is the first one with it. -/
theorem find?_eq_some_of_only {α : Type} {p : α → Bool} {a : α} {l : List α} (hmem : a ∈ l)
    (ha : p a = true) (honly : ∀ b ∈ l, p b = true → b = a) : l.find? p = some a := by
  cases hfind : l.find? p with
  | none => exact absurd ha (List.find?_eq_none.mp hfind a hmem)
  | some b => rw [honly b (List.mem_of_find?_eq_some hfind) (List.find?_some hfind)]

/-! ### Interfaces -/

/-- The interface is the one asked for, or the first one, and it is what its number stands for. -/
theorem selectInterface_ok {catalog : Catalog} {s : StreamingInterface} :
    (r.selectInterface catalog).result = .ok s ↔
      (∀ n ∈ r.interface, s.number = n) ∧
      (r.interface = none → catalog.streaming.head? = some s) ∧
      catalog.interface? s.number = some s := by
  unfold selectInterface
  cases hinterface : r.interface with
  | some n =>
    simp only [Option.mem_some_iff, forall_eq', foundOr_ok]
    constructor
    · intro hfound
      have hnumber := List.find?_some hfound
      rw [beq_iff_eq] at hnumber
      exact ⟨hnumber, nofun, hnumber ▸ hfound⟩
    · rintro ⟨hnumber, -, hfound⟩
      exact hnumber ▸ hfound
  | none =>
    simp only [foundOr_ok]
    constructor
    · intro hhead
      refine ⟨nofun, fun _ => hhead, ?_⟩
      obtain ⟨rest, hcatalog⟩ := List.head?_eq_some_iff.mp hhead
      rw [Catalog.interface?, hcatalog]
      simp
    · rintro ⟨-, hhead, -⟩
      exact hhead trivial

theorem mem_of_selectInterface {catalog : Catalog} {s : StreamingInterface}
    (h : (r.selectInterface catalog).result = .ok s) : s ∈ catalog.streaming :=
  List.mem_of_find?_eq_some (selectInterface_ok.mp h).2.2

/-! ### Formats -/

/-- The format has the index and the encoding asked for. -/
structure AllowsFormat (r : StreamRequest) (f : FormatDescriptor) : Prop where
  index : ∀ i ∈ r.formatIndex, f.index = i
  encoding : ∀ e ∈ r.encoding, f.encoding = e

/-- The format goes by the name that the request uses: an index if it gives one, else an encoding. -/
def NamesFormat (r : StreamRequest) (f : FormatDescriptor) : Prop :=
  r.formatIndex = some f.index ∨ r.formatIndex = none ∧ r.encoding = some f.encoding

instance (r : StreamRequest) : DecidablePred r.NamesFormat := fun _ =>
  inferInstanceAs (Decidable (_ ∨ _))

theorem selectFormat_allowed {formats : List FormatDescriptor} {format : FormatDescriptor}
    (h : (r.selectFormat formats).result = .ok format) : format ∈ formats ∧ r.AllowsFormat format := by
  unfold selectFormat at h
  match hindex : r.formatIndex, hencoding : r.encoding with
  | some i, some e =>
    rw [hindex, hencoding] at h
    obtain ⟨found, hfound, h⟩ := Noted.bind_ok.mp h
    have hfind := foundOr_ok.mp hfound
    dsimp only at h
    -- The index decides; the encoding can only refuse what it found.
    split at h
    · next hsame =>
      cases h
      refine ⟨List.mem_of_find?_eq_some hfind, ?_, ?_⟩
      · simpa [hindex] using List.find?_some hfind
      · simpa [hencoding] using hsame.symm
    · cases h
  | some i, none =>
    rw [hindex, hencoding] at h
    obtain ⟨found, hfound, h⟩ := Noted.bind_ok.mp h
    have hfind := foundOr_ok.mp hfound
    cases h
    refine ⟨List.mem_of_find?_eq_some hfind, ?_, by simp [hencoding]⟩
    simpa [hindex] using List.find?_some hfind
  | none, some e =>
    rw [hindex, hencoding] at h
    have hfind := foundOr_ok.mp h
    refine ⟨List.mem_of_find?_eq_some hfind, by simp [hindex], ?_⟩
    simpa [hencoding] using List.find?_some hfind
  | none, none =>
    rw [hindex, hencoding] at h
    obtain ⟨found, hfound, h⟩ := Noted.bind_ok.mp h
    obtain ⟨-, -, h⟩ := Noted.bind_ok.mp h
    cases h
    exact ⟨List.mem_of_head? (foundOr_ok.mp hfound), by simp [hindex], by simp [hencoding]⟩

theorem selectFormat_of_only {formats : List FormatDescriptor} {format : FormatDescriptor}
    (hnamed : r.formatIndex.isSome ∨ r.encoding.isSome) (hmem : format ∈ formats)
    (hallowed : r.AllowsFormat format) (honly : ∀ f ∈ formats, r.NamesFormat f → f = format) :
    (r.selectFormat formats).result = .ok format := by
  unfold selectFormat
  match hindex : r.formatIndex, hencoding : r.encoding with
  | some i, encoding =>
    have hfind : formats.find? (·.index == i) = some format := by
      apply find?_eq_some_of_only hmem
      · exact beq_iff_eq.mpr (hallowed.index i hindex)
      · exact fun f hf hi => honly f hf (.inl (by rw [hindex, beq_iff_eq.mp hi]))
    refine Noted.bind_ok.mpr ⟨format, foundOr_ok.mpr hfind, ?_⟩
    cases encoding with
    | none => rfl
    | some e =>
      dsimp only
      rw [if_pos (hallowed.encoding e hencoding).symm]
      rfl
  | none, some e =>
    apply foundOr_ok.mpr
    apply find?_eq_some_of_only hmem
    · exact beq_iff_eq.mpr (hallowed.encoding e hencoding)
    · exact fun f hf he => honly f hf (.inr ⟨hindex, by rw [hencoding, beq_iff_eq.mp he]⟩)
  | none, none => simp [hindex, hencoding] at hnamed

/-! ### Frames -/

/-- The frame has the index and the size asked for. -/
structure AllowsFrame (r : StreamRequest) (d : FrameDescriptor) : Prop where
  index : ∀ i ∈ r.frameIndex, d.index = i
  width : ∀ w ∈ r.width, d.width.toUInt32 = w
  height : ∀ h ∈ r.height, d.height.toUInt32 = h

/-- The frame goes by the name that the request uses: an index if it gives one, else a size. -/
def NamesFrame (r : StreamRequest) (d : FrameDescriptor) : Prop :=
  r.frameIndex = some d.index ∨
    r.frameIndex = none ∧ r.width = some d.width.toUInt32 ∧ r.height = some d.height.toUInt32

instance (r : StreamRequest) : DecidablePred r.NamesFrame := fun _ =>
  inferInstanceAs (Decidable (_ ∨ _))

/-- A frame of the index has the size asked for, or it is refused. -/
theorem selectFrameByIndex_ok {format : FormatDescriptor} {index : UInt8} {frame : FrameDescriptor} :
    (r.selectFrameByIndex format index).result = .ok frame ↔
      format.frame? index = some frame ∧ (∀ w ∈ r.width, frame.width.toUInt32 = w) ∧
        ∀ h ∈ r.height, frame.height.toUInt32 = h := by
  have hsize (d : FrameDescriptor) : (r.width.all (· == d.width.toUInt32) &&
      r.height.all (· == d.height.toUInt32)) = true ↔
        (∀ w ∈ r.width, d.width.toUInt32 = w) ∧ ∀ h ∈ r.height, d.height.toUInt32 = h := by
    simp only [Bool.and_eq_true, Option.all_eq_true, beq_iff_eq, @eq_comm UInt32 _ (UInt16.toUInt32 _),
      Option.mem_def]
  unfold selectFrameByIndex
  rw [Noted.bind_ok]
  constructor
  · rintro ⟨found, hfound, h⟩
    split at h
    · next hsame =>
      cases h
      exact ⟨foundOr_ok.mp hfound, (hsize _).mp hsame⟩
    · cases h
  · rintro ⟨hfound, hsame⟩
    refine ⟨frame, foundOr_ok.mpr hfound, ?_⟩
    rw [if_pos ((hsize frame).mpr hsame)]
    rfl

theorem selectFrame_allowed {format : FormatDescriptor} {frame : FrameDescriptor}
    (h : (r.selectFrame format).result = .ok frame) :
    frame ∈ format.frames ∧ r.AllowsFrame frame := by
  unfold selectFrame at h
  match hindex : r.frameIndex, hwidth : r.width, hheight : r.height with
  | some i, _, _ =>
    rw [hindex] at h
    obtain ⟨hfind, hsize⟩ := selectFrameByIndex_ok.mp h
    refine ⟨List.mem_of_find?_eq_some hfind, ?_, hsize.1, hsize.2⟩
    simpa [hindex] using List.find?_some hfind
  | none, some width, some height =>
    rw [hindex, hwidth, hheight] at h
    have hfind := foundOr_ok.mp h
    have hsize := List.find?_some hfind
    simp only [Bool.and_eq_true, beq_iff_eq] at hsize
    refine ⟨List.mem_of_find?_eq_some hfind, by simp [hindex], ?_, ?_⟩
    · simpa [hwidth] using hsize.1
    · simpa [hheight] using hsize.2
  | none, none, none =>
    rw [hindex, hwidth, hheight] at h
    obtain ⟨found, hfound, h⟩ := Noted.bind_ok.mp h
    obtain ⟨-, -, h⟩ := Noted.bind_ok.mp h
    cases h
    refine ⟨?_, by simp [hindex], by simp [hwidth], by simp [hheight]⟩
    -- The default frame may not be there, and then it is the first one.
    rcases Option.or_eq_some_iff.mp (foundOr_ok.mp hfound) with hdefault | ⟨-, hhead⟩
    · exact List.mem_of_find?_eq_some hdefault
    · exact List.mem_of_head? hhead
  | none, some _, none | none, none, some _ =>
    -- Half a size is refused.
    rw [hindex, hwidth, hheight] at h
    cases h

theorem selectFrame_of_only {format : FormatDescriptor} {frame : FrameDescriptor}
    (hnamed : r.frameIndex.isSome ∨ r.width.isSome ∧ r.height.isSome) (hmem : frame ∈ format.frames)
    (hallowed : r.AllowsFrame frame) (honly : ∀ d ∈ format.frames, r.NamesFrame d → d = frame) :
    (r.selectFrame format).result = .ok frame := by
  unfold selectFrame
  match hindex : r.frameIndex, hwidth : r.width, hheight : r.height with
  | some i, _, _ =>
    refine selectFrameByIndex_ok.mpr ⟨?_, hallowed.width, hallowed.height⟩
    apply find?_eq_some_of_only hmem
    · exact beq_iff_eq.mpr (hallowed.index i hindex)
    · exact fun d hd hi => honly d hd (.inl (by rw [hindex, beq_iff_eq.mp hi]))
  | none, some width, some height =>
    apply foundOr_ok.mpr
    apply find?_eq_some_of_only hmem
    · simp [hallowed.width width hwidth, hallowed.height height hheight]
    · intro d hd hsize
      simp only [Bool.and_eq_true, beq_iff_eq] at hsize
      exact honly d hd (.inr ⟨hindex, by rw [hwidth, hsize.1], by rw [hheight, hsize.2]⟩)
  | none, none, _ | none, some _, none => simp [hindex, hwidth, hheight] at hnamed

/-! ### Interval and transport -/

/-- The interval is the one asked for, which the frame supports, or the usual one. -/
theorem selectInterval_ok {format : FormatDescriptor} {frame : FrameDescriptor} {interval : UInt32} :
    (r.selectInterval format frame).result = .ok interval ↔
      r.frameInterval.getD frame.usualInterval = interval ∧
        ∀ i ∈ r.frameInterval, frame.intervals.supports i = true := by
  unfold selectInterval
  cases r.frameInterval with
  | some i =>
    dsimp only
    split
    · next hsupports => simp [hsupports]
    · next hunsupported => exact ⟨nofun, fun h => absurd (h.2 i rfl) hunsupported⟩
  | none =>
    constructor
    · intro h
      cases h
      exact ⟨rfl, nofun⟩
    · rintro ⟨rfl, -⟩
      rfl

end StreamRequest

/-! ### Transfers -/

theorem AltSetting.carries_iff {alt : AltSetting} {kind : EndpointKind} :
    alt.carries kind = true ↔ ∃ e, alt.endpoint = some e ∧ e.kind = kind := by
  unfold AltSetting.carries
  cases alt.endpoint <;> simp

namespace StreamingInterface

variable {s : StreamingInterface}

/-- One of the alternate settings with an isochronous endpoint has this number. -/
def HasAlt (s : StreamingInterface) (number : UInt8) : Prop :=
  ∃ alt ∈ s.altSettings, alt.carries .isochronous = true ∧ alt.number = number

instance (s : StreamingInterface) : DecidablePred s.HasAlt := fun number =>
  inferInstanceAs
    (Decidable (∃ alt ∈ s.altSettings, alt.carries .isochronous = true ∧ alt.number = number))

/-- There is an isochronous endpoint on some alternate setting. -/
def HasIsochronous (s : StreamingInterface) : Prop :=
  ∃ alt ∈ s.altSettings, alt.carries .isochronous = true

instance (s : StreamingInterface) : Decidable s.HasIsochronous :=
  inferInstanceAs (Decidable (∃ alt ∈ s.altSettings, alt.carries .isochronous = true))

/-- There is a bulk endpoint on alternate setting 0. -/
def HasBulk (s : StreamingInterface) : Prop :=
  ∃ alt, s.altSetting? 0 = some alt ∧ alt.carries .bulk = true

theorem mem_isochronousAlts {alt : AltSetting} :
    alt ∈ s.isochronousAlts ↔ alt ∈ s.altSettings ∧ alt.carries .isochronous = true := by
  rw [isochronousAlts, List.mem_mergeSort, List.mem_filter]

theorem hasAlt_iff {n : UInt8} : s.HasAlt n ↔ ∃ alt ∈ s.isochronousAlts, alt.number = n := by
  simp only [mem_isochronousAlts, and_assoc]
  rfl

theorem isEmpty_isochronousAlts : s.isochronousAlts.isEmpty = false ↔ s.HasIsochronous := by
  rw [List.isEmpty_eq_false_iff_exists_mem]
  simp only [mem_isochronousAlts]
  rfl

theorem bulkEndpoint?_eq_some {e : Endpoint} :
    s.bulkEndpoint? = some e ↔
      ∃ alt, s.altSetting? 0 = some alt ∧ alt.endpoint = some e ∧ e.kind = .bulk := by
  unfold bulkEndpoint?
  match s.altSetting? 0 with
  | none => simp
  | some ⟨n, none⟩ => simp
  | some ⟨n, some found⟩ =>
    simp only [Option.ite_none_right_eq_some, Option.some.injEq, exists_eq_left']
    constructor
    · rintro ⟨hkind, rfl⟩
      exact ⟨rfl, hkind⟩
    · rintro ⟨rfl, hkind⟩
      exact ⟨hkind, rfl⟩

theorem isSome_bulkEndpoint? : s.bulkEndpoint?.isSome = true ↔ s.HasBulk := by
  simp only [Option.isSome_iff_exists, bulkEndpoint?_eq_some, HasBulk, AltSetting.carries_iff]
  constructor
  · rintro ⟨e, alt, halt, hendpoint⟩
    exact ⟨alt, halt, e, hendpoint⟩
  · rintro ⟨alt, halt, e, hendpoint⟩
    exact ⟨e, alt, halt, hendpoint⟩

end StreamingInterface

namespace StreamRequest

variable {r : StreamRequest}

/-- Whether a stream of the interface runs over bulk: as asked, and else where nothing else is there. -/
def overBulk (r : StreamRequest) (s : StreamingInterface) : Bool :=
  r.bulk.getD (s.isochronousAlts.isEmpty && s.bulkEndpoint?.isSome)

/-- What is asked for is there. -/
theorem selectBulk_ok {s : StreamingInterface} {bulk : Bool} :
    (r.selectBulk s).result = .ok bulk ↔
      r.overBulk s = bulk ∧ (r.bulk = some true → s.HasBulk) ∧
        (r.bulk = some false → s.HasIsochronous) := by
  rw [← StreamingInterface.isSome_bulkEndpoint?, ← StreamingInterface.isEmpty_isochronousAlts]
  unfold selectBulk overBulk
  match r.bulk with
  | some true =>
    cases s.bulkEndpoint? with
    | none => exact ⟨nofun, fun h => absurd (h.2.1 rfl) Bool.false_ne_true⟩
    | some e => simp
  | some false =>
    cases s.isochronousAlts.isEmpty with
    | true => exact ⟨nofun, fun h => absurd (h.2.2 rfl).symm Bool.false_ne_true⟩
    | false => simp
  | none =>
    cases s.isochronousAlts.isEmpty && s.bulkEndpoint?.isSome with
    | false => simp
    | true =>
      constructor
      · intro h
        cases h
        exact ⟨rfl, nofun, nofun⟩
      · rintro ⟨rfl, -⟩
        rfl

/-- An alternate setting that has to be there is there. -/
theorem checkAlt_ok {s : StreamingInterface} {bulk fromPreset : Bool} :
    (r.checkAlt s bulk fromPreset).result = .ok () ↔
      (bulk = false → fromPreset = false → ∀ n ∈ r.altSetting, s.HasAlt n) := by
  have hany (n : UInt8) : s.isochronousAlts.any (·.number == n) = true ↔ s.HasAlt n := by
    simp only [List.any_eq_true, beq_iff_eq, StreamingInterface.hasAlt_iff]
  unfold checkAlt
  match r.altSetting with
  | none => simp
  | some n =>
    dsimp only
    split
    · next hgranted =>
      simp only [Bool.or_eq_true, hany] at hgranted
      refine ⟨fun _ hbulk hpreset => ?_, fun _ => rfl⟩
      rintro _ ⟨⟩
      simpa [hbulk, hpreset] using hgranted
    · next hrefused =>
      simp only [Bool.or_eq_true, hany, not_or, Bool.not_eq_true] at hrefused
      refine ⟨nofun, fun h => absurd (h hrefused.1.1 hrefused.1.2 n rfl) hrefused.2⟩

/-- A remark that may be made changes nothing. -/
theorem result_ite_remark {α : Type} (b : Bool) (text : String) (rest : Unit → Selection α) :
    (if b then remark text >>= rest else rest ()).result = (rest ()).result := by
  cases b <;> rfl

theorem orDefault_result (name : String) (default : Nat) (value : Option Nat) :
    (orDefault name default value).result = .ok (value.getD default) := by
  cases value <;> rfl

/-! ### Requests -/

/-- What is picked for a request. -/
structure Choice where
  interface : StreamingInterface
  format : FormatDescriptor
  frame : FrameDescriptor
  frameInterval : UInt32
  bulk : Bool

/-- Every selection comes out as this choice. -/
structure Chooses (r : StreamRequest) (catalog : Catalog) (fromPreset : Bool) (c : Choice) : Prop where
  interface : (r.selectInterface catalog).result = .ok c.interface
  format : (r.selectFormat c.interface.formats).result = .ok c.format
  frame : (r.selectFrame c.format).result = .ok c.frame
  interval : (r.selectInterval c.format c.frame).result = .ok c.frameInterval
  bulk : (r.selectBulk c.interface).result = .ok c.bulk
  alt : (r.checkAlt c.interface c.bulk fromPreset).result = .ok ()

/-- The request with what is picked for it, and the rest filled in from the device and the settings. -/
def fill (r : StreamRequest) (catalog : Catalog) (settings : TransferSettings) (fromPreset : Bool)
    (c : Choice) : ResolvedRequest :=
  let camera := catalog.control.camera?
  let processing := catalog.control.processingUnits.head?
  { interface := c.interface.number
    endpoint := c.interface.endpointAddress
    uvcVersion := catalog.uvcVersion
    format := c.format
    frame := c.frame
    frameInterval := c.frameInterval
    bulk := c.bulk
    altSetting := r.altSetting
    altIsHint := fromPreset
    maxPacketSize := r.maxPacketSize.or settings.maxPacketSize
    packetsPerRequest := r.packetsPerRequest.getD settings.packetsPerRequest
    activeRequests := r.activeRequests.getD settings.activeRequests
    unitId := r.unitId.or (processing.map (·.id))
    terminalId := r.terminalId.or (camera.map (·.id))
    controlTerminal := r.controlTerminal.getD ((camera.map (·.controls)).getD [])
    controlUnit := r.controlUnit.getD ((processing.map (·.controls)).getD [])
    stillCaptureMethod := r.stillCaptureMethod.getD c.interface.stillCaptureMethod }

/-- Everything that is chosen from the catalog. Whether the request is a preset's does not matter. -/
def pick (r : StreamRequest) (catalog : Catalog) : Selection Choice := do
  let interface ← r.selectInterface catalog
  let format ← r.selectFormat interface.formats
  let frame ← r.selectFrame format
  let frameInterval ← r.selectInterval format frame
  let bulk ← r.selectBulk interface
  return { interface, format, frame, frameInterval, bulk }

/-- Every selection comes out if something is picked and the alternate setting is granted. -/
theorem chooses_iff {catalog : Catalog} {fromPreset : Bool} {c : Choice} :
    r.Chooses catalog fromPreset c ↔ (r.pick catalog).result = .ok c ∧
      (r.checkAlt c.interface c.bulk fromPreset).result = .ok () := by
  constructor
  · intro h
    refine ⟨Noted.bind_ok.mpr ⟨_, h.interface, ?_⟩, h.alt⟩
    refine Noted.bind_ok.mpr ⟨_, h.format, ?_⟩
    refine Noted.bind_ok.mpr ⟨_, h.frame, ?_⟩
    refine Noted.bind_ok.mpr ⟨_, h.interval, ?_⟩
    exact Noted.bind_ok.mpr ⟨_, h.bulk, rfl⟩
  · rintro ⟨h, halt⟩
    obtain ⟨s, hinterface, h⟩ := Noted.bind_ok.mp h
    obtain ⟨format, hformat, h⟩ := Noted.bind_ok.mp h
    obtain ⟨frame, hframe, h⟩ := Noted.bind_ok.mp h
    obtain ⟨interval, hinterval, h⟩ := Noted.bind_ok.mp h
    obtain ⟨bulk, hbulk, h⟩ := Noted.bind_ok.mp h
    cases h
    exact ⟨hinterface, hformat, hframe, hinterval, hbulk, halt⟩

end StreamRequest

open StreamRequest

variable {request : StreamRequest} {preset : Option Preset} {catalog : Catalog}
  {settings : TransferSettings} {r : ResolvedRequest}

/-- A request is resolved by picking something for it and checking the alternate setting. -/
theorem resolve_result (request : StreamRequest) (preset : Option Preset) (catalog : Catalog)
    (settings : TransferSettings) :
    (resolve request preset catalog settings).result = (do
      let c ← (request.effective preset).pick catalog
      (request.effective preset).checkAlt c.interface c.bulk request.isEmpty
      return (request.effective preset).fill catalog settings request.isEmpty c :
        Selection ResolvedRequest).result := by
  unfold resolve pick
  dsimp only
  rw [result_ite_remark]
  generalize request.effective preset = asked
  simp only [Noted.result_bind, Noted.result_pure, orDefault_result, bind_assoc]
  rfl

/-- A request is resolved if every selection comes out. -/
theorem resolve_ok_iff :
    (resolve request preset catalog settings).result = .ok r ↔
      ∃ c, (request.effective preset).Chooses catalog request.isEmpty c ∧
        (request.effective preset).fill catalog settings request.isEmpty c = r := by
  rw [resolve_result, Noted.bind_ok]
  refine exists_congr fun c => ?_
  rw [Noted.bind_ok, chooses_iff, and_assoc]
  refine and_congr_right fun _ => ?_
  constructor
  · rintro ⟨⟨⟩, halt, h⟩
    cases h
    exact ⟨halt, rfl⟩
  · rintro ⟨halt, rfl⟩
    exact ⟨(), halt, rfl⟩

/-- The interface, the format and the frame of the catalog that a resolved request is for. Its interval
is one that the frame supports, or the one it is used with unless asked otherwise. -/
structure ResolvedRequest.Picked (catalog : Catalog) (s : StreamingInterface) (r : ResolvedRequest) :
    Prop where
  interface : s ∈ catalog.streaming
  number : r.interface = s.number
  format : r.format ∈ s.formats
  frame : r.frame ∈ r.format.frames
  interval : r.frame.intervals.supports r.frameInterval = true ∨
    r.frameInterval = r.frame.usualInterval

theorem StreamRequest.Chooses.picked {asked : StreamRequest} {fromPreset : Bool} {c : Choice}
    (h : asked.Chooses catalog fromPreset c) :
    (asked.fill catalog settings fromPreset c).Picked catalog c.interface where
  interface := mem_of_selectInterface h.interface
  number := rfl
  format := (selectFormat_allowed h.format).1
  frame := (selectFrame_allowed h.frame).1
  interval := by
    obtain ⟨hinterval, hsupported⟩ := selectInterval_ok.mp h.interval
    show c.frame.intervals.supports c.frameInterval = true ∨ c.frameInterval = c.frame.usualInterval
    rw [← hinterval]
    cases hasked : asked.frameInterval with
    | none => exact .inr rfl
    | some i => exact .inl (hsupported i hasked)

theorem resolve_picked (h : (resolve request preset catalog settings).result = .ok r) :
    ∃ s, r.Picked catalog s := by
  obtain ⟨c, hc, rfl⟩ := resolve_ok_iff.mp h
  exact ⟨c.interface, hc.picked⟩

end UsbVideo
