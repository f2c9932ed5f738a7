import UsbVideo.Proofs.Stream.Selection

/-!
# A request gets what it asks for

Resolving is sound: what comes out is in the catalog, says what the request says wherever that says
something, and can be carried out on its interface (`Honours`, `Feasible`). It is complete where names
mean one thing: if the frame that a request names can be had as the request wants it (`Suits`), it is
what the request is resolved to.

    resolved  ───────────────▶  honours the request, feasible
    suits, and no other does  ───────────────▶  resolved
-/

namespace UsbVideo

/-! ### Intervals -/

/-- A frame can be sent at some interval. -/
def FrameIntervals.Nonempty : FrameIntervals → Prop
  | discrete intervals => intervals ≠ []
  | continuous min max _ => min ≤ max

theorem FrameDescriptor.supports_usualInterval {d : FrameDescriptor} (h : d.intervals.Nonempty) :
    d.intervals.supports d.usualInterval = true := by
  unfold usualInterval
  split
  · next hdefault => exact hdefault
  · cases hintervals : d.intervals with
    | discrete intervals =>
      rw [hintervals] at h
      obtain ⟨first, rest, rfl⟩ := List.exists_cons_of_ne_nil h
      simp [FrameIntervals.supports]
    | continuous min max step =>
      rw [hintervals] at h
      have hmax : min ≤ max := h
      simp [FrameIntervals.supports, hmax]

/-! ### What comes out -/

/-- A resolved request says what was asked for, in every field that was. -/
structure ResolvedRequest.Honours (asked : StreamRequest) (r : ResolvedRequest) : Prop where
  interface : ∀ n ∈ asked.interface, r.interface = n
  format : asked.AllowsFormat r.format
  frame : asked.AllowsFrame r.frame
  frameInterval : ∀ i ∈ asked.frameInterval, r.frameInterval = i
  bulk : ∀ b ∈ asked.bulk, r.bulk = b
  altSetting : ∀ n ∈ asked.altSetting, r.altSetting = some n
  maxPacketSize : ∀ n ∈ asked.maxPacketSize, r.maxPacketSize = some n
  packetsPerRequest : ∀ n ∈ asked.packetsPerRequest, r.packetsPerRequest = n
  activeRequests : ∀ n ∈ asked.activeRequests, r.activeRequests = n
  unitId : ∀ n ∈ asked.unitId, r.unitId = some n
  terminalId : ∀ n ∈ asked.terminalId, r.terminalId = some n
  controlTerminal : ∀ bits ∈ asked.controlTerminal, r.controlTerminal = bits
  controlUnit : ∀ bits ∈ asked.controlUnit, r.controlUnit = bits
  stillCaptureMethod : ∀ m ∈ asked.stillCaptureMethod, r.stillCaptureMethod = m

/-- The frame can be sent at the interval, and the interface has the endpoints. The alternate setting is
one the host itself asked for, if any. -/
structure ResolvedRequest.Feasible (asked : StreamRequest) (hostAlt : Option UInt8)
    (s : StreamingInterface) (r : ResolvedRequest) : Prop where
  interval : asked.frameInterval.isSome ∨ r.frame.intervals.Nonempty →
    r.frame.intervals.supports r.frameInterval = true
  bulk : r.bulk = true → s.HasBulk
  alt : r.bulk = false → ∀ n ∈ hostAlt, s.HasAlt n

namespace StreamRequest

variable {asked request : StreamRequest} {preset : Option Preset} {catalog : Catalog}
  {settings : TransferSettings} {fromPreset : Bool} {c : Choice}

theorem effective_of_isEmpty_eq_false (h : request.isEmpty = false) :
    request.effective preset = request := by
  rw [effective, h]
  rfl

theorem eq_of_isEmpty (h : request.isEmpty = true) : request = {} := beq_iff_eq.mp h

theorem Chooses.honours (h : asked.Chooses catalog fromPreset c) :
    (asked.fill catalog settings fromPreset c).Honours asked where
  interface := (selectInterface_ok.mp h.interface).1
  format := (selectFormat_allowed h.format).2
  frame := (selectFrame_allowed h.frame).2
  frameInterval i hi := by
    obtain ⟨hinterval, -⟩ := selectInterval_ok.mp h.interval
    rw [hi] at hinterval
    exact hinterval.symm
  bulk b hb := by
    obtain ⟨hbulk, -⟩ := selectBulk_ok.mp h.bulk
    rw [overBulk, hb] at hbulk
    exact hbulk.symm
  altSetting _ hn := hn
  maxPacketSize _ hn := Option.or_eq_some_iff.mpr (.inl hn)
  packetsPerRequest _ hn := Option.getD_eq_iff.mpr (.inl hn)
  activeRequests _ hn := Option.getD_eq_iff.mpr (.inl hn)
  unitId _ hn := Option.or_eq_some_iff.mpr (.inl hn)
  terminalId _ hn := Option.or_eq_some_iff.mpr (.inl hn)
  controlTerminal _ hbits := Option.getD_eq_iff.mpr (.inl hbits)
  controlUnit _ hbits := Option.getD_eq_iff.mpr (.inl hbits)
  stillCaptureMethod _ hm := Option.getD_eq_iff.mpr (.inl hm)

/-- Without being asked for, bulk is chosen only where its endpoint is. -/
theorem hasBulk_of_selectBulk {s : StreamingInterface} (h : (asked.selectBulk s).result = .ok true) :
    s.HasBulk := by
  obtain ⟨hbulk, hasked, -⟩ := selectBulk_ok.mp h
  cases hb : asked.bulk with
  | some b =>
    rw [overBulk, hb] at hbulk
    exact hasked (hb.trans (congrArg some hbulk))
  | none =>
    rw [overBulk, hb] at hbulk
    exact StreamingInterface.isSome_bulkEndpoint?.mp (Bool.and_eq_true_iff.mp hbulk).2

theorem Chooses.feasible (h : (request.effective preset).Chooses catalog request.isEmpty c) :
    ((request.effective preset).fill catalog settings request.isEmpty c).Feasible
      (request.effective preset) request.altSetting c.interface where
  interval hsome := by
    obtain ⟨hinterval, hsupports⟩ := selectInterval_ok.mp h.interval
    show c.frame.intervals.supports c.frameInterval = true
    rw [← hinterval]
    cases hasked : (request.effective preset).frameInterval with
    | some i => exact hsupports i hasked
    | none =>
      -- Left open, it is the usual one.
      rw [hasked] at hsome
      exact FrameDescriptor.supports_usualInterval (hsome.resolve_left Bool.false_ne_true)
  bulk hbulk := by
    have hselected := h.bulk
    rw [show c.bulk = true from hbulk] at hselected
    exact hasBulk_of_selectBulk hselected
  alt hbulk n hn := by
    cases hempty : request.isEmpty with
    | true =>
      -- The setting is a preset's, then, and none of the host's own.
      rw [eq_of_isEmpty hempty] at hn
      cases hn
    | false =>
      have hcheck := checkAlt_ok.mp h.alt hbulk hempty
      rw [effective_of_isEmpty_eq_false hempty] at hcheck
      exact hcheck n hn

/-! ### What goes in -/

/-- What a request wants can be had: it means the interface, allows the format and the frame, and the
interval, the kind of transfer and the alternate setting that it sets are there. -/
structure Suits (r : StreamRequest) (catalog : Catalog) (s : StreamingInterface)
    (f : FormatDescriptor) (d : FrameDescriptor) : Prop where
  interface : s ∈ catalog.streaming
  meant : r.interface = some s.number ∨ r.interface = none ∧ catalog.streaming.head? = some s
  format : f ∈ s.formats
  allowsFormat : r.AllowsFormat f
  frame : d ∈ f.frames
  allowsFrame : r.AllowsFrame d
  interval : ∀ i ∈ r.frameInterval, d.intervals.supports i = true
  bulk : r.bulk = some true → s.HasBulk
  isochronous : r.bulk = some false → s.HasIsochronous
  alt : r.overBulk s = false → ∀ n ∈ r.altSetting, s.HasAlt n

/-- At most one of the entries goes by the name. -/
def NamesOne {α : Type} (names : α → Prop) (entries : List α) : Prop :=
  ∀ a ∈ entries, ∀ b ∈ entries, names a → names b → a = b

instance {α : Type} [DecidableEq α] (names : α → Prop) [DecidablePred names] (entries : List α) :
    Decidable (NamesOne names entries) :=
  inferInstanceAs (Decidable (∀ a ∈ entries, ∀ b ∈ entries, names a → names b → a = b))

/-- Whatever names the request uses, they stand for one interface of the catalog, one format of the
interface `s` and one frame of the format `f` at most. -/
structure Unambiguous (r : StreamRequest) (catalog : Catalog) (s : StreamingInterface)
    (f : FormatDescriptor) : Prop where
  interface : NamesOne (r.interface = some ·.number) catalog.streaming
  format : NamesOne r.NamesFormat s.formats
  frame : NamesOne r.NamesFrame f.frames

/-- The request has an index or an encoding for the format, and an index or a size for the frame. -/
structure NamesBoth (r : StreamRequest) : Prop where
  format : r.formatIndex.isSome ∨ r.encoding.isSome
  frame : r.frameIndex.isSome ∨ r.width.isSome ∧ r.height.isSome

theorem NamesBoth.isEmpty_eq_false (h : request.NamesBoth) : request.isEmpty = false := by
  rw [← Bool.not_eq_true]
  intro hempty
  have hformat := h.format
  rw [eq_of_isEmpty hempty] at hformat
  exact hformat.elim Bool.false_ne_true Bool.false_ne_true

section Suits

variable {s : StreamingInterface} {f : FormatDescriptor} {d : FrameDescriptor}

/-- The format suits the request, so it goes by the name that the request has for it. -/
theorem Suits.namesFormat (h : request.Suits catalog s f d) (hnamed : request.NamesBoth) :
    request.NamesFormat f := by
  cases hindex : request.formatIndex with
  | some i => exact .inl (by rw [hindex, h.allowsFormat.index i hindex])
  | none =>
    obtain ⟨e, hencoding⟩ := Option.isSome_iff_exists.mp
      (hnamed.format.resolve_left (by rw [hindex]; exact Bool.false_ne_true))
    exact .inr ⟨hindex, by rw [hencoding, h.allowsFormat.encoding e hencoding]⟩

theorem Suits.namesFrame (h : request.Suits catalog s f d) (hnamed : request.NamesBoth) :
    request.NamesFrame d := by
  cases hindex : request.frameIndex with
  | some i => exact .inl (by rw [hindex, h.allowsFrame.index i hindex])
  | none =>
    obtain ⟨hwidth, hheight⟩ :=
      hnamed.frame.resolve_left (by rw [hindex]; exact Bool.false_ne_true)
    obtain ⟨width, hwidth⟩ := Option.isSome_iff_exists.mp hwidth
    obtain ⟨height, hheight⟩ := Option.isSome_iff_exists.mp hheight
    refine .inr ⟨hindex, ?_, ?_⟩
    · rw [hwidth, h.allowsFrame.width width hwidth]
    · rw [hheight, h.allowsFrame.height height hheight]

/-- What suits a request is chosen, if the names in it leave no other choice. -/
theorem Suits.chooses (h : request.Suits catalog s f d) (hnamed : request.NamesBoth)
    (hone : request.Unambiguous catalog s f) :
    request.Chooses catalog false
      ⟨s, f, d, request.frameInterval.getD d.usualInterval, request.overBulk s⟩ where
  interface := by
    unfold selectInterface
    rcases h.meant with hnumber | ⟨hopen, hhead⟩
    · rw [hnumber]
      apply foundOr_ok.mpr
      apply find?_eq_some_of_only h.interface
      · exact beq_iff_eq.mpr rfl
      · intro t ht hsame
        have hmeant : request.interface = some t.number := by rw [hnumber, beq_iff_eq.mp hsame]
        exact hone.interface t ht s h.interface hmeant hnumber
    · rw [hopen]
      exact foundOr_ok.mpr hhead
  format := selectFormat_of_only hnamed.format h.format h.allowsFormat fun g hg hname =>
    hone.format g hg f h.format hname (h.namesFormat hnamed)
  frame := selectFrame_of_only hnamed.frame h.frame h.allowsFrame fun e he hname =>
    hone.frame e he d h.frame hname (h.namesFrame hnamed)
  interval := selectInterval_ok.mpr ⟨rfl, h.interval⟩
  bulk := selectBulk_ok.mpr ⟨rfl, h.bulk, h.isochronous⟩
  alt := checkAlt_ok.mpr fun hbulk _ => h.alt hbulk

end Suits

end StreamRequest

/-- A request that is not empty is resolved as it stands. -/
theorem resolve_of_chooses {request : StreamRequest} {preset : Option Preset} {catalog : Catalog}
    {settings : TransferSettings} {c : StreamRequest.Choice} (hempty : request.isEmpty = false)
    (h : request.Chooses catalog false c) :
    (resolve request preset catalog settings).result =
      .ok (request.fill catalog settings false c) := by
  have heffective : request.effective preset = request :=
    StreamRequest.effective_of_isEmpty_eq_false hempty
  apply resolve_ok_iff.mpr
  rw [heffective, hempty]
  exact ⟨c, h, rfl⟩

/-- What a request is resolved to is in the catalog, honours the request in every field that it (or the
preset in its place) sets, and is feasible. A request that names a format and a frame is resolved to
what suits it, as long as its names are unambiguous. -/
theorem resolve_sound_complete (request : StreamRequest) (preset : Option Preset)
    (catalog : Catalog) (settings : TransferSettings) :
    (∀ r, (resolve request preset catalog settings).result = .ok r →
      ∃ s, r.Picked catalog s ∧ r.Honours (request.effective preset) ∧
        r.Feasible (request.effective preset) request.altSetting s) ∧
    (request.NamesBoth → ∀ s f d, request.Suits catalog s f d → request.Unambiguous catalog s f →
      ∃ r, (resolve request preset catalog settings).result = .ok r ∧
        r.interface = s.number ∧ r.format = f ∧ r.frame = d ∧
        r.frameInterval = request.frameInterval.getD d.usualInterval ∧
        r.bulk = request.overBulk s) := by
  constructor
  · intro r hr
    obtain ⟨c, hc, rfl⟩ := resolve_ok_iff.mp hr
    exact ⟨c.interface, hc.picked, hc.honours, hc.feasible⟩
  · intro hnamed s f d hsuits hone
    have hchosen := hsuits.chooses hnamed hone
    exact ⟨_, resolve_of_chooses hnamed.isEmpty_eq_false hchosen, rfl, rfl, rfl, rfl, rfl⟩

/-- The larger picture, by its size, of a camera with two formats. -/
theorem resolve_sound_complete_size :
    let small : FrameDescriptor := ⟨1, 640, 480, 614400, 333333, .discrete [333333, 666666]⟩
    let large : FrameDescriptor := ⟨2, 800, 600, 960000, 333333, .continuous 333333 1000000 1⟩
    let mjpeg : FormatDescriptor := ⟨2, .mjpeg, 16, 1, [small, large]⟩
    let camera : StreamingInterface :=
      { number := 1
        formats := [⟨1, .yuy2, 16, 1, [small]⟩, mjpeg]
        altSettings := [⟨0, none⟩, ⟨1, some ⟨0x81, .isochronous, 1024, 1⟩⟩] }
    let catalog : Catalog := { uvcVersion := 0x0110, control := {}, streaming := [camera] }
    let request : StreamRequest :=
      { encoding := some .mjpeg, width := some 800, height := some 600
        frameInterval := some 500000, altSetting := some 1, bulk := some false }
    request.NamesBoth ∧ request.Suits catalog camera mjpeg large ∧
      request.Unambiguous catalog camera mjpeg ∧
      ∃ r, (resolve request none catalog {}).result = .ok r ∧ r.interface = 1 ∧
        r.frame = large ∧ r.Honours (request.effective none) := by
  intro small large mjpeg camera catalog request
  have hnamed : request.NamesBoth := ⟨.inr rfl, .inr ⟨rfl, rfl⟩⟩
  have hone : request.Unambiguous catalog camera mjpeg := ⟨by decide, by decide, by decide⟩
  have hsuits : request.Suits catalog camera mjpeg large := {
    interface := List.mem_singleton.mpr rfl
    meant := .inr ⟨rfl, rfl⟩
    format := by decide
    allowsFormat := ⟨nofun, by rintro _ ⟨⟩; rfl⟩
    frame := by decide
    allowsFrame := ⟨nofun, by rintro _ ⟨⟩; rfl, by rintro _ ⟨⟩; rfl⟩
    interval := by rintro _ ⟨⟩; decide
    bulk := nofun
    isochronous _ := by decide
    alt _ := by rintro _ ⟨⟩; decide }
  obtain ⟨hsound, hcomplete⟩ := resolve_sound_complete request none catalog {}
  obtain ⟨r, hr, hinterface, -, hframe, -⟩ := hcomplete hnamed camera mjpeg large hsuits hone
  obtain ⟨-, -, hhonours, -⟩ := hsound r hr
  exact ⟨hnamed, hsuits, hone, r, hr, hinterface, hframe, hhonours⟩

end UsbVideo
