import UsbVideo.Device.Loopback
import UsbVideo.Proofs.Device.RoundTrip
import UsbVideo.Proofs.Stream.Probe
import UsbVideo.Proofs.Stream.Selection

/-!
# A device stands by what it announces

A request that is resolved on the catalog of a device model is one that the device grants as it stands:

    model ──configuration──▶ block ──parseConfiguration──▶ catalog
      │                                                      │ resolve
    device ◀──────────────── probe and commit ────────────── selection

The indices of the selection lead back to the model's own format and frame
(`DeviceModel.lookup_of_mem`), and the interval used unless asked otherwise is the one the device falls
back on (`usualInterval_describeFrame`). So the answer differs from what was proposed in the sizes that
the device fills in, and in nothing else.
-/

namespace UsbVideo

/-! ### The model behind a description -/

/-- What is used unless asked otherwise is what the device falls back on. -/
theorem FormatSpec.usualInterval_describeFrame (f : FormatSpec) (index : UInt8) (frame : FrameSpec) :
    (f.describeFrame index frame).usualInterval = frame.defaultInterval := by
  rw [FrameDescriptor.usualInterval]
  split
  · rfl
  · next hunsupported =>
    dsimp only [describeFrame] at hunsupported ⊢
    rw [FrameSpec.defaultInterval] at hunsupported ⊢
    cases hintervals : frame.intervals with
    | continuous min max step => rfl
    | discrete list =>
      cases list with
      | nil => rfl
      | cons first list => rfl

theorem DeviceModel.lookup_of_mem {m : DeviceModel} (hfit : m.Fits) {f : FormatDescriptor}
    {d : FrameDescriptor} (hf : f ∈ m.describeFormats) (hd : d ∈ f.frames) :
    ∃ (format : FormatSpec) (frame : FrameSpec),
      m.lookup f.index d.index = some (format, frame) ∧ d = format.describeFrame d.index frame := by
  obtain ⟨i, hf⟩ := List.getElem?_of_mem hf
  obtain ⟨j, hd⟩ := List.getElem?_of_mem hd
  obtain ⟨format, frame, hformat, hframe, hlookup⟩ := m.lookup_describe hfit hf hd
  refine ⟨format, frame, hlookup, ?_⟩
  -- The description that was found there is that of the same format and frame.
  have hf : format.describe (.ofNat (i + 1)) format.describeFrames = f := by
    simpa [describeFormats, List.getElem?_zipIdx, hformat] using hf
  have hd : format.describeFrame (.ofNat (j + 1)) frame = d := by
    simpa [← hf, FormatSpec.describe, FormatSpec.describeFrames, List.getElem?_zipIdx, hframe] using hd
  rw [← hd]
  rfl

/-! ### The device's part -/

namespace Loopback

variable {d : Loopback} (hconnected : d.connected = true) (interface : UInt8)

include hconnected

theorem controlOut_probe (hrejects : d.rejectsProbe = false) {data : Bytes} {p : ProbeBlock}
    (hdata : ProbeBlock.decode data = some p) :
    d.controlOut (VideoControl.set VideoControl.probe interface) data =
      (.ok data.length, { d with probe := some p }) := by
  have haddressed : addresses (VideoControl.set VideoControl.probe interface)
      VideoControl.setRequestType VideoControl.setCurrent VideoControl.probe = true := by
    simp +decide [addresses, VideoControl.set]
  simp [controlOut, hconnected, haddressed, hrejects, hdata]

theorem controlOut_commit {data : Bytes} {p : ProbeBlock}
    (hdata : ProbeBlock.decode data = some p) :
    d.controlOut (VideoControl.set VideoControl.commit interface) data =
      (.ok data.length, { d with committed := some p }) := by
  have hother : addresses (VideoControl.set VideoControl.commit interface)
      VideoControl.setRequestType VideoControl.setCurrent VideoControl.probe = false := by
    simp +decide [addresses, VideoControl.set]
  have haddressed : addresses (VideoControl.set VideoControl.commit interface)
      VideoControl.setRequestType VideoControl.setCurrent VideoControl.commit = true := by
    simp +decide [addresses, VideoControl.set]
  simp [controlOut, hconnected, hother, haddressed, hdata]

theorem controlIn_probe {answer : ProbeBlock} (hanswer : d.probeAnswer = some answer)
    (length : Nat) :
    d.controlIn (VideoControl.get VideoControl.probe interface) length =
      .ok (answer.encode (min length (ProbeBlock.lengthFor d.model.uvcVersion))) := by
  have haddressed : addresses (VideoControl.get VideoControl.probe interface)
      VideoControl.getRequestType VideoControl.getCurrent VideoControl.probe = true := by
    simp +decide [addresses, VideoControl.get]
  simp [controlIn, hconnected, haddressed, hanswer, ProbeBlock.encode, List.take_take]

/-- A device that grants what is proposed is asked to commit to its own answer. Neither the version of
the host nor that of the device cuts anything off a short block. -/
theorem negotiate_granted (hrejects : d.rejectsProbe = false) {proposed answer : ProbeBlock}
    (hproposed : proposed.Short) (hanswer : answer.Short)
    (hgranted : { d with probe := some proposed }.probeAnswer = some answer)
    (hsame : answer.formatIndex = proposed.formatIndex ∧ answer.frameIndex = proposed.frameIndex)
    (uvcVersion : UInt16) (timeout : Nat) :
    negotiate interface uvcVersion proposed timeout d =
      (.ok answer, { d with probe := some proposed, committed := some answer }) := by
  have hlength := ProbeBlock.minLength_le_lengthFor uvcVersion
  have hdevice := ProbeBlock.minLength_le_lengthFor d.model.uvcVersion
  have hset := controlOut_probe hconnected interface hrejects (hproposed.decode_encode hlength)
  have hget := controlIn_probe (d := { d with probe := some proposed }) hconnected interface hgranted
    (ProbeBlock.lengthFor uvcVersion)
  have hcommit := controlOut_commit (d := { d with probe := some proposed }) hconnected interface
    (hanswer.decode_encode hlength)
  have hcheck : checkAnswer proposed (answer.encode (min (ProbeBlock.lengthFor uvcVersion)
      (ProbeBlock.lengthFor d.model.uvcVersion))) = .ok answer := by
    rw [checkAnswer, hanswer.decode_encode (Nat.le_min.mpr ⟨hlength, hdevice⟩)]
    exact if_pos hsame
  rw [negotiate]
  simp only [Transport.controlOut, Transport.controlIn, hset, hget, hcheck, hcommit]

end Loopback

/-! ### Resolved, and so granted -/

/-- **What is resolved from a device's own descriptors is granted.** Whatever the versions of host and
device, a device that is connected and was not told to do otherwise answers with the format, the frame
and the interval of the resolved request, with the frame size that its descriptors announce and with its
own payload size, and it commits to that answer. -/
theorem negotiate_resolved {m : DeviceModel} (hfit : m.Fits) {catalog : Catalog}
    (hparsed : parseConfiguration m.configuration = .ok catalog) {request : StreamRequest}
    {preset : Option Preset} {settings : TransferSettings} {r : ResolvedRequest}
    (hresolved : (resolve request preset catalog settings).result = .ok r)
    {d : Loopback} (hmodel : d.model = m) (hconnected : d.connected = true)
    (hrejects : d.rejectsProbe = false) (hanswered : d.answeredFrame = none)
    (interface : UInt8) (uvcVersion : UInt16) (timeout : Nat) :
    ∃ answer d', negotiate interface uvcVersion r.probe timeout d = (.ok answer, d') ∧
      answer.formatIndex = r.format.index ∧ answer.frameIndex = r.frame.index ∧
      answer.frameInterval = r.frameInterval ∧
      answer.maxVideoFrameSize = r.frame.maxFrameSize ∧
      answer.maxPayloadTransferSize = d.maxPayload ∧
      d'.committed = some answer := by
  have hcatalog : catalog = m.catalog := Except.ok.inj (hparsed.symm.trans (m.parseConfiguration_model hfit))
  subst hcatalog
  obtain ⟨s, hpicked⟩ := resolve_picked hresolved
  obtain rfl := List.mem_singleton.mp hpicked.interface
  obtain ⟨format, frame, hlookup, hframe⟩ := m.lookup_of_mem hfit hpicked.format hpicked.frame
  -- The device keeps the interval: its frame supports it, or it is what the device falls back on.
  have hkept : (if frame.intervals.supports r.probe.frameInterval then r.probe.frameInterval
      else frame.defaultInterval) = r.probe.frameInterval := by
    show (if frame.intervals.supports r.frameInterval then r.frameInterval
      else frame.defaultInterval) = r.frameInterval
    rcases hpicked.interval with hsupports | husual
    · rw [hframe] at hsupports
      exact if_pos hsupports
    · rw [hframe, FormatSpec.usualInterval_describeFrame] at husual
      rw [husual, ite_self]
  have hlookup : d.model.lookup r.probe.formatIndex r.probe.frameIndex = some (format, frame) := by
    rw [hmodel]
    exact hlookup
  let answer : ProbeBlock :=
    { r.probe with
      maxVideoFrameSize := format.maxFrameSize frame
      maxPayloadTransferSize := d.maxPayload }
  have hgranted : { d with probe := some r.probe }.probeAnswer = some answer := by
    simp [Loopback.probeAnswer, hlookup, hanswered, hkept, answer]
  refine ⟨answer, _, Loopback.negotiate_granted hconnected interface hrejects
    (ProbeBlock.short_of_early ..) (ProbeBlock.short_of_early ..) hgranted ⟨rfl, rfl⟩ uvcVersion
    timeout, rfl, rfl, rfl, ?_, rfl, rfl⟩
  rw [hframe]
  rfl

/-- A frame of a frame-based format with a range of intervals, proposed in the longest form of the block
to a device of another version. -/
theorem negotiate_resolved_frameBased :
    let m := DeviceModel.fourFormats.withBulk 512
    let d : Loopback := { name := "loopback", model := m }
    let request : StreamRequest := { formatIndex := some 2, bulk := some true }
    m.Fits ∧ parseConfiguration m.configuration = .ok m.catalog ∧
    d.model = m ∧ d.connected = true ∧ d.rejectsProbe = false ∧ d.answeredFrame = none ∧
    ∃ r, (resolve request none m.catalog {}).result = .ok r ∧
      ∃ answer d', negotiate r.interface 0x0150 r.probe 1000 d = (.ok answer, d') ∧
        answer.formatIndex = 2 ∧ answer.frameIndex = 1 ∧ answer.frameInterval = 333333 ∧
        answer.maxVideoFrameSize = 0 ∧ answer.maxPayloadTransferSize = 3072 ∧
        d'.committed = some answer := by
  intro m d request
  have hfit : m.Fits :=
    ⟨DeviceModel.fits_fourFormats.count, DeviceModel.fits_fourFormats.formats, by decide⟩
  have hparsed := m.parseConfiguration_model hfit
  have hpicked : (resolve request none m.catalog {}).result.toOption.map
      (fun r => (r.format.index, r.frame.index, r.frameInterval, r.frame.maxFrameSize)) =
      some (2, 1, 333333, 0) := by decide +kernel
  cases hresolved : (resolve request none m.catalog {}).result with
  | error e =>
    rw [hresolved] at hpicked
    cases hpicked
  | ok r =>
    rw [hresolved] at hpicked
    obtain ⟨hformat, hframe, hinterval, hsize⟩ : r.format.index = 2 ∧ r.frame.index = 1 ∧
        r.frameInterval = 333333 ∧ r.frame.maxFrameSize = 0 := by
      simpa using Option.some.inj hpicked
    have hgranted := negotiate_resolved (d := d) hfit hparsed hresolved rfl rfl rfl rfl r.interface
      0x0150 1000
    rw [hformat, hframe, hinterval, hsize] at hgranted
    exact ⟨hfit, hparsed, rfl, rfl, rfl, rfl, r, rfl, hgranted⟩

end UsbVideo
