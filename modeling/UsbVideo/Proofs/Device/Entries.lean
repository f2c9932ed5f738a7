import UsbVideo.Proofs.Descriptor.Conformance
import UsbVideo.Proofs.Device.Described

/-!
# Entries read back

A block is a row of entries. Bytes take one survey to another (`Survey.Takes`) if they do so at any
offset and whatever follows them, so entries in a row compose (`Takes.trans`, `Takes.each`), and it is
enough to read each entry once. Here this is done for the entries of the control interface, which are
nearly constant, and for a frame, whose interval list has any length.
-/

namespace UsbVideo

/-! ### Bytes that take a survey to another -/

/-- These bytes are whole entries, and reading them leads from `v` to `v'`. -/
def Survey.Takes (v : Survey) (bytes : Bytes) (v' : Survey) : Prop :=
  ∀ offset rest total, v.finish total (tile offset (bytes ++ rest)) =
    v'.finish total (tile (offset + bytes.length) rest)

namespace Survey.Takes

theorem refl (v : Survey) : v.Takes [] v := fun _ _ _ => rfl

theorem trans {v v' v'' : Survey} {bytes bytes' : Bytes} (h : v.Takes bytes v')
    (h' : v'.Takes bytes' v'') : v.Takes (bytes ++ bytes') v'' := by
  intro offset rest total
  rw [List.append_assoc, h, h', List.length_append, Nat.add_assoc]

/-- One entry, read at any offset. -/
theorem entry {v v' : Survey} {bytes : Bytes} (h : Measured bytes)
    (hread : ∀ offset, v.read ⟨offset, bytes, h.two_le⟩ = .ok v') : v.Takes bytes v' := by
  intro offset rest total
  rw [tile_append h, Survey.finish_cons, hread]
  rfl

/-- One block for each element of a list, each of which makes a list of results one longer. -/
theorem each {α β : Type} {xs : List α} {block : α → Bytes} {result : α → β}
    (state : List β → Survey)
    (h : ∀ front a, front ++ [a] <+: xs →
      (state (front.map result)).Takes (block a) (state (front.map result ++ [result a]))) :
    (state []).Takes (xs.flatMap block) (state (xs.map result)) := by
  have hfrom (front back : List α) (hxs : front ++ back = xs) :
      (state (front.map result)).Takes (back.flatMap block) (state (xs.map result)) := by
    induction back generalizing front with
    | nil =>
      rw [← hxs, List.append_nil]
      exact refl _
    | cons a back ih =>
      rw [List.append_cons] at hxs
      have hrest := ih (front ++ [a]) hxs
      rw [List.map_append] at hrest
      exact (h front a ⟨back, hxs⟩).trans hrest
  exact hfrom [] xs rfl

end Survey.Takes

/-! ### The control interface -/

namespace DeviceModel

variable (m : DeviceModel)

/-- Within the control interface. -/
def controlSurvey (control : ControlInterface) : Survey where
  context := .control
  control := some control
  uvcVersion := m.uvcVersion

theorem takes_controlHeader :
    (Survey.enterControl {} controlInterfaceNumber).Takes m.controlHeader
      (m.controlSurvey { clockFrequency := 48000000 }) := by
  refine .entry ⟨Nat.le_of_ble_eq_true rfl, rfl⟩ fun offset => ?_
  have hread : (Survey.enterControl {} controlInterfaceNumber).read
      ⟨offset, m.controlHeader, Nat.le_of_ble_eq_true rfl⟩ =
      .ok { m.controlSurvey { clockFrequency := 48000000 } with
        uvcVersion := .ofNat (Bytes.value (Bytes.word16 m.uvcVersion)) } := rfl
  rw [hread, Bytes.ofNat_value_word16]
  rfl

theorem takes_controlUnits :
    (m.controlSurvey { clockFrequency := 48000000 }).Takes controlUnits
      (m.controlSurvey topology) := by
  let camera : ControlInterface :=
    { clockFrequency := 48000000, inputTerminals := topology.inputTerminals }
  let processing : ControlInterface := { camera with processingUnits := topology.processingUnits }
  let extension : ControlInterface := { processing with extensionUnits := topology.extensionUnits }
  have hcamera : (m.controlSurvey { clockFrequency := 48000000 }).Takes (controlUnits.take 18)
      (m.controlSurvey camera) := .entry ⟨by decide, by decide⟩ fun _ => rfl
  have hprocessing : (m.controlSurvey camera).Takes ((controlUnits.drop 18).take 11)
      (m.controlSurvey processing) := .entry ⟨by decide, by decide⟩ fun _ => rfl
  have hextension : (m.controlSurvey processing).Takes ((controlUnits.drop 29).take 26)
      (m.controlSurvey extension) := .entry ⟨by decide, by decide⟩ fun _ => rfl
  have houtput : (m.controlSurvey extension).Takes (controlUnits.drop 55)
      (m.controlSurvey topology) := .entry ⟨by decide, by decide⟩ fun _ => rfl
  exact hcamera.trans (hprocessing.trans (hextension.trans houtput))

theorem takes_controlBlock :
    Survey.Takes {} m.controlBlock (m.controlSurvey topology) := by
  have hinterface : Survey.Takes {} (interfaceEntry controlInterfaceNumber 0 1 VideoClass.control)
      (Survey.enterControl {} controlInterfaceNumber) := .entry ⟨by decide, by decide⟩ fun _ => rfl
  have hendpoint : (m.controlSurvey topology).Takes (endpointEntry 0x83 0x03 16 8)
      (m.controlSurvey topology) := .entry ⟨by decide, by decide⟩ fun _ => rfl
  have hstatus : (m.controlSurvey topology).Takes [5, DescriptorType.classEndpoint, 0x03, 16, 0]
      (m.controlSurvey topology) := .entry ⟨by decide, by decide⟩ fun _ => rfl
  exact (((hinterface.trans m.takes_controlHeader).trans m.takes_controlUnits).trans hendpoint).trans
    hstatus

end DeviceModel

/-! ### Frames -/

theorem length_flatMap_word32 (list : List UInt32) :
    (list.flatMap Bytes.word32).length = 4 * list.length := by
  induction list with
  | nil => rfl
  | cons n list ih =>
    rw [List.flatMap_cons, List.length_append, ih, Bytes.length_word32, List.length_cons]
    omega

/-- The words of a list stand four bytes apart. -/
theorem take_drop_flatMap_word32 {list : List UInt32} {i : Nat} {n : UInt32}
    (h : list[i]? = some n) :
    ((list.flatMap Bytes.word32).drop (4 * i)).take 4 = Bytes.word32 n := by
  induction list generalizing i with
  | nil => simp at h
  | cons first list ih =>
    rw [List.flatMap_cons]
    cases i with
    | zero =>
      obtain rfl : first = n := by simpa using h
      exact List.take_left' (Bytes.length_word32 _)
    | succ i =>
      rw [List.drop_append, Bytes.length_word32,
        List.drop_of_length_le (by rw [Bytes.length_word32]; omega), List.nil_append,
        show 4 * (i + 1) - 4 = 4 * i by omega]
      exact ih (by simpa using h)

/-- A word of a list that stands at the end of an entry. -/
theorem u32_flatMap {e : Entry} {front : Bytes} {list : List UInt32}
    (hbytes : e.bytes = front ++ list.flatMap Bytes.word32) {i : Nat} {n : UInt32}
    (hi : list[i]? = some n) (h : front.length + i * 4 + 4 ≤ e.size) :
    e.u32 (front.length + i * 4) h = n := by
  rw [Entry.u32, Entry.slice, hbytes, List.drop_append,
    List.drop_of_length_le (by omega), List.nil_append,
    show front.length + i * 4 - front.length = 4 * i by omega, take_drop_flatMap_word32 hi,
    Bytes.ofNat_value_word32]

/-- A frame entry is read as a frame if every field of it is. -/
theorem readFrame_of_fields {e : Entry} {frameBased : Bool} {frame : FrameDescriptor}
    (h : 25 < e.size) (hindex : e.u8 3 = frame.index) (hwidth : e.u16 5 = frame.width)
    (hheight : e.u16 7 = frame.height)
    (hmaxSize : (if frameBased then 0 else e.u32 17) = frame.maxFrameSize)
    (hinterval : (if frameBased then e.u32 17 else e.u32 21) = frame.defaultInterval) {count : UInt8}
    (hcount : (if frameBased then e.u8 21 else e.u8 25) = count)
    (hintervals : readIntervals e count.toNat = .ok frame.intervals) :
    readFrame e frameBased = .ok frame := by
  rw [readFrame, Entry.needs, dif_pos (Nat.succ_le_of_lt h)]
  dsimp only
  rw [hcount, hintervals, hindex, hwidth, hheight, hmaxSize, hinterval]
  rfl

/-- The intervals of a frame behind 26 bytes are read back. -/
theorem readIntervals_fields {e : Entry} {front : Bytes} {intervals : FrameIntervals}
    (hbytes : e.bytes = front ++ (DeviceModel.intervalFields intervals).2.flatMap Bytes.word32)
    (hfront : front.length = 26) (hfit : intervals.Fit) :
    readIntervals e (DeviceModel.intervalFields intervals).1.toNat = .ok intervals := by
  have hsize : e.size = 26 + 4 * (DeviceModel.intervalFields intervals).2.length := by
    rw [Entry.size, hbytes, List.length_append, length_flatMap_word32, hfront]
  have hword {i : Nat} {n : UInt32} (hi : (DeviceModel.intervalFields intervals).2[i]? = some n)
      (h : 26 + i * 4 + 4 ≤ e.size) : e.u32 (26 + i * 4) h = n := by
    have := u32_flatMap hbytes hi (by omega)
    simpa only [hfront] using this
  cases intervals with
  | continuous min max step =>
    have hzero : (DeviceModel.intervalFields (.continuous min max step)).1.toNat = 0 := rfl
    have hlong : 26 + 12 ≤ e.size := Nat.le_of_eq hsize.symm
    rw [readIntervals, hzero, if_pos rfl, Entry.needs, dif_pos hlong]
    rw [hword (i := 0) rfl, hword (i := 1) rfl, hword (i := 2) rfl]
  | discrete list =>
    obtain ⟨hne, hcount⟩ := hfit
    have hnumber : (DeviceModel.intervalFields (.discrete list)).1.toNat = list.length := by
      rw [DeviceModel.intervalFields, UInt8.toNat_ofNat']
      omega
    have hpos : list.length ≠ 0 := by simpa using hne
    have hlong : 26 + list.length * 4 ≤ e.size := by
      rw [hsize, Nat.mul_comm]
      exact Nat.le_refl _
    rw [readIntervals, hnumber, if_neg hpos, Entry.needs, dif_pos hlong]
    congr 2
    refine List.ext_getElem (by simp) fun i hi hi' => ?_
    have hword := hword (List.getElem?_eq_getElem hi')
      (by rw [hsize]; show _ ≤ 26 + 4 * list.length; omega)
    simpa using hword

namespace DeviceModel

/-- A frame entry in front of its intervals. -/
def frameHead (format : FormatSpec) (index : UInt8) (frame : FrameSpec) : Bytes :=
  (frameEntry format index frame).take 26

theorem frameEntry_eq (format : FormatSpec) (index : UInt8) (frame : FrameSpec) :
    (frameHead format index frame).length = 26 ∧ frameEntry format index frame =
      frameHead format index frame ++ (intervalFields frame.intervals).2.flatMap Bytes.word32 := by
  obtain ⟨encoding, frames⟩ := format
  cases encoding <;> exact ⟨rfl, rfl⟩

theorem measured_frameEntry (format : FormatSpec) (index : UInt8) {frame : FrameSpec}
    (hfit : frame.intervals.Fit) : Measured (frameEntry format index frame) := by
  obtain ⟨hfront, hbytes⟩ := frameEntry_eq format index frame
  have hlength : (frameEntry format index frame).length =
      26 + (intervalFields frame.intervals).2.length * 4 := by
    rw [hbytes, List.length_append, hfront, length_flatMap_word32, Nat.mul_comm]
  have hcount : (intervalFields frame.intervals).2.length ≤ 57 := by
    revert hfit
    cases frame.intervals with
    | discrete list => exact And.right
    | continuous => exact fun _ => Nat.le_of_ble_eq_true rfl
  have hhead : (frameEntry format index frame).head? =
      some (.ofNat (26 + (intervalFields frame.intervals).2.length * 4)) := rfl
  refine ⟨by omega, ?_⟩
  rw [hhead, hlength, Option.map_some, UInt8.toNat_ofNat']
  congr 1
  omega

/-- A frame is read back. -/
theorem readFrame_frameEntry (format : FormatSpec) (index : UInt8) {frame : FrameSpec}
    (hfit : frame.intervals.Fit) (offset : Nat) (h : 2 ≤ (frameEntry format index frame).length) :
    readFrame ⟨offset, frameEntry format index frame, h⟩
        (format.encoding.frameSubtype = StreamingSubtype.frameBasedFrame) =
      .ok (format.describeFrame index frame) := by
  let e : Entry := ⟨offset, frameEntry format index frame, h⟩
  obtain ⟨hfront, hbytes⟩ := frameEntry_eq format index frame
  have hlong : 26 ≤ e.size := by
    show 26 ≤ (frameEntry format index frame).length
    rw [hbytes, List.length_append]
    omega
  have hintervals := readIntervals_fields (e := e) hbytes hfront hfit
  have hwidth : e.u16 5 = frame.width := by
    obtain ⟨encoding, frames⟩ := format
    cases encoding <;> exact Bytes.ofNat_value_word16 _
  have hheight : e.u16 7 = frame.height := by
    obtain ⟨encoding, frames⟩ := format
    cases encoding <;> exact Bytes.ofNat_value_word16 _
  obtain ⟨encoding, frames⟩ := format
  cases encoding with
  | frameBased guid =>
    exact readFrame_of_fields hlong rfl hwidth hheight rfl (Bytes.ofNat_value_word32 _) rfl hintervals
  | _ =>
    exact readFrame_of_fields hlong rfl hwidth hheight (Bytes.ofNat_value_word32 _)
      (Bytes.ofNat_value_word32 _) rfl hintervals

end DeviceModel

end UsbVideo
