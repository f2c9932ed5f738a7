import UsbVideo.Descriptor.Configuration
import UsbVideo.Proofs.Decode.Words
import UsbVideo.Proofs.Stream.Adequate

/-!
# Negotiated sizes

What a stream multiplies comes from descriptors, from the answer to the probe and from the host:

    frame and format   width, height, depth       16, 16 and 8 bits
    endpoint           bytes in a packet          11 bits, up to four times
    answer             bytes in a payload         32 bits
    host               packets in a request       as many as it wants

So the layout of a stream is narrow, whatever the device says, and frames are counted exactly. A request
over bulk holds a whole payload of any size, and its own size can be counted unless the host is the one
that asks for too much (`finalize_exact`).
-/

namespace UsbVideo

open StreamRequest

/-! ### Geometry -/

/-- What is streamed has the geometry of descriptors. -/
theorem StreamConfig.Streams.narrow {r : ResolvedRequest} {c : StreamConfig} (h : c.Streams r) :
    c.layout.Narrow where
  width := by
    show c.width.toNat < 2 ^ 16
    rw [h.width, UInt16.toNat_toUInt32]
    exact r.frame.width.toNat_lt
  height := by
    show c.height.toNat < 2 ^ 16
    rw [h.height, UInt16.toNat_toUInt32]
    exact r.frame.height.toNat_lt
  bitsPerPixel := by
    show c.bitsPerPixel.toNat < 2 ^ 8
    rw [h.bitsPerPixel, UInt8.toNat_toUInt32]
    exact r.format.bitsPerPixel.toNat_lt

/-! ### Packets -/

theorem Endpoint.capacity_lt (e : Endpoint) : e.capacity < 2 ^ 13 := by
  have hbase : e.baseSize < 2 ^ 11 := Nat.mod_lt _ (by decide)
  have hmultiplier : e.multiplier ≤ 2 ^ 2 := Nat.mod_lt _ (by decide)
  calc e.capacity
      < 2 ^ 11 * 2 ^ 2 := Nat.mul_lt_mul_of_lt_of_le hbase hmultiplier (by decide)
    _ = 2 ^ 13 := by decide

/-- A packet size that nobody asked for is that of a preset. -/
theorem resolve_maxPacketSize {request : StreamRequest} {preset : Option Preset} {catalog : Catalog}
    {settings : TransferSettings} {r : ResolvedRequest}
    (h : (resolve request preset catalog settings).result = .ok r)
    (hrequest : request.maxPacketSize = none) (hsettings : settings.maxPacketSize = none) :
    ∀ size ∈ r.maxPacketSize, size = 1024 := by
  obtain ⟨choice, -, rfl⟩ := resolve_ok_iff.mp h
  show ∀ size ∈ (request.effective preset).maxPacketSize.or settings.maxPacketSize, size = 1024
  rw [hsettings, Option.or_none]
  cases hempty : request.isEmpty with
  | true =>
    rw [effective, hempty, if_pos rfl]
    cases preset.getD .standard with
    | standard | brioStable =>
      intro size hsize
      cases hsize
      rfl
  | false =>
    rw [effective_of_isEmpty_eq_false hempty, hrequest]
    intro size hsize
    cases hsize

namespace StreamConfig

variable {s : StreamingInterface} {explicit : Option Nat} {wanted maxPayload : Nat} {c : StreamConfig}

/-- A request over bulk holds a whole payload. -/
theorem OverBulk.payload_le (h : c.OverBulk s explicit wanted maxPayload) :
    maxPayload ≤ c.maxPacketSize * c.packetsPerRequest := by
  obtain ⟨least, hleast, hpackets⟩ := h.packets
  calc maxPayload
      ≤ c.maxPacketSize * least := hleast.1
    _ ≤ c.maxPacketSize * c.packetsPerRequest :=
      Nat.mul_le_mul_left _ (hpackets ▸ Nat.le_max_right ..)

/-- Packets of one byte would be enough. -/
theorem OverBulk.packets_le (h : c.OverBulk s explicit wanted maxPayload) :
    c.packetsPerRequest ≤ max wanted maxPayload := by
  obtain ⟨least, hleast, hpackets⟩ := h.packets
  have henough : maxPayload ≤ c.maxPacketSize * least := hleast.1
  have hbytes : maxPayload ≤ c.maxPacketSize * maxPayload := by
    rcases Nat.eq_zero_or_pos c.maxPacketSize with hzero | hpos
    · rw [hzero, Nat.zero_mul] at henough
      exact Nat.le_trans henough (Nat.zero_le _)
    · exact Nat.le_mul_of_pos_left _ hpos
  rw [hpackets]
  exact sup_le_sup_left (hleast.2 hbytes) wanted

end StreamConfig

namespace ResolvedRequest

variable {r : ResolvedRequest} {catalog : Catalog} {answer : ProbeBlock} {c : StreamConfig}
  (h : (r.finalize catalog answer).result = .ok c)

include h

/-- The packet size is the one resolved, or that of an endpoint. -/
theorem finalize_maxPacketSize :
    ∃ e : Endpoint, c.maxPacketSize = r.maxPacketSize.getD e.capacity := by
  obtain ⟨s, hfound⟩ := finalize_found h
  cases hbulk : r.bulk with
  | true =>
    obtain ⟨e, -, -, hsize⟩ := (finalize_bulk hfound hbulk h).endpoint
    exact ⟨e, hsize⟩
  | false =>
    obtain ⟨_, -, e, -, -, -, -, hsize, -⟩ := (finalize_isochronous hfound hbulk h).setting
    exact ⟨e, hsize⟩

/-- What an endpoint can say is less than 2 ^ 13, and a preset asks for no more. -/
theorem finalize_maxPacketSize_lt (hpreset : ∀ size ∈ r.maxPacketSize, size = 1024) :
    c.maxPacketSize < 2 ^ 13 := by
  obtain ⟨e, hsize⟩ := finalize_maxPacketSize h
  rw [hsize]
  cases hexplicit : r.maxPacketSize with
  | none => exact e.capacity_lt
  | some size =>
    rw [hpreset size hexplicit]
    show 1024 < 2 ^ 13
    decide

theorem finalize_packetsPerRequest :
    c.packetsPerRequest ≤ max r.packetsPerRequest answer.maxPayloadTransferSize.toNat := by
  obtain ⟨s, hfound⟩ := finalize_found h
  cases hbulk : r.bulk with
  | true => exact (finalize_bulk hfound hbulk h).packets_le
  | false =>
    rw [(finalize_isochronous hfound hbulk h).packets]
    exact Nat.le_max_left ..

theorem finalize_payload_le (htransfer : c.transfer = .bulk) :
    answer.maxPayloadTransferSize.toNat ≤ c.maxPacketSize * c.packetsPerRequest := by
  obtain ⟨s, hfound⟩ := finalize_found h
  cases hbulk : r.bulk with
  | true => exact (finalize_bulk hfound hbulk h).payload_le
  | false =>
    have hother := (finalize_isochronous hfound hbulk h).transfer
    rw [htransfer] at hother
    cases hother

end ResolvedRequest

/-! ### Everything together -/

/-- **What is negotiated is counted exactly.** Whatever the descriptors say, the host asks for and the
device answers, the layout of a configuration is exact: its frames have less than 2 ^ 40 bytes, and what
is multiplied in words for them does not wrap, neither the size of a frame, nor the length of a row of
anything a decoder makes of one, nor the buffer that it is converted into. The frames that are reassembled
are of that layout. If neither host nor settings ask for a packet size or for more than 2 ^ 32 packets, the
size of a request can be counted, and over bulk it is no less than the payloads of the device.

The catalog may be any, for the fields of its entries have the sizes that a block of descriptors has. The
number of packets is the one that was resolved, to which the device can only add. -/
theorem finalize_exact (request : StreamRequest) (preset : Option Preset) (catalog : Catalog)
    (settings : TransferSettings) (r : ResolvedRequest) (answer : ProbeBlock) (c : StreamConfig)
    (hresolved : (resolve request preset catalog settings).result = .ok r)
    (hfinal : (r.finalize catalog answer).result = .ok c) :
    c.layout.Exact ∧
    (∀ payloads, ∀ frame ∈ Outcome.frames ((Reassembler.new c.layout).pushAll payloads).1,
      c.layout.Describes frame) ∧
    (request.maxPacketSize = none → settings.maxPacketSize = none →
      r.packetsPerRequest ≤ 2 ^ 32 →
        (c.plan settings).requestSize = some (c.maxPacketSize * c.packetsPerRequest) ∧
        (c.transfer = .bulk →
          answer.maxPayloadTransferSize.toNat ≤ c.maxPacketSize * c.packetsPerRequest)) := by
  refine ⟨?_, ?_, ?_⟩
  · exact FrameLayout.exact_of_narrow (ResolvedRequest.finalize_streams hfinal).narrow
  · intro payloads frame hframe
    exact Reassembler.describes_of_mem_frames hframe
  · intro hrequest hsettings hpackets
    refine ⟨if_pos ?_, ResolvedRequest.finalize_payload_le hfinal⟩
    have hpreset := resolve_maxPacketSize hresolved hrequest hsettings
    have hsize : c.maxPacketSize < 2 ^ 13 := ResolvedRequest.finalize_maxPacketSize_lt hfinal hpreset
    have hcount : c.packetsPerRequest ≤ 2 ^ 32 := by
      apply Nat.le_trans (ResolvedRequest.finalize_packetsPerRequest hfinal)
      exact Nat.max_le.mpr ⟨hpackets, Nat.le_of_lt (UInt32.toNat_lt _)⟩
    calc c.maxPacketSize * c.packetsPerRequest
        < 2 ^ 13 * 2 ^ 32 := Nat.mul_lt_mul_of_lt_of_le hsize hcount (by decide)
      _ < sizeLimit := by decide

/-- A device that announces the largest frames and the largest payloads there are. -/
theorem finalize_exact_largest :
    let block : Bytes := [9, 0x02, 0, 0, 2, 1, 0, 0x80, 50] ++ [9, 0x04, 0, 0, 0, 0x0E, 1, 0, 0] ++
      [9, 0x04, 1, 0, 1, 0x0E, 2, 0, 0] ++ [7, 0x05, 0x81, 2, 0, 2, 0] ++
      ([27, 0x24, 0x04, 1, 1] ++ (Guid.named 'R' 'G' 'B' 'A').toList ++ [255, 1, 0, 0, 0, 0]) ++
      [30, 0x24, 0x05, 1, 0, 255, 255, 255, 255, 0, 0, 0, 0, 0, 0, 0, 0, 255, 255, 255, 255,
        0x15, 0x16, 5, 0, 1, 0x15, 0x16, 5, 0]
    let frame : FrameDescriptor := ⟨1, 65535, 65535, 0xFFFFFFFF, 333333, .discrete [333333]⟩
    let format : FormatDescriptor :=
      ⟨1, .uncompressed (.named 'R' 'G' 'B' 'A'), 255, 1, [frame]⟩
    let camera : StreamingInterface :=
      { number := 1, formats := [format], altSettings := [⟨0, some ⟨0x81, .bulk, 512, 0⟩⟩] }
    let catalog : Catalog := { uvcVersion := 0, control := {}, streaming := [camera] }
    let request : StreamRequest := { bulk := some true }
    parseConfiguration block = .ok catalog ∧
    ∃ r c, (resolve request none catalog {}).result = .ok r ∧
      (r.finalize catalog { r.probe with maxPayloadTransferSize := 0xFFFFFFFF }).result = .ok c ∧
      (c.width = 65535 ∧ c.height = 65535 ∧ c.bitsPerPixel = 255) ∧ c.layout.Exact ∧
      c.transfer = .bulk ∧ c.maxPacketSize = 512 ∧ c.packetsPerRequest = 8388608 ∧
      (c.plan {}).requestSize = some (c.maxPacketSize * c.packetsPerRequest) ∧
      0xFFFFFFFF ≤ c.maxPacketSize * c.packetsPerRequest := by
  intro block frame format camera catalog request
  have hbulk : camera.HasBulk := StreamingInterface.isSome_bulkEndpoint?.mp rfl
  have hchosen : request.Chooses catalog false ⟨camera, format, frame, 333333, true⟩ := {
    interface := rfl
    format := rfl
    frame := rfl
    interval := rfl
    bulk := selectBulk_ok.mpr ⟨rfl, fun _ => hbulk, nofun⟩
    alt := rfl }
  let r := request.fill catalog {} false ⟨camera, format, frame, 333333, true⟩
  have hresolved : (resolve request none catalog {}).result = .ok r :=
    resolve_of_chooses (by decide) hchosen
  let answer := { r.probe with maxPayloadTransferSize := 0xFFFFFFFF }
  have hfinal : (r.finalize catalog answer).result = .ok _ := rfl
  obtain ⟨hexact, -, hsize⟩ :=
    finalize_exact request none catalog {} r answer _ hresolved hfinal
  obtain ⟨hcounted, hpayload⟩ := hsize rfl rfl (by decide)
  have hpackets : max 32 (divCeil 0xFFFFFFFF 512) = 8388608 := by decide
  refine ⟨by decide +kernel, r, _, hresolved, hfinal, ⟨rfl, rfl, rfl⟩, hexact, rfl, rfl, hpackets,
    hcounted, ?_⟩
  exact hpayload rfl

end UsbVideo
