import Mathlib.Data.List.Induction
import UsbVideo.Proofs.Transport.Slots

/-!
# Refills

A transfer is filled, prepared and filled again, and nobody clears its buffer. What is read from it is a
function of the fills since it was prepared, the latest one of each slot:

    prepare   fill 1   fill 0   prepare   fill 2   fill 0   fill 2        `latestFill?`
                                                     ↑        ↑           of slots 0 and 2

`Holds` is what lies in the slots after any uses, and `HoldsBulk` what a bulk transfer holds.
`payloads_latest` says what is read from both.
-/

namespace UsbVideo

namespace Transfer

/-! ### Uses of a transfer -/

/-- What can be done to a transfer. -/
inductive Use where
  | fillPacket (index : Nat) (data : Bytes) (status : TransferStatus)
  | fillBulk (data : Bytes)
  | prepare (id : Nat)
  deriving DecidableEq

/-- There is no result if this writes outside of the buffer. -/
def use? (t : Transfer) : Use → Option Transfer
  | .fillPacket index data status => (t.fillPacket? index data status).map (·.2)
  | .fillBulk data => some (t.fillBulk data).2
  | .prepare id => some (t.prepare id)

def useAll? (t : Transfer) (uses : List Use) : Option Transfer := uses.foldlM use? t

theorem useAll?_concat (t : Transfer) (uses : List Use) (use : Use) :
    t.useAll? (uses ++ [use]) = (t.useAll? uses).bind (·.use? use) := by
  rw [useAll?, List.foldlM_append]
  cases h : uses.foldlM use? t with
  | none => simp [useAll?, h]
  | some last => simp [useAll?, h]

/-! ### The latest fills -/

def Use.isPrepare : Use → Bool
  | .prepare _ => true
  | _ => false

/-- What a use puts into a slot. -/
def Use.fill? (slot : Nat) : Use → Option (Bytes × TransferStatus)
  | .fillPacket index data status => if index = slot then some (data, status) else none
  | _ => none

/-- What a use puts into the whole buffer. -/
def Use.bulk? : Use → Option Bytes
  | .fillBulk data => some data
  | _ => none

/-- The uses since the transfer was prepared, the latest first. -/
def sincePrepared (uses : List Use) : List Use := uses.reverse.takeWhile (!·.isPrepare)

/-- The latest fill of a slot since the transfer was prepared. -/
def latestFill? (uses : List Use) (slot : Nat) : Option (Bytes × TransferStatus) :=
  (sincePrepared uses).findSome? (Use.fill? slot)

/-- The latest bulk fill since the transfer was prepared. -/
def latestBulk? (uses : List Use) : Option Bytes := (sincePrepared uses).findSome? Use.bulk?

theorem sincePrepared_concat (uses : List Use) (use : Use) :
    sincePrepared (uses ++ [use]) = if use.isPrepare then [] else use :: sincePrepared uses := by
  rw [sincePrepared, List.reverse_concat, List.takeWhile_cons]
  cases use.isPrepare <;> rfl

@[simp] theorem latestFill?_nil (slot : Nat) : latestFill? [] slot = none := rfl

@[simp] theorem latestFill?_prepare (uses : List Use) (id slot : Nat) :
    latestFill? (uses ++ [.prepare id]) slot = none := by
  simp [latestFill?, sincePrepared_concat, Use.isPrepare]

@[simp] theorem latestFill?_fillPacket (uses : List Use) (index slot : Nat) (data : Bytes)
    (status : TransferStatus) : latestFill? (uses ++ [.fillPacket index data status]) slot =
      if index = slot then some (data, status) else latestFill? uses slot := by
  by_cases h : index = slot <;>
    simp [latestFill?, sincePrepared_concat, Use.isPrepare, Use.fill?, h]

@[simp] theorem latestBulk?_prepare (uses : List Use) (id : Nat) :
    latestBulk? (uses ++ [.prepare id]) = none := by
  simp [latestBulk?, sincePrepared_concat, Use.isPrepare]

@[simp] theorem latestBulk?_fillPacket (uses : List Use) (index : Nat) (data : Bytes)
    (status : TransferStatus) :
    latestBulk? (uses ++ [.fillPacket index data status]) = latestBulk? uses := by
  rw [latestBulk?, sincePrepared_concat]
  rfl

@[simp] theorem latestBulk?_fillBulk (uses : List Use) (data : Bytes) :
    latestBulk? (uses ++ [.fillBulk data]) = some data := by
  rw [latestBulk?, sincePrepared_concat]
  rfl

/-- What may be read lies inside of the buffer. -/
structure Within (t : Transfer) : Prop where
  packets : ∀ i p, t.packets[i]? = some p → i * t.packetSize + p.length ≤ t.buffer.size
  whole : t.kind = .bulk → t.actualLength ≤ t.buffer.size

/-- What can be read where this was put, if there is room for so many bytes. -/
def received (room : Nat) : Bytes × TransferStatus → Option Bytes
  | (data, status) =>
    if status.isSuccess && 0 < min data.length room then some (data.take room) else none

/-- What a packet notes of the latest fill of its slot. -/
def noted (room : Nat) : Option (Bytes × TransferStatus) → Packet
  | some (data, status) => ⟨min data.length room, status⟩
  | none => {}

/-! ### Packet slots -/

/-- Each of the slots holds what these uses put into it last. -/
structure Holds (t : Transfer) (size slots : Nat) (uses : List Use) : Prop where
  kind : t.kind = .isochronous
  packetSize : t.packetSize = size
  slotted : t.Slotted
  count : t.packets.length = slots
  packet : ∀ slot < slots, t.packets[slot]? = some (noted size (latestFill? uses slot))
  slot : ∀ slot < slots, t.slot? slot = (latestFill? uses slot).bind (received size)

namespace Holds

variable {t : Transfer} {size slots : Nat} {uses : List Use}

theorem isochronous (endpoint : UInt8) {buffer : Buffer} (room : buffer.size = size * slots) :
    (isochronous endpoint size slots buffer).Holds size slots [] where
  kind := rfl
  packetSize := rfl
  slotted := (formed_isochronous (Nat.le_of_eq (by rw [room, Nat.mul_comm]))).slots rfl
  count := List.length_replicate
  packet slot hslot := by
    show (List.replicate slots _)[slot]? = _
    rw [List.getElem?_replicate, if_pos hslot]
    rfl
  slot slot hslot := by
    simp [slot?, Transfer.isochronous, hslot]

theorem prepare (h : t.Holds size slots uses) (id : Nat) :
    (t.prepare id).Holds size slots (uses ++ [.prepare id]) where
  kind := h.kind
  packetSize := h.packetSize
  slotted := h.slotted.prepare id
  count := List.length_map _ |>.trans h.count
  packet slot hslot := by
    show (t.packets.map _)[slot]? = _
    rw [List.getElem?_map, h.packet slot hslot, latestFill?_prepare]
    rfl
  slot slot _ := by
    rw [(t.blank_prepare id).slot?, latestFill?_prepare]
    rfl

/-- A slot that does not exist is not filled. -/
theorem fillPacket?_outside (h : t.Holds size slots uses) {index : Nat} (outside : slots ≤ index)
    (data : Bytes) (status : TransferStatus) :
    t.fillPacket? index data status = some (0, t) := by
  rw [fillPacket?, if_neg (by rw [h.count]; omega)]

/-- A fill replaces what its slot holds, and nothing else. -/
theorem fillPacket (h : t.Holds size slots uses) (index : Nat) (data : Bytes)
    (status : TransferStatus) : ∃ t', t.use? (.fillPacket index data status) = some t' ∧
      t'.Holds size slots (uses ++ [.fillPacket index data status]) := by
  rw [use?]
  rcases Nat.lt_or_ge index slots with hinside | houtside
  · obtain ⟨filled, hfilled, hframe, hslotted, hpackets, hslots⟩ :=
      fillPacket?_spec h.slotted (h.count.symm ▸ hinside) data status
    rw [h.packetSize] at hpackets
    refine ⟨filled, by rw [hfilled]; rfl, ?_, ?_, hslotted, ?_, fun slot hslot => ?_,
      fun slot hslot => ?_⟩
    · rw [hframe]
      exact h.kind
    · rw [hframe]
      exact h.packetSize
    · rw [hpackets, List.length_set, h.count]
    · rw [hpackets, List.getElem?_set, h.packet slot hslot, h.count, latestFill?_fillPacket]
      split <;> rfl
    · rw [hslots, h.slot slot hslot, latestFill?_fillPacket, h.packetSize]
      by_cases hsame : slot = index
      · rw [if_pos hsame, if_pos hsame.symm]
        rfl
      · rw [if_neg hsame, if_neg (Ne.symm hsame)]
  · -- No slot that exists is the one that was filled.
    refine ⟨t, by rw [h.fillPacket?_outside houtside]; rfl, h.kind, h.packetSize, h.slotted,
      h.count, fun slot hslot => ?_, fun slot hslot => ?_⟩
    · rw [latestFill?_fillPacket, if_neg (by omega), h.packet slot hslot]
    · rw [latestFill?_fillPacket, if_neg (by omega), h.slot slot hslot]

/-- Whatever is done with the slots, nothing is written outside of the buffer. -/
theorem run (h : t.Holds size slots []) (noBulk : ∀ data, .fillBulk data ∉ uses) :
    ∃ t', t.useAll? uses = some t' ∧ t'.Holds size slots uses := by
  induction uses using List.reverseRecOn with
  | nil => exact ⟨t, rfl, h⟩
  | append_singleton uses use ih =>
    simp only [List.mem_append, List.mem_singleton, not_or] at noBulk
    obtain ⟨last, hlast, hholds⟩ := ih fun data => (noBulk data).1
    rw [useAll?_concat, hlast, Option.bind_some]
    cases use with
    | fillPacket index data status => exact hholds.fillPacket index data status
    | fillBulk data => exact absurd rfl (noBulk data).2
    | prepare id => exact ⟨last.prepare id, rfl, hholds.prepare id⟩

theorem payloads (h : t.Holds size slots uses) :
    t.payloads =
      (List.range slots).filterMap fun slot => (latestFill? uses slot).bind (received size) := by
  rw [payloads_of_isochronous h.kind, packetPayloads_eq, h.count]
  exact List.filterMap_congr fun slot hslot => h.slot slot (List.mem_range.mp hslot)

theorem packets (h : t.Holds size slots uses) :
    t.packets = (List.range slots).map fun slot => noted size (latestFill? uses slot) := by
  refine List.ext_getElem? fun slot => ?_
  rw [List.getElem?_map]
  rcases Nat.lt_or_ge slot slots with hinside | houtside
  · rw [h.packet slot hinside, List.getElem?_range hinside]
    rfl
  · rw [List.getElem?_eq_none (h.count.symm ▸ houtside), List.getElem?_eq_none (by simpa)]
    rfl

theorem failedPackets (h : t.Holds size slots uses) :
    t.failedPackets =
      (List.range slots).countP fun slot => (latestFill? uses slot).any (!·.2.isSuccess) := by
  rw [Transfer.failedPackets, h.packets, List.countP_map]
  refine List.countP_congr fun slot _ => ?_
  rw [Function.comp_apply]
  cases latestFill? uses slot <;> rfl

theorem within (h : t.Holds size slots uses) : t.Within where
  packets i p hp := by
    obtain ⟨hi, -⟩ := List.getElem?_eq_some_iff.mp hp
    have hlength := h.slotted.lengths p (List.mem_of_getElem? hp)
    exact Nat.le_trans (slot_end hi hlength) h.slotted.fits
  whole hbulk := nomatch h.kind.symm.trans hbulk

end Holds

/-! ### Bulk transfers -/

/-- The buffer holds what these uses put into it last. -/
structure HoldsBulk (t : Transfer) (room : Nat) (uses : List Use) : Prop where
  kind : t.kind = .bulk
  packets : t.packets = []
  buffer : t.buffer.size = room
  whole : match latestBulk? uses with
    | none => t.actualLength = 0
    | some data => t.actualLength = min data.length room ∧
        t.buffer.read 0 (min data.length room) = data.take room

namespace HoldsBulk

variable {t : Transfer} {room : Nat} {uses : List Use}

theorem bulk (endpoint : UInt8) (buffer : Buffer) : (bulk endpoint buffer).HoldsBulk buffer.size [] where
  kind := rfl
  packets := rfl
  buffer := rfl
  whole := rfl

theorem fillBulk (h : t.HoldsBulk room uses) (data : Bytes) :
    (t.fillBulk data).2.HoldsBulk room (uses ++ [.fillBulk data]) where
  kind := h.kind
  packets := h.packets
  buffer := Buffer.size_write .. |>.trans h.buffer
  whole := by
    rw [latestBulk?_fillBulk]
    dsimp only [Transfer.fillBulk]
    rw [h.buffer]
    refine ⟨rfl, ?_⟩
    have hlength : (data.take (min data.length room)).length = min data.length room := by simp
    have hfits : 0 + (data.take (min data.length room)).length ≤ t.buffer.size := by
      rw [hlength, h.buffer]
      omega
    have hread := t.buffer.read_write hfits
    rw [hlength] at hread
    rw [hread, Nat.min_comm, ← List.take_eq_take_min]

/-- A bulk transfer has no packet slots. -/
theorem fillPacket (h : t.HoldsBulk room uses) (index : Nat) (data : Bytes)
    (status : TransferStatus) : t.use? (.fillPacket index data status) = some t ∧
      t.HoldsBulk room (uses ++ [.fillPacket index data status]) := by
  refine ⟨?_, h.kind, h.packets, h.buffer, ?_⟩
  · rw [use?, fillPacket?, if_neg (by rw [h.packets]; exact Nat.not_lt_zero _)]
    rfl
  · rw [latestBulk?_fillPacket]
    exact h.whole

theorem prepare (h : t.HoldsBulk room uses) (id : Nat) :
    (t.prepare id).HoldsBulk room (uses ++ [.prepare id]) where
  kind := h.kind
  packets := by
    show t.packets.map _ = []
    rw [h.packets, List.map_nil]
  buffer := h.buffer
  whole := by
    rw [latestBulk?_prepare]
    rfl

theorem run (h : t.HoldsBulk room []) (uses : List Use) :
    ∃ t', t.useAll? uses = some t' ∧ t'.HoldsBulk room uses := by
  induction uses using List.reverseRecOn with
  | nil => exact ⟨t, rfl, h⟩
  | append_singleton uses use ih =>
    obtain ⟨last, hlast, hholds⟩ := ih
    rw [useAll?_concat, hlast, Option.bind_some]
    cases use with
    | fillPacket index data status => exact ⟨last, hholds.fillPacket index data status⟩
    | fillBulk data => exact ⟨(last.fillBulk data).2, rfl, hholds.fillBulk data⟩
    | prepare id => exact ⟨last.prepare id, rfl, hholds.prepare id⟩

theorem payloads (h : t.HoldsBulk room uses) :
    t.payloads = ((latestBulk? uses).bind fun data => received room (data, .completed)).toList := by
  have hwhole := h.whole
  rw [Transfer.payloads, bulkPayloads, packetPayloads, h.packets, h.kind]
  cases hlatest : latestBulk? uses with
  | none =>
    rw [hlatest] at hwhole
    simp [hwhole]
  | some data =>
    rw [hlatest] at hwhole
    obtain ⟨hlength, hread⟩ := hwhole
    rw [hlength, hread, Option.bind_some, received]
    by_cases hpos : 0 < min data.length room <;> simp [hpos, TransferStatus.isSuccess]

theorem within (h : t.HoldsBulk room uses) : t.Within where
  packets i p hp := by simp [h.packets] at hp
  whole _ := by
    have hwhole := h.whole
    rw [h.buffer]
    split at hwhole
    · omega
    · omega

end HoldsBulk

/-! ### What is read -/

/-- **Fills do not interfere.** Whatever is put into the packet slots of a transfer, as often as it is
prepared, into slots it has or does not have, all of it stays inside of the buffer. What is read is, slot
by slot, the latest fill since it was prepared, cut to the slot, if that succeeded and is not empty, and
the slots whose latest fill failed are counted. From a bulk transfer the latest bulk fill is read. -/
theorem payloads_latest (endpoint : UInt8) (buffer : Buffer) (uses : List Use) :
    (∀ size slots, buffer.size = size * slots → (∀ data, .fillBulk data ∉ uses) →
      ∃ t, (isochronous endpoint size slots buffer).useAll? uses = some t ∧ t.Within ∧
        t.payloads = (List.range slots).filterMap
          (fun slot => (latestFill? uses slot).bind (received size)) ∧
        t.failedPackets = (List.range slots).countP
          (fun slot => (latestFill? uses slot).any (!·.2.isSuccess)) ∧
        ∀ index ≥ slots, ∀ data status, t.fillPacket? index data status = some (0, t)) ∧
    ∃ t, (bulk endpoint buffer).useAll? uses = some t ∧ t.Within ∧
      t.payloads = ((latestBulk? uses).bind
        fun data => received buffer.size (data, .completed)).toList := by
  refine ⟨fun size slots hroom hnoBulk => ?_, ?_⟩
  · obtain ⟨t, hrun, hholds⟩ := (Holds.isochronous endpoint hroom).run hnoBulk
    exact ⟨t, hrun, hholds.within, hholds.payloads, hholds.failedPackets,
      fun index houtside => hholds.fillPacket?_outside houtside⟩
  · obtain ⟨t, hrun, hholds⟩ := (HoldsBulk.bulk endpoint buffer).run uses
    exact ⟨t, hrun, hholds.within, hholds.payloads⟩

/-- Slot 0 is filled again with less, slot 1 fails, slot 2 is only filled before the transfer is prepared,
slot 3 gets too much, and there is no slot 4. -/
def refilled : List Use :=
  [.fillPacket 0 [1, 2] .completed, .fillPacket 2 [3] .completed, .prepare 1,
    .fillPacket 0 [4, 5] .completed, .fillPacket 1 [6] .stall, .fillPacket 0 [7] .completed,
    .fillPacket 3 [8, 9, 10] .completed, .fillPacket 4 [11] .completed]

theorem payloads_latest_refilled :
    ∃ t, (isochronous 0x81 2 4 (Array.replicate 8 0)).useAll? refilled = some t ∧
      t.payloads = [[7], [8, 9]] ∧ t.failedPackets = 1 := by
  obtain ⟨t, hrun, -, hpayloads, hfailed, -⟩ :=
    (payloads_latest 0x81 (Array.replicate 8 0) refilled).1 2 4 rfl (by simp [refilled])
  exact ⟨t, hrun, hpayloads.trans (by decide), hfailed.trans (by decide)⟩

end Transfer

end UsbVideo
