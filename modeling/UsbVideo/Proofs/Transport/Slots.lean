import Mathlib.Data.List.Basic
import UsbVideo.Transport.Transfer

/-!
# Slots

The packet slots of a transfer share one buffer, and the buffer is used again and again. What is read
from a slot is what was put into it since the transfer was prepared, whatever was put into other slots:

    │ slot 0 │ slot 1 │ slot 2 │ …        `slot?` is what a slot received

`fillPacket?_spec` says what filling a slot does, slot by slot. From it follows what a queue of payloads
leaves in a transfer that was just prepared, and what it leaves in the queue.
-/

namespace UsbVideo

namespace Buffer

/-! ### Writing and reading -/

/-- A write changes the bytes it covers and no others. -/
theorem getElem?_write {buffer : Buffer} {start : Nat} {data : Bytes}
    (fits : start + data.length ≤ buffer.size) (i : Nat) :
    (buffer.write start data)[i]? =
      if start ≤ i ∧ i < start + data.length then data[i - start]? else buffer[i]? := by
  induction data generalizing buffer start with
  | nil =>
    rw [if_neg (by simp)]
    rfl
  | cons b bs ih =>
    rw [List.length_cons] at fits
    rw [write, ih (by rw [Array.size_setIfInBounds]; omega), List.length_cons]
    rcases Nat.lt_trichotomy i start with hbefore | rfl | hbehind
    · rw [if_neg (by omega), if_neg (by omega), Array.getElem?_setIfInBounds_ne (by omega)]
    · rw [if_neg (by omega), if_pos (by omega), Array.getElem?_setIfInBounds_self_of_lt (by omega)]
      simp
    · have hindex : i - start = i - (start + 1) + 1 := by omega
      rw [hindex, List.getElem?_cons_succ, Array.getElem?_setIfInBounds_ne (by omega)]
      have hsame : (start + 1 ≤ i ∧ i < start + 1 + bs.length) ↔
          (start ≤ i ∧ i < start + (bs.length + 1)) := by omega
      simp only [hsame]

theorem getElem?_read (buffer : Buffer) (start len i : Nat) :
    (buffer.read start len)[i]? = if i < len then buffer[start + i]? else none := by
  rw [read, Array.getElem?_toList, Array.getElem?_extract]
  by_cases hin : start + i < buffer.size
  · by_cases hlen : i < len
    · rw [if_pos (by omega), if_pos hlen]
    · rw [if_neg (by omega), if_neg hlen]
  · rw [if_neg (by omega), Array.getElem?_eq_none (by omega), ite_self]

/-- What was written is read back. -/
theorem read_write (buffer : Buffer) {start : Nat} {data : Bytes}
    (fits : start + data.length ≤ buffer.size) :
    (buffer.write start data).read start data.length = data := by
  refine List.ext_getElem? fun i => ?_
  rw [getElem?_read, getElem?_write fits]
  split
  · rw [if_pos (by omega), Nat.add_sub_cancel_left]
  · next hbehind => rw [List.getElem?_eq_none (by omega)]

/-- A write elsewhere is not seen. -/
theorem read_write_of_disjoint (buffer : Buffer) {start other len : Nat} {data : Bytes}
    (fits : start + data.length ≤ buffer.size)
    (disjoint : other + len ≤ start ∨ start + data.length ≤ other) :
    (buffer.write start data).read other len = buffer.read other len := by
  refine List.ext_getElem? fun i => ?_
  rw [getElem?_read, getElem?_read, getElem?_write fits]
  split
  · rw [if_neg (by omega)]
  · rfl

end Buffer

namespace Transfer

/-! ### Slot by slot -/

/-- What a packet slot received: nothing if it failed or is empty. -/
def slot? (t : Transfer) (i : Nat) : Option Bytes :=
  t.packets[i]?.bind fun p =>
    if p.status.isSuccess && 0 < p.length then some (t.buffer.read (i * t.packetSize) p.length)
    else none

/-- What the first slots received, in order. -/
def firstSlots (t : Transfer) (count : Nat) : List Bytes := (List.range count).filterMap t.slot?

theorem packetPayloads_eq (t : Transfer) : t.packetPayloads = t.firstSlots t.packets.length := by
  have hrange : List.range t.packets.length = t.packets.zipIdx.map Prod.snd := by
    rw [List.zipIdx_map_snd, List.range_eq_range']
  rw [packetPayloads, firstSlots, hrange, List.filterMap_map]
  refine List.filterMap_congr fun entry hentry => ?_
  rw [Function.comp_apply, slot?, List.mem_zipIdx_iff_getElem?.mp hentry, Option.bind_some]

theorem firstSlots_succ (t : Transfer) (count : Nat) :
    t.firstSlots (count + 1) = t.firstSlots count ++ (t.slot? count).toList := by
  rw [firstSlots, List.range_succ, List.filterMap_append]
  cases h : t.slot? count <;> simp [firstSlots, h]

/-- Slots that received nothing add nothing. -/
theorem firstSlots_of_later {t : Transfer} {first : Nat} (later : ∀ i ≥ first, t.slot? i = none)
    (count : Nat) : t.firstSlots (first + count) = t.firstSlots first := by
  induction count with
  | zero => rfl
  | succ count ih =>
    rw [← Nat.add_assoc, firstSlots_succ, later _ (Nat.le_add_right first count), ih]
    exact List.append_nil _

/-- The slots lie side by side in the buffer, and none holds more than its size. -/
structure Slotted (t : Transfer) : Prop where
  fits : t.packets.length * t.packetSize ≤ t.buffer.size
  lengths : ∀ p ∈ t.packets, p.length ≤ t.packetSize

/-- What lies in a slot ends before the next ones begin. -/
theorem slot_end {i j length size : Nat} (before : i < j) (le : length ≤ size) :
    i * size + length ≤ j * size := by
  have hnext : (i + 1) * size ≤ j * size := Nat.mul_le_mul_right size before
  rw [Nat.add_mul, Nat.one_mul] at hnext
  omega

/-- Filling a slot puts the data there, cut to the slot, and leaves all other slots as they are. -/
theorem fillPacket?_spec {t : Transfer} (h : t.Slotted) {index : Nat}
    (there : index < t.packets.length) (data : Bytes) (status : TransferStatus) :
    ∃ filled, t.fillPacket? index data status = some (min data.length t.packetSize, filled) ∧
      filled = { t with buffer := filled.buffer, packets := filled.packets } ∧ filled.Slotted ∧
      filled.packets = t.packets.set index ⟨min data.length t.packetSize, status⟩ ∧
      ∀ i, filled.slot? i =
        if i = index then
          if status.isSuccess && 0 < min data.length t.packetSize then
            some (data.take t.packetSize)
          else none
        else t.slot? i := by
  have hlength : (data.take (min data.length t.packetSize)).length =
      min data.length t.packetSize := by simp
  have hend := slot_end there (Nat.min_le_right data.length t.packetSize)
  have hfits : index * t.packetSize + min data.length t.packetSize ≤ t.buffer.size :=
    Nat.le_trans hend h.fits
  refine ⟨{ t with
      buffer := t.buffer.write (index * t.packetSize) (data.take (min data.length t.packetSize))
      packets := t.packets.set index ⟨min data.length t.packetSize, status⟩ }, ?_, rfl, ⟨?_, ?_⟩,
    rfl, fun i => ?_⟩
  · unfold fillPacket?
    rw [if_pos there]
    dsimp only
    rw [if_pos hfits]
  · rw [List.length_set, Buffer.size_write]
    exact h.fits
  · intro p hp
    rcases List.mem_or_eq_of_mem_set hp with hp | rfl
    · exact h.lengths p hp
    · exact Nat.min_le_right ..
  · unfold slot?
    dsimp only
    by_cases hi : i = index
    · subst hi
      rw [List.getElem?_set_self there, if_pos rfl, Option.bind_some]
      have hread := t.buffer.read_write (hlength.symm ▸ hfits)
      rw [hlength] at hread
      have hcut : data.take (min data.length t.packetSize) = data.take t.packetSize := by
        rw [Nat.min_comm, ← List.take_eq_take_min]
      rw [hread, hcut]
    · rw [List.getElem?_set_ne (Ne.symm hi), if_neg hi]
      cases hp : t.packets[i]? with
      | none => rfl
      | some p =>
        -- The slots lie apart, whichever comes first.
        have hle := h.lengths p (List.mem_of_getElem? hp)
        have hapart : i * t.packetSize + p.length ≤ index * t.packetSize ∨
            index * t.packetSize + (data.take (min data.length t.packetSize)).length ≤
              i * t.packetSize := by
          rw [hlength]
          rcases Nat.lt_or_gt_of_ne hi with hlt | hgt
          · exact .inl (slot_end hlt hle)
          · exact .inr (slot_end hgt (Nat.min_le_right ..))
        have hother := t.buffer.read_write_of_disjoint (hlength.symm ▸ hfits) hapart
        rw [Option.bind_some, Option.bind_some, hother]

/-! ### Whole transfers -/

/-- The buffer is used as the kind of the transfer says. -/
structure Formed (t : Transfer) : Prop where
  slots : t.kind = .isochronous → t.Slotted
  whole : t.kind = .bulk → t.packets = [] ∧ t.packetSize = t.buffer.size

/-- Nothing was received. -/
structure Blank (t : Transfer) : Prop where
  packets : ∀ p ∈ t.packets, p.length = 0
  actualLength : t.actualLength = 0

theorem formed_isochronous {endpoint : UInt8} {packetSize packets : Nat} {buffer : Buffer}
    (fits : packets * packetSize ≤ buffer.size) :
    (isochronous endpoint packetSize packets buffer).Formed where
  slots _ := by
    refine ⟨?_, fun p hp => ?_⟩
    · rw [isochronous, List.length_replicate]
      exact fits
    · rw [List.eq_of_mem_replicate hp]
      exact Nat.zero_le _
  whole hbulk := nomatch hbulk

theorem formed_bulk (endpoint : UInt8) (buffer : Buffer) : (bulk endpoint buffer).Formed where
  slots hisochronous := nomatch hisochronous
  whole _ := ⟨rfl, rfl⟩

theorem Slotted.prepare {t : Transfer} (h : t.Slotted) (id : Nat) : (t.prepare id).Slotted where
  fits := by
    show (t.packets.map _).length * t.packetSize ≤ t.buffer.size
    rw [List.length_map]
    exact h.fits
  lengths p hp := by
    obtain ⟨_, -, rfl⟩ := List.mem_map.mp hp
    exact Nat.zero_le _

theorem Formed.prepare {t : Transfer} (h : t.Formed) (id : Nat) : (t.prepare id).Formed where
  slots hkind := (h.slots hkind).prepare id
  whole hkind := by
    obtain ⟨hpackets, hsize⟩ := h.whole hkind
    refine ⟨?_, hsize⟩
    show t.packets.map _ = []
    rw [hpackets, List.map_nil]

/-- Preparing forgets what was received. -/
theorem blank_prepare (t : Transfer) (id : Nat) : (t.prepare id).Blank where
  packets p hp := by
    obtain ⟨_, -, rfl⟩ := List.mem_map.mp hp
    rfl
  actualLength := rfl

theorem Blank.slot? {t : Transfer} (h : t.Blank) (i : Nat) : t.slot? i = none := by
  unfold Transfer.slot?
  cases hp : t.packets[i]? with
  | none => rfl
  | some p =>
    rw [Option.bind_some, h.packets p (List.mem_of_getElem? hp)]
    simp

theorem Blank.firstSlots {t : Transfer} (h : t.Blank) (count : Nat) : t.firstSlots count = [] := by
  rw [Transfer.firstSlots, List.filterMap_eq_nil_iff]
  exact fun i _ => h.slot? i

/-- Nothing is read from a transfer that received nothing. -/
theorem Blank.payloads {t : Transfer} (h : t.Blank) : t.payloads = [] := by
  rw [Transfer.payloads, bulkPayloads, h.actualLength, packetPayloads_eq, h.firstSlots,
    if_neg (by simp)]
  rfl

theorem payloads_of_isochronous {t : Transfer} (h : t.kind = .isochronous) :
    t.payloads = t.packetPayloads := by
  rw [payloads, bulkPayloads, h, if_neg (by simp), List.nil_append]

/-- What a bulk transfer is filled with is read back, if its buffer holds it. -/
theorem payloads_fillBulk {t : Transfer} (h : t.Formed) (bulk : t.kind = .bulk) {data : Bytes}
    (some : data ≠ []) (fits : data.length ≤ t.packetSize) :
    (t.fillBulk data).2.payloads = [data] := by
  obtain ⟨hpackets, hsize⟩ := h.whole bulk
  rw [hsize] at fits
  have hread : (t.buffer.write 0 data).read 0 data.length = data :=
    t.buffer.read_write (by omega)
  have hpos : 0 < data.length := List.length_pos_iff.mpr some
  unfold payloads bulkPayloads packetPayloads fillBulk
  simp [bulk, hpackets, Nat.min_eq_left fits, hread, hpos]

end Transfer

end UsbVideo
