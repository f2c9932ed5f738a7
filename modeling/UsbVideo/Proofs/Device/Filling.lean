import UsbVideo.Device.Loopback
import UsbVideo.Proofs.Transport.Slots

/-!
# Filling transfers from a queue

A transfer that completes at a camera in memory takes payloads from the front of the queue: one for
each packet slot, or one for a bulk transfer. What is read from it together with what is left of the
queue is the queue as it was (`fill_spec`), as long as every payload has data and fits.

Whatever the payloads are, filling succeeds if the buffer holds all slots (`Transfer.HasRoom`), and then
it takes a payload for each of them as long as there are any (`fill_taken`).
-/

namespace UsbVideo

/-! ### Room for the slots -/

namespace Transfer

/-- The buffer holds all slots that it is divided into. -/
def HasRoom (t : Transfer) : Prop :=
  t.kind = .isochronous → t.packets.length * t.packetSize ≤ t.buffer.size

/-- How many payloads a transfer can take. -/
def places (t : Transfer) : Nat :=
  match t.kind with
  | .isochronous => t.packets.length
  | .bulk => 1

/-- Where there is room for all slots each of them can be filled, and the slots stay where they are. -/
theorem exists_fillPacket? {t : Transfer} (room : t.packets.length * t.packetSize ≤ t.buffer.size)
    (index : Nat) (data : Bytes) (status : TransferStatus) :
    ∃ stored filled, t.fillPacket? index data status = some (stored, filled) ∧ filled.id = t.id ∧
      filled.packets.length * filled.packetSize ≤ filled.buffer.size := by
  unfold fillPacket?
  by_cases there : index < t.packets.length
  · have hend := slot_end there (Nat.min_le_right data.length t.packetSize)
    rw [if_pos there]
    dsimp only
    rw [if_pos (Nat.le_trans hend room)]
    refine ⟨_, _, rfl, rfl, ?_⟩
    rw [List.length_set, Buffer.size_write]
    exact room
  · rw [if_neg there]
    exact ⟨0, t, rfl, rfl, room⟩

end Transfer

namespace Loopback

open Transfer

/-- The payload is not empty and fits into this many bytes. -/
def Whole (size : Nat) (payload : Bytes) : Prop := payload ≠ [] ∧ payload.length ≤ size

/-- From slot `first` on, which hold nothing yet, each slot takes the next payload. -/
theorem fillSlots_spec {t : Transfer} (h : t.Slotted) {first count : Nat}
    (all : first + count = t.packets.length) (later : ∀ i ≥ first, t.slot? i = none)
    {payloads : List Bytes} (whole : ∀ p ∈ payloads, Whole t.packetSize p) :
    ∃ filled rest, fillSlots t (List.range' first count) payloads = (some filled, rest) ∧
      filled = { t with buffer := filled.buffer, packets := filled.packets } ∧ filled.Slotted ∧
      filled.packetPayloads ++ rest = t.firstSlots first ++ payloads := by
  induction count generalizing t first payloads with
  | zero =>
    refine ⟨t, payloads, rfl, rfl, h, ?_⟩
    rw [packetPayloads_eq, ← all, Nat.add_zero]
  | succ count ih =>
    cases payloads with
    | nil =>
      refine ⟨t, [], rfl, rfl, h, ?_⟩
      rw [packetPayloads_eq, ← all, firstSlots_of_later later]
    | cons payload payloads =>
      have hfirst : first < t.packets.length := by omega
      obtain ⟨⟨hsome, hle⟩, hpayloads⟩ := List.forall_mem_cons.mp whole
      obtain ⟨one, hone, hframe, hslotted, hpackets, hslots⟩ :=
        fillPacket?_spec h hfirst payload .completed
      have hpos : 0 < payload.length := List.length_pos_iff.mpr hsome
      rw [Nat.min_eq_left hle, List.take_of_length_le hle] at hslots
      have hthis : one.slot? first = some payload := by
        rw [hslots first, if_pos rfl, if_pos (by simp [TransferStatus.isSuccess, hpos])]
      have hothers (i : Nat) (hi : i ≠ first) : one.slot? i = t.slot? i := by
        rw [hslots i, if_neg hi]
      have hsize : one.packetSize = t.packetSize := congrArg (·.packetSize) hframe
      have hnext : first + 1 + count = one.packets.length := by
        rw [hpackets, List.length_set]
        omega
      rw [← hsize] at hpayloads
      obtain ⟨filled, rest, hrest, hframe', hslotted', hread⟩ :=
        ih hslotted hnext
          (fun i hi => (hothers i (by omega)).trans (later i (by omega))) hpayloads
      refine ⟨filled, rest, ?_, ?_, hslotted', ?_⟩
      · rw [List.range'_succ, fillSlots, hone]
        exact hrest
      · rw [hframe', hframe]
      · have hbefore : one.firstSlots first = t.firstSlots first :=
          List.filterMap_congr fun i hi => hothers i (Nat.ne_of_lt (List.mem_range.mp hi))
        rw [hread, firstSlots_succ, hthis, hbefore]
        simp

theorem fill_isochronous {t : Transfer} (h : t.kind = .isochronous) (payloads : List Bytes) :
    fill t payloads = fillSlots t (List.range' 0 t.packets.length) payloads := by
  unfold fill
  rw [List.range_eq_range']
  split
  · rfl
  · next hbulk => exact nomatch h.symm.trans hbulk

theorem fill_bulk {t : Transfer} (h : t.kind = .bulk) (payload : Bytes) (rest : List Bytes) :
    fill t (payload :: rest) = (some (t.fillBulk payload).2, rest) := by
  unfold fill
  split
  · next hiso => exact nomatch h.symm.trans hiso
  · rfl

/-- An empty queue fills nothing. -/
theorem fill_nil (t : Transfer) : fill t [] = (some t, []) := by
  unfold fill
  split
  · cases List.range t.packets.length <;> rfl
  · rfl

theorem fillSlots_taken {t : Transfer} (room : t.packets.length * t.packetSize ≤ t.buffer.size)
    (slots : List Nat) (payloads : List Bytes) :
    ∃ taken filled rest, fillSlots t slots payloads = (some filled, rest) ∧ payloads = taken ++ rest ∧
      taken.length = min slots.length payloads.length ∧
      fillSlots t slots taken = (some filled, []) ∧ filled.id = t.id := by
  induction slots generalizing t payloads with
  | nil => exact ⟨[], t, payloads, rfl, rfl, (Nat.zero_min _).symm, rfl, rfl⟩
  | cons slot slots ih =>
    cases payloads with
    | nil => exact ⟨[], t, [], rfl, rfl, rfl, rfl, rfl⟩
    | cons payload payloads =>
      obtain ⟨stored, one, hone, hid, hroom⟩ := exists_fillPacket? room slot payload .completed
      obtain ⟨taken, filled, rest, hfill, hpayloads, hcount, htaken, hid'⟩ := ih hroom payloads
      refine ⟨payload :: taken, filled, rest, ?_, ?_, ?_, ?_, hid'.trans hid⟩
      · rw [fillSlots, hone]
        exact hfill
      · rw [hpayloads, List.cons_append]
      · rw [List.length_cons, hcount, List.length_cons, List.length_cons, Nat.succ_min_succ]
      · rw [fillSlots, hone]
        exact htaken

/-- A transfer with room takes payloads from the front of the queue, as many as it has places for, and
needs no others. -/
theorem fill_taken {t : Transfer} (room : t.HasRoom) (payloads : List Bytes) :
    ∃ taken filled rest, fill t payloads = (some filled, rest) ∧ payloads = taken ++ rest ∧
      taken.length = min t.places payloads.length ∧ fill t taken = (some filled, []) ∧
      filled.id = t.id := by
  cases hkind : t.kind with
  | isochronous =>
    have hslots : t.places = (List.range' 0 t.packets.length).length := by
      rw [places, hkind, List.length_range']
    simp only [fill_isochronous hkind, hslots]
    exact fillSlots_taken (room hkind) _ payloads
  | bulk =>
    have hplaces : t.places = 1 := by rw [places, hkind]
    rw [hplaces]
    cases payloads with
    | nil => exact ⟨[], t, [], fill_nil t, rfl, rfl, fill_nil t, rfl⟩
    | cons payload rest =>
      refine ⟨[payload], _, rest, fill_bulk hkind payload rest, rfl, ?_, fill_bulk hkind payload [],
        rfl⟩
      rw [List.length_singleton, List.length_cons, Nat.min_eq_left (Nat.succ_pos _)]

/-- A transfer that was just prepared takes payloads from the front of the queue, and what is read from
it is what it took. -/
theorem fill_spec {t : Transfer} (h : t.Formed) (blank : t.Blank) {payloads : List Bytes}
    (whole : ∀ p ∈ payloads, Whole t.packetSize p) :
    ∃ filled rest, fill t payloads = (some filled, rest) ∧ filled.payloads ++ rest = payloads ∧
      filled.Formed ∧ filled.id = t.id ∧ filled.packetSize = t.packetSize := by
  cases hkind : t.kind with
  | isochronous =>
    obtain ⟨filled, rest, hfill, hframe, hslotted, hread⟩ :=
      fillSlots_spec (h.slots hkind) (Nat.zero_add _) (fun i _ => blank.slot? i) whole
    have hkind' : filled.kind = .isochronous := (congrArg (·.kind) hframe).trans hkind
    refine ⟨filled, rest, (fill_isochronous hkind payloads).trans hfill, ?_,
      ⟨fun _ => hslotted, fun hbulk => absurd (hkind'.symm.trans hbulk) nofun⟩,
      congrArg (·.id) hframe, congrArg (·.packetSize) hframe⟩
    rw [payloads_of_isochronous hkind', hread]
    rfl
  | bulk =>
    cases payloads with
    | nil =>
      refine ⟨t, [], fill_nil t, ?_, h, rfl, rfl⟩
      rw [blank.payloads]
      rfl
    | cons payload rest =>
      obtain ⟨hsome, hle⟩ := whole payload List.mem_cons_self
      obtain ⟨hpackets, hsize⟩ := h.whole hkind
      have hformed : (t.fillBulk payload).2.Formed := by
        refine ⟨fun hiso => absurd (hkind.symm.trans hiso) nofun, fun _ => ⟨hpackets, ?_⟩⟩
        show t.packetSize = (t.buffer.write 0 _).size
        rw [hsize, Buffer.size_write]
      refine ⟨_, rest, fill_bulk hkind payload rest, ?_, hformed, rfl, rfl⟩
      rw [payloads_fillBulk h hkind hsome hle]
      rfl

end Loopback

end UsbVideo
