import UsbVideo.Device.Loopback
import UsbVideo.Proofs.Device.Filling
import UsbVideo.Proofs.Reassembly.Headers
import UsbVideo.Proofs.Reassembly.RoundTrip

/-!
# Splitting frames into payloads

A camera in memory cuts a frame into payloads of one size, the last of which ends it. Reassembly puts
them together again:

    bytes ──framePayloads──▶ payloads ──pushAll──▶ the same bytes

An empty frame is one payload without data, of which nothing comes. `Splits` are the payloads of one
byte string after the other, each split at a size of its own, and `Splits.reassembled` is what comes of
them.
-/

namespace UsbVideo

namespace Loopback

/-! ### Cuts -/

/-- All cuts but the last. -/
def innerCuts (chunk : Nat) : Nat → Bytes → List Bytes
  | 0, _ => []
  | count + 1, data => data.take chunk :: innerCuts chunk count (data.drop chunk)

/-- What is left for the last cut. -/
def lastCut (chunk count : Nat) (data : Bytes) : Bytes := (data.drop (count * chunk)).take chunk

theorem flatten_innerCuts (chunk count : Nat) (data : Bytes) :
    (innerCuts chunk count data).flatten = data.take (count * chunk) := by
  induction count generalizing data with
  | zero => simp [innerCuts]
  | succ count ih => rw [innerCuts, List.flatten_cons, ih, Nat.succ_mul, Nat.add_comm, List.take_add]

/-- The header of a payload as it is read back. -/
def header (frameId last : Bool) : Header :=
  { length := 2, frameId, endOfFrame := last, endOfHeader := true }

/-- A frame that is cut. -/
def sent (frameId : Bool) (chunk count : Nat) (data : Bytes) : SentFrame where
  init := (innerCuts chunk count data).map (⟨header frameId false, ·⟩)
  last := ⟨header frameId true, lastCut chunk count data⟩
  clean p hp := by
    rcases List.mem_append.mp hp with hp | hp
    · obtain ⟨_, -, rfl⟩ := List.mem_map.mp hp
      exact ⟨rfl, rfl⟩
    · rw [List.mem_singleton.mp hp]
      exact ⟨rfl, rfl⟩
  inner p hp := by
    obtain ⟨_, -, rfl⟩ := List.mem_map.mp hp
    rfl

variable {frameId : Bool} {chunk count : Nat} {data : Bytes}

theorem data_sent (covers : data.length ≤ (count + 1) * chunk) :
    (sent frameId chunk count data).data = data := by
  have hinner : Piece.joined (sent frameId chunk count data).init =
      (innerCuts chunk count data).flatten := by
    simp [Piece.joined, sent, List.flatMap_map]
  rw [SentFrame.data, SentFrame.pieces, Piece.joined_append, Piece.joined_singleton, hinner,
    flatten_innerCuts]
  show data.take (count * chunk) ++ (data.drop (count * chunk)).take chunk = data
  rw [← List.take_add, List.take_of_length_le]
  rwa [Nat.succ_mul] at covers

theorem ended_sent : (sent frameId chunk count data).ended = true := rfl

/-- A payload carries its cut. -/
theorem piece_encode (frameId last : Bool) (data : Bytes) :
    Piece.of? (({ frameId, endOfFrame := last : Header }).encode ++ data) =
      some ⟨header frameId last, data⟩ := by
  have hdata := Header.data_encode { frameId, endOfFrame := last } data
  unfold Piece.of?
  rw [Header.parse_encode]
  dsimp only
  rw [hdata]
  rfl

theorem pieces_framePayloads :
    (framePayloads frameId chunk (count + 1) data).map Piece.of? =
      (sent frameId chunk count data).pieces.map some := by
  induction count generalizing data with
  | zero => simp [framePayloads, piece_encode, sent, SentFrame.pieces, innerCuts, lastCut]
  | succ count ih =>
    rw [framePayloads, List.map_cons, piece_encode, ih]
    have hlast : lastCut chunk (count + 1) data = lastCut chunk count (data.drop chunk) := by
      rw [lastCut, lastCut, List.drop_drop, Nat.succ_mul, Nat.add_comm]
    simp [sent, SentFrame.pieces, innerCuts, hlast]

/-- Every payload has a header and at most one cut. -/
theorem length_framePayloads {payload : Bytes} (h : payload ∈ framePayloads frameId chunk count data) :
    payload ≠ [] ∧ payload.length ≤ chunk + 2 := by
  have hencode (last : Bool) (cut : Bytes) :
      (({ frameId, endOfFrame := last : Header }).encode ++ cut.take chunk) ≠ [] ∧
        (({ frameId, endOfFrame := last : Header }).encode ++ cut.take chunk).length ≤ chunk + 2 := by
    refine ⟨List.cons_ne_nil _ _, ?_⟩
    rw [List.length_append, List.length_take]
    have htwo : ({ frameId, endOfFrame := last : Header }).encode.length = 2 := rfl
    omega
  induction count generalizing data with
  | zero => exact absurd h List.not_mem_nil
  | succ count ih =>
    cases count with
    | zero =>
      rw [List.mem_singleton.mp h]
      exact hencode true data
    | succ count =>
      rcases List.mem_cons.mp h with rfl | h
      · exact hencode false data
      · exact ih h

end Loopback

/-! ### Reassembly -/

/-- The frame that holds these bytes. -/
def FrameLayout.frame (layout : FrameLayout) (sequence : Nat) (data : Bytes) : CompletedFrame :=
  { sequence
    width := layout.width
    height := layout.height
    encoding := layout.encoding
    pts := none
    data }

variable {layout : FrameLayout} {sequence : Nat} {r : Reassembler}

/-- A piece that ends a frame without data leaves nothing. -/
theorem Idle.feed_empty {p : Piece} (h : Idle layout sequence r) (clean : p.header.error = false)
    (last : p.header.endOfFrame = true) (nothing : p.data = []) :
    (r.feed p).1 = [] ∧ Idle layout sequence (r.feed p).2 := by
  have hjoined : Piece.joined ([] ++ [p]) = [] := by
    rw [List.nil_append, Piece.joined_singleton, nothing]
  obtain ⟨hnone, hbounded⟩ := (h.partway p.header.frameId).bounded rfl
  obtain ⟨hnone', htaken⟩ := hbounded.taken rfl fun _ _ => by rw [hjoined]; exact Nat.zero_le _
  have hempty := Array.toList_eq_nil_iff.mp (htaken.buffer.trans hjoined)
  rw [Reassembler.feed_clean clean, hnone, hnone', Reassembler.closed, if_pos last]
  rcases Reassembler.endFrame_cases _ with ⟨hdiscarding, -⟩ | ⟨-, -, hend⟩ | ⟨-, hne, -⟩
  · rw [htaken.discarding] at hdiscarding
    cases hdiscarding
  · rw [hend]
    exact ⟨rfl, htaken.layout_eq, htaken.sequence_eq, htaken.discarding, hempty⟩
  · exact absurd hempty hne

namespace Loopback

variable (frameId : Bool) {chunk count : Nat} {data : Bytes}

/-- No payload of a camera in memory has a presentation time. -/
theorem received_sent (covers : data.length ≤ (count + 1) * chunk) :
    (sent frameId chunk count data).received layout sequence = layout.frame sequence data := by
  have hpts : Piece.firstPts (sent frameId chunk count data).pieces = none := by
    rw [Piece.firstPts, Option.bind_eq_none_iff]
    intro p hp
    rcases List.mem_append.mp (List.mem_of_find?_eq_some hp) with hp | hp
    · obtain ⟨_, -, rfl⟩ := List.mem_map.mp hp
      rfl
    · rw [List.mem_singleton.mp hp]
      rfl
  rw [SentFrame.received, hpts, data_sent covers]
  rfl

/-- A frame that is split comes out again, unless it is empty. -/
theorem pushAll_framePayloads (h : Idle layout sequence r)
    (fits : ∀ max ∈ layout.maxFrameSize, data.length ≤ max)
    (covers : data.length ≤ (count + 1) * chunk) (some : data ≠ []) :
    (r.pushAll (framePayloads frameId chunk (count + 1) data)).1 =
        [.frame (layout.frame (sequence + 1) data)] ∧
      Idle layout (sequence + 1)
        (r.pushAll (framePayloads frameId chunk (count + 1) data)).2 := by
  have hfits : (sent frameId chunk count data).Fits layout := by
    unfold SentFrame.Fits
    rw [data_sent covers]
    exact ⟨some, fits⟩
  rw [r.pushAll_pieces pieces_framePayloads, ← received_sent frameId covers]
  exact SentFrame.feedAll_ended ended_sent hfits h

theorem pushAll_empty (h : Idle layout sequence r) :
    (r.pushAll (framePayloads frameId chunk 1 [])).1 = [] ∧
      Idle layout sequence (r.pushAll (framePayloads frameId chunk 1 [])).2 := by
  have hpieces : (sent frameId chunk 0 []).pieces = [⟨header frameId true, []⟩] := by
    simp [sent, SentFrame.pieces, innerCuts, lastCut]
  obtain ⟨hnone, hidle⟩ := h.feed_empty (p := ⟨header frameId true, []⟩) rfl rfl rfl
  rw [r.pushAll_pieces pieces_framePayloads, hpieces, Reassembler.feedAll, hnone]
  exact ⟨rfl, hidle⟩

end Loopback

/-! ### One frame after the other -/

/-- The payloads of these byte strings, each split at a size of its own that does not exceed `room`. -/
inductive Splits (room : Nat) : List Bytes → List Bytes → Prop
  | nil : Splits room [] []
  | snoc {strings payloads : List Bytes} (h : Splits room strings payloads) (frameId : Bool)
      (data : Bytes) (size : Nat) (least : 3 ≤ size) (most : size ≤ room) :
      Splits room (strings ++ [data])
        (payloads ++ Loopback.framePayloads frameId (max (size - 2) 1)
          (max (divCeil data.length (max (size - 2) 1)) 1) data)

/-- What should come of byte strings: a frame for each that is not empty, numbered from 1. -/
def FrameLayout.frames (layout : FrameLayout) (strings : List Bytes) : List Outcome :=
  (strings.filter (!·.isEmpty)).mapIdx fun i data => .frame (layout.frame (i + 1) data)

theorem FrameLayout.frames_append_empty (strings : List Bytes) :
    layout.frames (strings ++ [[]]) = layout.frames strings := by
  simp [frames]

theorem FrameLayout.frames_append {data : Bytes} (some : data ≠ []) (strings : List Bytes) :
    layout.frames (strings ++ [data]) =
      layout.frames strings ++ [.frame (layout.frame ((layout.frames strings).length + 1) data)] := by
  simp [frames, some, List.mapIdx_concat]

/-- So many parts of this size hold it all. -/
theorem le_divCeil_mul {size : Nat} (pos : 0 < size) (n : Nat) : n ≤ divCeil n size * size := by
  rw [Nat.mul_comm]
  exact (divCeil_le_iff pos).mp (Nat.le_refl _)

namespace Splits

variable {room : Nat} {strings payloads : List Bytes}

theorem whole (h : Splits room strings payloads) : ∀ p ∈ payloads, Loopback.Whole room p := by
  induction h with
  | nil => exact fun p hp => absurd hp List.not_mem_nil
  | snoc _ frameId data size least most ih =>
    intro p hp
    rcases List.mem_append.mp hp with hp | hp
    · exact ih p hp
    · obtain ⟨hsome, hle⟩ := Loopback.length_framePayloads hp
      exact ⟨hsome, by omega⟩

/-- Reassembly gives the strings back. -/
theorem reassembled (h : Splits room strings payloads)
    (fits : ∀ data ∈ strings, ∀ max ∈ layout.maxFrameSize, data.length ≤ max) :
    ((Reassembler.new layout).pushAll payloads).1 = layout.frames strings ∧
      Idle layout (layout.frames strings).length
        ((Reassembler.new layout).pushAll payloads).2 := by
  induction h with
  | nil => exact ⟨rfl, rfl, rfl, rfl, rfl⟩
  | snoc _ frameId data size least most ih =>
    obtain ⟨hframes, hidle⟩ := ih fun data hdata => fits data (List.mem_append_left _ hdata)
    have hdata := fits data (List.mem_append_right _ List.mem_cons_self)
    rw [Reassembler.pushAll_append, hframes]
    have hchunk : 0 < max (size - 2) 1 := by omega
    by_cases hempty : data = []
    · subst hempty
      have hone : max (divCeil ([] : Bytes).length (max (size - 2) 1)) 1 = 1 := by
        have hnone : divCeil 0 (max (size - 2) 1) = 0 := Nat.div_eq_of_lt (by omega)
        rw [List.length_nil, hnone]
        rfl
      rw [hone, FrameLayout.frames_append_empty]
      obtain ⟨hnone, hstill⟩ := Loopback.pushAll_empty frameId hidle
      rw [hnone, List.append_nil]
      exact ⟨rfl, hstill⟩
    · have hcovers := le_divCeil_mul hchunk data.length
      obtain ⟨count, hcount⟩ := Nat.exists_eq_succ_of_ne_zero
        (n := max (divCeil data.length (max (size - 2) 1)) 1) (by omega)
      have hall : data.length ≤ (count + 1) * max (size - 2) 1 := by
        refine Nat.le_trans hcovers (Nat.mul_le_mul_right _ ?_)
        omega
      obtain ⟨hframe, hnext⟩ :=
        Loopback.pushAll_framePayloads frameId hidle hdata hall hempty
      rw [hcount, FrameLayout.frames_append hempty, hframe, List.length_append]
      exact ⟨rfl, hnext⟩

end Splits

end UsbVideo
