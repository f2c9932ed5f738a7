import UsbVideo.Proofs.Reassembly.RoundTrip
import UsbVideo.Proofs.Reassembly.Segments

/-!
# Starting again after an error

A payload flagged as in error drops the frame in progress and forgets the frame id. What is left of
the past is the number of frames so far and whether a frame that overflowed is being skipped:

    past  ──error──▶  sequence, discarding

The number only shifts the numbers of the frames to come (`pushAll_ahead`). The skipping does more.
It goes on behind the error, up to the next end of a frame, and the frame that ends there is lost
although nothing is wrong with it (`Skipping.feedAll_ended`). So behind an error a reassembler does
what a new one does exactly if it was not skipping (`error_restarts_iff`).
-/

namespace UsbVideo

/-- The same outcome with frames numbered `n` higher. -/
def Outcome.renumber (n : Nat) : Outcome → Outcome
  | frame f => frame { f with sequence := f.sequence + n }
  | o => o

namespace Reassembler

/-! ### Numbers of frames -/

/-- The same reassembler, `n` frames later. -/
def ahead (r : Reassembler) (n : Nat) : Reassembler := { r with sequence := r.sequence + n }

/-- The same outcomes and the same reassembler behind them, `n` frames later. -/
def shift (n : Nat) (s : List Outcome × Reassembler) : List Outcome × Reassembler :=
  (s.1.map (Outcome.renumber n), s.2.ahead n)

variable (r : Reassembler) (n : Nat)

theorem currentFrame_ahead :
    Outcome.frame (r.ahead n).currentFrame = (Outcome.frame r.currentFrame).renumber n := by
  simp [currentFrame, ahead, Outcome.renumber, Nat.add_right_comm]

theorem finish_ahead : (r.ahead n).finish = r.finish.ahead n := by
  simp [finish, ahead, Nat.add_right_comm]

theorem crossBoundary_ahead : (r.ahead n).crossBoundary = shift n r.crossBoundary := by
  by_cases hempty : r.buffer = #[]
  · simp [crossBoundary, shift, ahead, hempty]
  · have hframe := currentFrame_ahead { r with discarding := false } n
    have hfinish := finish_ahead { r with discarding := false } n
    by_cases hsize : r.layout.expectedSize = some r.buffer.size
    · simp_all [crossBoundary, shift, ahead]
    · simp [crossBoundary, shift, ahead, hempty, hsize, discard, Outcome.renumber]

theorem accept_ahead (pts : Option UInt32) (data : Bytes) :
    (r.ahead n).accept pts data = shift n (r.accept pts data) := by
  by_cases hskip : data.isEmpty || r.discarding
  · simp [accept, shift, ahead, hskip]
  · by_cases hexceeds : exceeds r.layout (r.buffer.size + data.length)
    · simp [accept, shift, ahead, hskip, hexceeds, discard, Outcome.renumber]
    · simp [accept, shift, ahead, hskip, hexceeds]

theorem endFrame_ahead : (r.ahead n).endFrame = shift n r.endFrame := by
  by_cases hdiscarding : r.discarding
  · simp [endFrame, shift, ahead, hdiscarding]
  · by_cases hempty : r.buffer = #[]
    · simp [endFrame, shift, ahead, hdiscarding, hempty]
    · have hframe := currentFrame_ahead r n
      have hfinish := finish_ahead r n
      simp_all [endFrame, shift, ahead]

theorem feed_ahead (p : Piece) : (r.ahead n).feed p = shift n (r.feed p) := by
  cases herror : p.header.error with
  | true =>
    rw [feed_error herror, feed_error herror]
    rfl
  | false =>
    have hbounded : (r.ahead n).bounded p = shift n (r.bounded p) := by
      have htoggle : (r.ahead n).toggle = r.toggle := rfl
      rw [bounded, bounded, crossBoundary_ahead, htoggle]
      split <;> rfl
    have htaken (r : Reassembler) : (r.ahead n).taken p = shift n (r.taken p) :=
      accept_ahead { r with toggle := some p.header.frameId } n p.header.pts p.data
    have hclosed (r : Reassembler) : (r.ahead n).closed p = shift n (r.closed p) := by
      rw [closed, closed, endFrame_ahead]
      split <;> rfl
    rw [feed_clean herror, feed_clean herror, hbounded]
    simp [shift, htaken, hclosed]

theorem push_ahead (payload : Bytes) : (r.ahead n).push payload = shift n (r.push payload) := by
  unfold push
  cases Header.parse payload with
  | error e => rfl
  | ok header => exact feed_ahead r n ⟨header, header.data payload⟩

/-- The number of frames so far shifts the numbers of those to come and does nothing else. -/
theorem pushAll_ahead (payloads : List Bytes) :
    (r.ahead n).pushAll payloads = shift n (r.pushAll payloads) := by
  induction payloads generalizing r with
  | nil => rfl
  | cons payload payloads ih =>
    rw [pushAll_cons, pushAll_cons, push_ahead]
    dsimp only [shift]
    rw [ih]
    simp [shift]

/-! ### Skipping a frame -/

/-- A frame is skipped, and the pieces of the frame with this id do not end it by a flip. -/
structure Skipping (id : Bool) (r : Reassembler) : Prop where
  discarding : r.discarding = true
  toggle : r.toggle ≠ some !id

variable {id : Bool} {r : Reassembler} {p : Piece}

/-- Nothing comes of a piece while a frame is skipped; the skipping goes on unless the piece is
flagged as the end. -/
theorem Skipping.feed (h : Skipping id r) (hclean : p.header.error = false)
    (hid : p.header.frameId = id) :
    (r.feed p).1 = [] ∧ (p.header.endOfFrame = false → Skipping id (r.feed p).2) := by
  have hbounded : r.bounded p = ([], r) := by
    rw [bounded, hid, if_neg h.toggle]
  have htaken : r.taken p = ([], { r with toggle := some p.header.frameId }) := by
    rcases accept_cases { r with toggle := some p.header.frameId } p.header.pts p.data with
      ⟨-, haccept⟩ | ⟨-, hdiscarding, -⟩ | ⟨-, hdiscarding, -⟩
    · exact haccept
    · exact absurd (hdiscarding.symm.trans h.discarding) Bool.false_ne_true
    · exact absurd (hdiscarding.symm.trans h.discarding) Bool.false_ne_true
  rw [feed_clean hclean, hbounded, htaken, closed]
  split
  · next hend =>
    refine ⟨?_, fun hinner => absurd (hinner.symm.trans hend) Bool.false_ne_true⟩
    rcases endFrame_cases { r with toggle := some p.header.frameId } with
      ⟨-, hfinal⟩ | ⟨hdiscarding, -⟩ | ⟨hdiscarding, -⟩
    · rw [hfinal]
      rfl
    · exact absurd (hdiscarding.symm.trans h.discarding) Bool.false_ne_true
    · exact absurd (hdiscarding.symm.trans h.discarding) Bool.false_ne_true
  · exact ⟨rfl, fun _ => ⟨h.discarding, by simp [hid]⟩⟩

theorem Skipping.feedAll (pieces : List Piece) (h : Skipping id r)
    (hclean : ∀ p ∈ pieces, p.header.error = false ∧ p.header.frameId = id)
    (hinner : ∀ p ∈ pieces, p.header.endOfFrame = false) :
    (r.feedAll pieces).1 = [] ∧ Skipping id (r.feedAll pieces).2 := by
  induction pieces generalizing r with
  | nil => exact ⟨rfl, h⟩
  | cons p ps ih =>
    obtain ⟨herror, hid⟩ := hclean p List.mem_cons_self
    obtain ⟨hnone, hgoesOn⟩ := h.feed herror hid
    obtain ⟨hrest, hlater⟩ := ih (hgoesOn (hinner p List.mem_cons_self))
      (fun q hq => hclean q (List.mem_cons_of_mem p hq))
      (fun q hq => hinner q (List.mem_cons_of_mem p hq))
    rw [Reassembler.feedAll, hnone, hrest]
    exact ⟨rfl, hlater⟩

/-- A frame that arrives while another is skipped is lost as a whole. -/
theorem Skipping.feedAll_pieces {f : SentFrame} (h : Skipping f.id r) :
    (r.feedAll f.pieces).1 = [] := by
  have hclean : ∀ p ∈ f.init, p.header.error = false ∧ p.header.frameId = f.id :=
    fun p hp => f.clean p (List.mem_append_left _ hp)
  obtain ⟨hnone, hskipping⟩ := h.feedAll f.init hclean f.inner
  obtain ⟨hlast, -⟩ := hskipping.feed (f.clean f.last (by simp)).1 rfl
  rw [SentFrame.pieces, feedAll_append, hnone, Reassembler.feedAll, hlast]
  rfl

/-! ### Behind an error -/

/-- A new reassembler, but for the skipping of a frame. -/
def resumed (layout : FrameLayout) (discarding : Bool) : Reassembler :=
  { Reassembler.new layout with discarding }

/-- A payload in error leaves the number of frames and the skipping, and nothing else. -/
theorem push_error {payload : Bytes} (hp : Piece.of? payload = some p)
    (herror : p.header.error = true) (r : Reassembler) :
    (r.push payload).2 = (resumed r.layout r.discarding).ahead r.sequence := by
  rw [push_of_some hp, feed_error herror]
  simp [resumed, ahead, discard, Reassembler.new]

/-- Nothing comes in front of a piece that is sent alone. -/
theorem inner_nil : ∀ p ∈ ([] : List Piece), p.header.endOfFrame = false := nofun

/-- The frame of one byte: it is short, flagged as the end, and nothing is wrong with it. -/
def oneByte : SentFrame :=
  { init := []
    last := ⟨{ length := 2, endOfFrame := true, endOfHeader := true }, [0]⟩
    clean := by decide
    inner := inner_nil }

/-- Something comes of it in a new reassembler, a frame or an overflow. -/
theorem feedAll_oneByte_ne_nil (layout : FrameLayout) :
    ((Reassembler.new layout).feedAll oneByte.pieces).1 ≠ [] := by
  have hfed : (Reassembler.new layout).feedAll oneByte.pieces =
      (((Reassembler.new layout).feed oneByte.last).1 ++ [],
        ((Reassembler.new layout).feed oneByte.last).2) := rfl
  have hbounded : (Reassembler.new layout).bounded oneByte.last = ([], Reassembler.new layout) := rfl
  have htaken : (Reassembler.new layout).taken oneByte.last =
      { Reassembler.new layout with toggle := some false }.accept none [0] := rfl
  rw [hfed, feed_clean rfl, hbounded, htaken]
  rcases accept_cases { Reassembler.new layout with toggle := some false } none [0] with
    ⟨hskip, -⟩ | ⟨-, -, -, haccept⟩ | ⟨-, -, -, haccept⟩
  · simp [Reassembler.new] at hskip
  · rw [haccept]
    simp
  · rw [haccept]
    simp [closed, oneByte, endFrame, Reassembler.new]

end Reassembler

/-- **What an error leaves behind.** Let a payload in error come after any history. What comes of the
payloads behind it is what would come of them in a new reassembler, but for the numbers of the frames,
for all of them exactly if no frame that overflowed was being skipped. The next whole frame comes out
in that case and is lost in the other. -/
theorem Reassembler.error_restarts_iff (layout : FrameLayout) (history : List Bytes) {bad : Bytes}
    {p : Piece} (hp : Piece.of? bad = some p) (herror : p.header.error = true) :
    let r := ((Reassembler.new layout).pushAll history).2
    ((∀ later, ((r.push bad).2.pushAll later).1 =
        ((Reassembler.new layout).pushAll later).1.map (Outcome.renumber r.sequence)) ↔
      r.discarding = false) ∧
    ∀ f : SentFrame, f.ended = true → f.Fits layout →
      ∀ payloads, payloads.filterMap Piece.of? = f.pieces →
        Outcome.frames ((r.push bad).2.pushAll payloads).1 =
          if r.discarding then [] else [f.received layout (r.sequence + 1)] := by
  intro r
  have hlayout : r.layout = layout := Reassembler.layout_pushAll layout history
  have hafter : (r.push bad).2 = (Reassembler.resumed layout r.discarding).ahead r.sequence := by
    rw [Reassembler.push_error hp herror, hlayout]
  have hskipping : r.discarding = true →
      ∀ f : SentFrame, Reassembler.Skipping f.id (r.push bad).2 := by
    intro hdiscarding f
    rw [hafter]
    exact ⟨hdiscarding, nofun⟩
  constructor
  · constructor
    · intro hsame
      by_contra hdiscarding
      rw [Bool.not_eq_false] at hdiscarding
      -- The frame of one byte tells the two apart.
      have hpieces (r : Reassembler) :
          (r.pushAll [[2, 0x82, 0]]).1 = (r.feedAll Reassembler.oneByte.pieces).1 := rfl
      have hskip := hskipping hdiscarding Reassembler.oneByte
      have hone := hsame [[2, 0x82, 0]]
      rw [hpieces, hpieces, hskip.feedAll_pieces] at hone
      exact Reassembler.feedAll_oneByte_ne_nil layout (List.map_eq_nil_iff.mp hone.symm)
    · intro hdiscarding later
      rw [hafter, hdiscarding, Reassembler.pushAll_ahead]
      rfl
  · intro f hended hfits payloads hpayloads
    rw [Reassembler.frames_pushAll, hpayloads]
    cases hdiscarding : r.discarding with
    | true =>
      rw [(hskipping hdiscarding f).feedAll_pieces]
      rfl
    | false =>
      have hidle : Idle layout r.sequence (r.push bad).2 := by
        rw [hafter]
        exact ⟨rfl, Nat.zero_add _, hdiscarding, rfl⟩
      rw [(SentFrame.feedAll_ended hended hfits hidle).1]
      rfl

/-! ### A frame lost behind an error -/

/-- At most four bytes a frame. -/
def fourBytes : FrameLayout := { encoding := .mjpeg, width := 2, height := 2, maxFrameSize := some 4 }

/-- Five bytes of a frame of four, which overflow. -/
def fiveBytes : List Bytes := [[2, 0x80, 1, 2, 3], [2, 0x80, 4, 5]]

/-- A payload in error comes while the frame is skipped. -/
theorem error_restarts_overflowed :
    (Piece.of? [2, 0xC0] = some ⟨{ length := 2, error := true, endOfHeader := true }, []⟩) ∧
    let r := ((Reassembler.new fourBytes).pushAll fiveBytes).2
    ((∀ later, ((r.push [2, 0xC0]).2.pushAll later).1 =
        ((Reassembler.new fourBytes).pushAll later).1.map (Outcome.renumber r.sequence)) ↔
      r.discarding = false) ∧
    ∀ f : SentFrame, f.ended = true → f.Fits fourBytes →
      ∀ payloads, payloads.filterMap Piece.of? = f.pieces →
        Outcome.frames ((r.push [2, 0xC0]).2.pushAll payloads).1 =
          if r.discarding then [] else [f.received fourBytes (r.sequence + 1)] :=
  have hp : Piece.of? [2, 0xC0] =
      some ⟨{ length := 2, error := true, endOfHeader := true }, []⟩ := by decide
  ⟨hp, Reassembler.error_restarts_iff fourBytes fiveBytes hp rfl⟩

/-- A whole frame of two bytes behind the error is lost. A new reassembler completes it. -/
theorem frame_lost_behind_error :
    let r := ((Reassembler.new fourBytes).pushAll (fiveBytes ++ [[2, 0xC0]])).2
    (r.pushAll [[2, 0x82, 6, 7]]).1 = [] ∧
      ((Reassembler.new fourBytes).pushAll [[2, 0x82, 6, 7]]).1 =
        [.frame ⟨⟨1, 2, 2, .mjpeg, none⟩, [6, 7]⟩] := by
  decide

end UsbVideo
