import UsbVideo.Proofs.Reassembly.Accounts
import UsbVideo.Proofs.Reassembly.Restart

/-!
# In step again at every end of a frame

What a reassembler did before the end of a frame, or before it was reset, is of no consequence. Two
things are left of it:

    past  ──end of frame──▶  sequence, toggle

The number of frames shifts the numbers of those to come (`pushAll_ahead`). The frame id tells where a
frame ends, and with no frame in progress there is none to end: the next piece puts its own id there,
whatever it finds (`feed_toggle`).
-/

namespace UsbVideo

namespace Reassembler

/-- What comes of payloads is what would come of them in a new reassembler, but for the numbers of the
frames. -/
def StartsAfresh (layout : FrameLayout) (r : Reassembler) : Prop :=
  ∀ later, (r.pushAll later).1 =
    ((new layout).pushAll later).1.map (Outcome.renumber r.sequence)

variable {layout : FrameLayout} {r : Reassembler} {p : Piece}

/-! ### The frame id -/

/-- With nothing in progress there is no boundary in front of the next piece. -/
theorem bounded_of_empty (hbuffer : r.buffer = #[]) (hdiscarding : r.discarding = false)
    (p : Piece) : r.bounded p = ([], r) := by
  unfold bounded
  split
  · rcases r.crossBoundary_cases with ⟨-, hcross⟩ | ⟨hne, -⟩ | ⟨hne, -⟩
    · rw [hcross, ← hdiscarding]
    · exact absurd hbuffer hne
    · exact absurd hbuffer hne
  · rfl

/-- With nothing in progress the frame id that is remembered makes no difference to the next piece. -/
theorem feed_toggle (hbuffer : r.buffer = #[]) (hdiscarding : r.discarding = false)
    (toggle : Option Bool) (p : Piece) : { r with toggle }.feed p = r.feed p := by
  cases herror : p.header.error with
  | true =>
    rw [feed_error herror, feed_error herror]
    rfl
  | false =>
    have hmarked : { r with toggle }.bounded p = ([], { r with toggle }) :=
      @bounded_of_empty { r with toggle } hbuffer hdiscarding p
    rw [feed_clean herror, feed_clean herror, hmarked, bounded_of_empty hbuffer hdiscarding]
    rfl

/-- Nor does it make any to what comes later. -/
theorem pushAll_toggle (hbuffer : r.buffer = #[]) (hdiscarding : r.discarding = false)
    (toggle : Option Bool) (payloads : List Bytes) :
    ({ r with toggle }.pushAll payloads).1 = (r.pushAll payloads).1 := by
  induction payloads with
  | nil => rfl
  | cons payload payloads ih =>
    rw [pushAll_cons, pushAll_cons]
    cases hpiece : Piece.of? payload with
    | none =>
      obtain ⟨e, hpush⟩ := push_of_none hpiece
      rw [hpush, hpush, ih]
    | some p =>
      -- From here on the two are the same.
      rw [push_of_some hpiece, push_of_some hpiece, feed_toggle hbuffer hdiscarding]

/-! ### Behind the end of a frame -/

theorem Tidy.buffer_endFrame (h : r.Tidy) : r.endFrame.2.buffer = #[] := by
  rcases r.endFrame_cases with ⟨hdiscarding, hend⟩ | ⟨-, hbuffer, hend⟩ | ⟨-, -, hend⟩
  · rw [hend]
    exact h.skipping hdiscarding
  · rw [hend]
    exact hbuffer
  · rw [hend]
    rfl

/-- Behind a piece that ends its frame nothing is in progress and nothing is skipped. -/
theorem Tidy.idle_feed (h : r.Tidy) (hclean : p.header.error = false)
    (hend : p.header.endOfFrame = true) :
    Idle r.layout (r.feed p).2.sequence (r.feed p).2 := by
  refine ⟨(h.feed p).layout_eq, rfl, ?_, ?_⟩
  · rw [discarding_feed hclean, hend]
    rfl
  · rw [feed_clean hclean, Reassembler.closed, if_pos hend]
    exact ((h.bounded p).tidy.taken p).tidy.buffer_endFrame

/-- A reassembler at rest starts afresh whatever frame id it remembers. -/
theorem startsAfresh_of_idle {sequence : Nat} (h : Idle layout sequence r) (htidy : r.Tidy)
    (toggle : Option Bool) : { r with toggle }.StartsAfresh layout := by
  intro later
  have hsame : { r with toggle } = { new layout with toggle }.ahead r.sequence := by
    obtain ⟨rfl, -, hdiscarding, hbuffer⟩ := h
    simp [ahead, new, hdiscarding, hbuffer, htidy.untimed hbuffer]
  have hnumber : ({ new layout with toggle }.ahead r.sequence).sequence = r.sequence :=
    Nat.zero_add _
  rw [hsame, pushAll_ahead, hnumber, shift, pushAll_toggle rfl rfl]

end Reassembler

/-- **In step again.** Push any payloads into a new reassembler, and then a sound one that is flagged as
the end of its frame, or reset it. What comes of the payloads behind is what would come of them in a
new reassembler, but for the numbers of the frames. The frame id that is remembered makes no
difference. -/
theorem Reassembler.in_step_again (layout : FrameLayout) (history : List Bytes) :
    let r := ((Reassembler.new layout).pushAll history).2
    (∀ payload p, Piece.of? payload = some p → p.header.error = false →
      p.header.endOfFrame = true →
        (r.push payload).2.StartsAfresh layout ∧
        ∀ toggle, { (r.push payload).2 with toggle }.StartsAfresh layout) ∧
    r.reset.2.StartsAfresh layout ∧
    ∀ toggle, { r.reset.2 with toggle }.StartsAfresh layout := by
  intro r
  have hlayout : r.layout = layout := Reassembler.layout_pushAll layout history
  have htidy : r.Tidy := Tidy.pushAll (tidy_of_empty rfl rfl) history
  refine ⟨fun payload p hp hclean hend => ?_, ?_⟩
  · have hidle := htidy.idle_feed hclean hend
    rw [hlayout] at hidle
    have hafresh := startsAfresh_of_idle hidle (htidy.feed p).tidy
    rw [push_of_some hp]
    exact ⟨hafresh _, hafresh⟩
  · have hidle : Idle layout r.sequence r.reset.2 := ⟨hlayout, rfl, rfl, rfl⟩
    have hafresh := startsAfresh_of_idle hidle (tidy_of_empty rfl rfl)
    exact ⟨hafresh _, hafresh⟩

/-- A frame that overflowed ends while it is skipped, and the next one is completed. -/
theorem Reassembler.in_step_again_overflowed :
    let r := ((Reassembler.new fourBytes).pushAll fiveBytes).2
    r.discarding = true ∧
    Piece.of? [2, 0x82, 6] =
      some ⟨{ length := 2, endOfFrame := true, endOfHeader := true }, [6]⟩ ∧
    (r.push [2, 0x82, 6]).2.StartsAfresh fourBytes ∧
    ((r.push [2, 0x82, 6]).2.pushAll [[2, 0x83, 7]]).1 = [.frame ⟨⟨1, 2, 2, .mjpeg, none⟩, [7]⟩] := by
  intro r
  have hp : Piece.of? [2, 0x82, 6] =
      some ⟨{ length := 2, endOfFrame := true, endOfHeader := true }, [6]⟩ := by decide
  have hafresh := ((in_step_again fourBytes fiveBytes).1 _ _ hp rfl rfl).1
  exact ⟨by decide, hp, hafresh, (hafresh [[2, 0x83, 7]]).trans (by decide)⟩

end UsbVideo
