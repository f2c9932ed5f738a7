import Mathlib.Data.List.Forall2
import UsbVideo.Proofs.Reassembly.Piece

/-!
# Frames are segments of the stream

Whatever payloads arrive, every frame that comes out is the data of consecutive pieces that belong
together, from where a frame may begin to where one ends, and no piece is in two frames
(`frames_are_segments`).

The buffer stands for the pieces since `start`, and `start` only moves forward:

    pieces:   ─── frame ───┬──── skipped ────┬── buffer ──▶
              spans        │                 start

`Building` is the invariant that ties buffer, frame id and skipping to the pieces so far, `Cut` that
the frames so far lie in front of `start`. A piece meets them in the three steps of `feed_clean`:
`Building.bounded`, `Ready.taken`, `Ready.closed`.
-/

namespace UsbVideo

/-- The numbers of consecutive pieces, from `first` up to and without `stop`. -/
structure Span where
  first : Nat
  stop : Nat
  deriving DecidableEq

/-- The pieces with these numbers. -/
def Span.slice (s : Span) (pieces : List Piece) : List Piece := (pieces.take s.stop).drop s.first

theorem Span.slice_append {s : Span} {pieces : List Piece} (h : s.stop ≤ pieces.length)
    (more : List Piece) : s.slice (pieces ++ more) = s.slice pieces := by
  rw [slice, slice, List.take_append_of_le_length h]

/-- A frame with this id may begin behind these pieces: they are none, or the last one ended a frame,
was in error or belonged to another frame. -/
def Opens (before : List Piece) (id : Bool) : Prop :=
  ∀ p ∈ before.getLast?,
    p.header.endOfFrame = true ∨ p.header.error = true ∨ p.header.frameId ≠ id

/-- The pieces of the span are a whole frame with this data. -/
structure WholeFrame (layout : FrameLayout) (pieces : List Piece) (id : Bool) (s : Span)
    (data : Bytes) : Prop where
  nonempty : s.first < s.stop
  within : s.stop ≤ pieces.length
  carried : data = Piece.joined (s.slice pieces)
  clean : ∀ p ∈ s.slice pieces, p.header.error = false ∧ p.header.frameId = id
  opens : Opens (pieces.take s.first) id
  /-- No piece but the last is flagged as the end. -/
  inner : ∀ p ∈ (s.slice pieces).dropLast, p.header.endOfFrame = false
  /-- The last piece is flagged as the end, or the data has the size of a frame and the next piece is
  one of another frame. -/
  closes : (∃ p ∈ (s.slice pieces).getLast?, p.header.endOfFrame = true) ∨
    (layout.encoding.isCompressed = false ∧ layout.expectedSize = some data.length ∧
      ∃ p ∈ pieces[s.stop]?, p.header.error = false ∧ p.header.frameId = !id)

/-- A size is expected of uncompressed frames only. -/
theorem FrameLayout.uncompressed_of_expectedSize {layout : FrameLayout} {n : Nat}
    (h : layout.expectedSize = some n) : layout.encoding.isCompressed = false := by
  cases hc : layout.encoding.isCompressed with
  | false => rfl
  | true => simp [FrameLayout.expectedSize, FrameLayout.expectedWord, hc] at h

theorem WholeFrame.append {layout : FrameLayout} {pieces : List Piece} {id : Bool} {s : Span}
    {data : Bytes} (h : WholeFrame layout pieces id s data) (more : List Piece) :
    WholeFrame layout (pieces ++ more) id s data := by
  have hslice := Span.slice_append h.within more
  have hfirst : s.first ≤ pieces.length := Nat.le_trans (Nat.le_of_lt h.nonempty) h.within
  refine ⟨h.nonempty, ?_, ?_, ?_, ?_, ?_, ?_⟩
  · rw [List.length_append]
    exact Nat.le_add_right_of_le h.within
  · rw [hslice]
    exact h.carried
  · rw [hslice]
    exact h.clean
  · rw [List.take_append_of_le_length hfirst]
    exact h.opens
  · rw [hslice]
    exact h.inner
  · rw [hslice]
    rcases h.closes with hend | ⟨hraw, hsize, p, hp, hnext⟩
    · exact .inl hend
    · have hlt : s.stop < pieces.length := (List.getElem?_eq_some_iff.mp hp).1
      refine .inr ⟨hraw, hsize, p, ?_, hnext⟩
      rw [List.getElem?_append_left hlt]
      exact hp

/-! ### Frames in order -/

/-- The frames are whole, do not overlap, come in stream order and end before `start`. -/
def Cut (layout : FrameLayout) (pieces : List Piece) (frames : List CompletedFrame) (start : Nat) :
    Prop :=
  ∃ spans : List Span,
    List.Forall₂ (fun f s => ∃ id, WholeFrame layout pieces id s f.data) frames spans ∧
    spans.Pairwise (fun s t => s.stop ≤ t.first) ∧ ∀ s ∈ spans, s.stop ≤ start

namespace Cut

variable {layout : FrameLayout} {pieces : List Piece} {frames : List CompletedFrame}
  {start start' : Nat}

theorem none : Cut layout [] [] 0 := ⟨[], .nil, .nil, fun _ hs => absurd hs List.not_mem_nil⟩

theorem append (h : Cut layout pieces frames start) (more : List Piece) :
    Cut layout (pieces ++ more) frames start := by
  obtain ⟨spans, hwhole, hrest⟩ := h
  exact ⟨spans, hwhole.imp fun _ _ ⟨id, hf⟩ => ⟨id, hf.append more⟩, hrest⟩

theorem mono (h : Cut layout pieces frames start) (hle : start ≤ start') :
    Cut layout pieces frames start' := by
  obtain ⟨spans, hwhole, horder, hbefore⟩ := h
  exact ⟨spans, hwhole, horder, fun s hs => Nat.le_trans (hbefore s hs) hle⟩

theorem snoc {f : CompletedFrame} {id : Bool} {stop : Nat} (h : Cut layout pieces frames start)
    (hf : WholeFrame layout pieces id ⟨start, stop⟩ f.data) :
    Cut layout pieces (frames ++ [f]) stop := by
  obtain ⟨spans, hwhole, horder, hbefore⟩ := h
  have hstop : start ≤ stop := Nat.le_of_lt hf.nonempty
  refine ⟨spans ++ [⟨start, stop⟩], ?_, ?_, ?_⟩
  · exact List.rel_append hwhole (.cons ⟨id, hf⟩ .nil)
  · refine List.pairwise_append.mpr ⟨horder, List.pairwise_singleton _ _, ?_⟩
    intro s hs t ht
    rw [List.mem_singleton.mp ht]
    exact hbefore s hs
  · intro s hs
    rcases List.mem_append.mp hs with hs | hs
    · exact Nat.le_trans (hbefore s hs) hstop
    · cases List.mem_singleton.mp hs
      exact Nat.le_refl stop

end Cut

/-! ### The frame in progress -/

/-- Between two pieces: what is in the buffer came with the pieces since `start`, all of one frame. -/
structure Building (layout : FrameLayout) (past : List Piece) (start : Nat) (r : Reassembler) :
    Prop where
  layout_eq : r.layout = layout
  within : start ≤ past.length
  same : ∀ q ∈ past.drop start, q.header.error = false ∧ q.header.endOfFrame = false ∧
    r.toggle = some q.header.frameId
  opens : ∀ id, past.drop start = [] ∨ r.toggle = some id → Opens (past.take start) id
  buffer : r.buffer.toList = if r.discarding then [] else Piece.joined (past.drop start)

/-- Behind a boundary, if there was one: the pieces since `start` are of the frame with this id, and
so will the next one be. -/
structure Ready (layout : FrameLayout) (past : List Piece) (start : Nat) (id : Bool)
    (r : Reassembler) : Prop where
  layout_eq : r.layout = layout
  within : start ≤ past.length
  same : ∀ q ∈ past.drop start, q.header.error = false ∧ q.header.endOfFrame = false ∧
    q.header.frameId = id
  opens : Opens (past.take start) id
  buffer : r.buffer.toList = if r.discarding then [] else Piece.joined (past.drop start)

/-- Behind the data of the piece `p`. -/
structure Holding (layout : FrameLayout) (past : List Piece) (start : Nat) (p : Piece)
    (r : Reassembler) : Prop where
  layout_eq : r.layout = layout
  toggle : r.toggle = some p.header.frameId
  buffer : r.buffer.toList = if r.discarding then [] else Piece.joined (past.drop start ++ [p])

variable {layout : FrameLayout} {past : List Piece} {frames : List CompletedFrame} {start : Nat}
  {p : Piece} {r : Reassembler}

/-- Nothing is in progress right behind the last piece, where any frame may begin. -/
theorem Building.atEnd (hlayout : r.layout = layout) (hbuffer : r.buffer = #[])
    (hopens : ∀ id, Opens past id) : Building layout past past.length r := by
  refine ⟨hlayout, Nat.le_refl _, ?_, ?_, ?_⟩
  · simp
  · intro id _
    rw [List.take_length]
    exact hopens id
  · simp [hbuffer]

/-- The buffer holds something only if pieces stand for it. -/
theorem Building.pieces_ne_nil (h : Building layout past start r) (hbuffer : r.buffer ≠ #[]) :
    past.drop start ≠ [] ∧ r.buffer.toList = Piece.joined (past.drop start) := by
  have heq := h.buffer
  cases hdiscarding : r.discarding with
  | true =>
    rw [hdiscarding, if_pos rfl] at heq
    exact absurd (Array.toList_eq_nil_iff.mp heq) hbuffer
  | false =>
    rw [hdiscarding, if_neg Bool.false_ne_true] at heq
    refine ⟨fun hnil => hbuffer ?_, heq⟩
    rw [hnil] at heq
    exact Array.toList_eq_nil_iff.mp heq

/-- At a flip of the frame id a frame may begin behind the pieces so far. -/
theorem Building.opens_end (h : Building layout past start r)
    (hflip : r.toggle = some !p.header.frameId) : Opens past p.header.frameId := by
  intro q hq
  -- Behind the end of a frame any may begin; else the last piece is of the frame in progress.
  by_cases hnil : past.drop start = []
  · have hopens := h.opens p.header.frameId (.inl hnil)
    rw [List.take_of_length_le (List.drop_eq_nil_iff.mp hnil)] at hopens
    exact hopens q hq
  · have hmem : q ∈ past.drop start := by
      rw [← List.take_append_drop start past, List.getLast?_append_of_ne_nil _ hnil] at hq
      exact List.mem_of_getLast? hq
    have htoggle := (h.same q hmem).2.2
    right
    right
    intro hid
    rw [hflip, hid] at htoggle
    simp at htoggle

/-- A frame that a flip completes is whole: the piece `p` belongs to another one. -/
theorem Building.wholeFrame (h : Building layout past start r) (hclean : p.header.error = false)
    (hflip : r.toggle = some !p.header.frameId) (hbuffer : r.buffer ≠ #[])
    (hsize : r.layout.expectedSize = some r.buffer.size) :
    WholeFrame layout (past ++ [p]) (!p.header.frameId) ⟨start, past.length⟩
      r.currentFrame.data := by
  obtain ⟨hne, heq⟩ := h.pieces_ne_nil hbuffer
  have hslice : Span.slice ⟨start, past.length⟩ (past ++ [p]) = past.drop start := by
    rw [Span.slice_append (Nat.le_refl _), Span.slice, List.take_length]
  have hlt : start < past.length := by
    by_contra hge
    exact hne (List.drop_eq_nil_iff.mpr (Nat.le_of_not_lt hge))
  rw [h.layout_eq] at hsize
  refine ⟨hlt, ?_, ?_, ?_, ?_, ?_, .inr ⟨?_, ?_, p, ?_, hclean, ?_⟩⟩
  · rw [List.length_append]
    exact Nat.le_add_right _ _
  · rw [hslice]
    exact heq
  · rw [hslice]
    intro q hq
    obtain ⟨herror, -, htoggle⟩ := h.same q hq
    rw [hflip] at htoggle
    exact ⟨herror, (Option.some.inj htoggle).symm⟩
  · rw [List.take_append_of_le_length h.within]
    exact h.opens _ (.inr hflip)
  · rw [hslice]
    exact fun q hq => (h.same q ((List.dropLast_sublist _).subset hq)).2.1
  · exact FrameLayout.uncompressed_of_expectedSize hsize
  · exact hsize
  · simp
  · simp

/-- At a flip of the frame id the next frame starts afresh, and a frame that comes out is whole. -/
theorem Building.bounded (h : Building layout past start r)
    (hcut : Cut layout past frames start) (hclean : p.header.error = false) :
    ∃ start', Ready layout past start' p.header.frameId (r.bounded p).2 ∧
      Cut layout (past ++ [p]) (frames ++ Outcome.frames (r.bounded p).1) start' := by
  have hcut' := hcut.append [p]
  unfold Reassembler.bounded
  split
  · next hflip =>
    have hopens := h.opens_end hflip
    have hready : ∀ r' : Reassembler, r'.layout = layout → r'.buffer = #[] →
        Ready layout past past.length p.header.frameId r' := by
      intro r' hlayout hbuffer
      refine ⟨hlayout, Nat.le_refl _, by simp, ?_, by simp [hbuffer]⟩
      rw [List.take_length]
      exact hopens
    have hnoFrame : Cut layout (past ++ [p]) (frames ++ []) past.length := by
      rw [List.append_nil]
      exact hcut'.mono h.within
    refine ⟨past.length, ?_⟩
    rcases r.crossBoundary_cases with ⟨hbuffer, hcross⟩ | ⟨hbuffer, hsize, hcross⟩ |
      ⟨-, -, hcross⟩
    · rw [hcross]
      exact ⟨hready _ h.layout_eq hbuffer, hnoFrame⟩
    · rw [hcross]
      exact ⟨hready _ h.layout_eq rfl, hcut'.snoc (h.wholeFrame hclean hflip hbuffer hsize)⟩
    · rw [hcross]
      exact ⟨hready _ h.layout_eq rfl, hnoFrame⟩
  · next hstay =>
    rw [Outcome.frames_nil, List.append_nil]
    refine ⟨start, ⟨h.layout_eq, h.within, ?_, ?_, h.buffer⟩, hcut'⟩
    · intro q hq
      obtain ⟨herror, hend, htoggle⟩ := h.same q hq
      refine ⟨herror, hend, ?_⟩
      by_contra hid
      apply hstay
      rw [htoggle, Bool.eq_not_of_ne hid]
    · -- No piece stands for the buffer, or the id is that of those that do.
      apply h.opens
      cases hpieces : past.drop start with
      | nil => exact .inl rfl
      | cons q qs =>
        have htoggle := (h.same q (by rw [hpieces]; exact List.mem_cons_self)).2.2
        right
        rw [htoggle] at hstay ⊢
        simpa using hstay

/-! ### Data and end of frame -/

/-- The data of a piece joins the buffer, unless its frame is skipped. -/
theorem Ready.taken (h : Ready layout past start p.header.frameId r) :
    Outcome.frames (r.taken p).1 = [] ∧ Holding layout past start p (r.taken p).2 := by
  have heq := h.buffer
  unfold Reassembler.taken
  rcases Reassembler.accept_cases { r with toggle := some p.header.frameId } p.header.pts p.data with
    ⟨hskip, haccept⟩ | ⟨-, -, -, haccept⟩ | ⟨-, hdiscarding, -, haccept⟩
  · rw [haccept]
    refine ⟨rfl, h.layout_eq, rfl, ?_⟩
    rw [heq]
    split
    · rfl
    · next hdiscarding =>
      have hnil : p.data = [] := hskip.resolve_right hdiscarding
      rw [Piece.joined_append, Piece.joined_singleton, hnil, List.append_nil]
  · rw [haccept]
    exact ⟨rfl, h.layout_eq, rfl, rfl⟩
  · rw [haccept]
    refine ⟨rfl, h.layout_eq, rfl, ?_⟩
    dsimp only at hdiscarding ⊢
    rw [hdiscarding, if_neg Bool.false_ne_true] at heq
    rw [hdiscarding, if_neg Bool.false_ne_true, Piece.joined_append, Piece.joined_singleton, ← heq]
    simp

/-- A frame that an end flag completes is whole. -/
theorem Ready.wholeFrame {r' : Reassembler} (h : Ready layout past start p.header.frameId r)
    (h' : Holding layout past start p r') (hclean : p.header.error = false)
    (hend : p.header.endOfFrame = true) (hdiscarding : r'.discarding = false) :
    WholeFrame layout (past ++ [p]) p.header.frameId ⟨start, (past ++ [p]).length⟩
      r'.currentFrame.data := by
  have hslice : Span.slice ⟨start, (past ++ [p]).length⟩ (past ++ [p]) = past.drop start ++ [p] := by
    rw [Span.slice, List.take_length, List.drop_append_of_le_length h.within]
  have heq := h'.buffer
  rw [hdiscarding, if_neg Bool.false_ne_true] at heq
  refine ⟨?_, Nat.le_refl _, ?_, ?_, ?_, ?_, .inl ⟨p, ?_, hend⟩⟩
  · rw [List.length_append]
    exact Nat.lt_succ_of_le h.within
  · rw [hslice]
    exact heq
  · rw [hslice]
    intro q hq
    rcases List.mem_append.mp hq with hq | hq
    · exact ⟨(h.same q hq).1, (h.same q hq).2.2⟩
    · rw [List.mem_singleton.mp hq]
      exact ⟨hclean, rfl⟩
  · rw [List.take_append_of_le_length h.within]
    exact h.opens
  · rw [hslice, List.dropLast_concat]
    exact fun q hq => (h.same q hq).2.1
  · rw [hslice]
    simp

/-- Behind the end of a frame nothing is in progress, and a frame that comes out is whole. -/
theorem Ready.closed {r' : Reassembler} (h : Ready layout past start p.header.frameId r)
    (h' : Holding layout past start p r') (hcut : Cut layout (past ++ [p]) frames start)
    (hclean : p.header.error = false) :
    ∃ start', Building layout (past ++ [p]) start' (r'.closed p).2 ∧
      Cut layout (past ++ [p]) (frames ++ Outcome.frames (r'.closed p).1) start' := by
  have hlast : ∀ q ∈ (past ++ [p]).getLast?, q = p := by
    intro q hq
    rw [List.getLast?_concat, Option.mem_some_iff] at hq
    exact hq.symm
  unfold Reassembler.closed
  split
  · next hend =>
    have hopens : ∀ id, Opens (past ++ [p]) id := by
      intro id q hq
      rw [hlast q hq]
      exact .inl hend
    have hnoFrame : Cut layout (past ++ [p]) (frames ++ []) (past ++ [p]).length := by
      rw [List.append_nil]
      rw [List.length_append]
      exact hcut.mono (Nat.le_add_right_of_le h.within)
    refine ⟨(past ++ [p]).length, ?_⟩
    -- A frame that was skipped ends here, there is none, or one comes out.
    rcases r'.endFrame_cases with ⟨hdiscarding, hfinal⟩ | ⟨-, hbuffer, hfinal⟩ |
      ⟨hdiscarding, -, hfinal⟩
    · rw [hfinal]
      refine ⟨.atEnd h'.layout_eq ?_ hopens, hnoFrame⟩
      have heq := h'.buffer
      rw [hdiscarding, if_pos rfl] at heq
      exact Array.toList_eq_nil_iff.mp heq
    · rw [hfinal]
      exact ⟨.atEnd h'.layout_eq hbuffer hopens, hnoFrame⟩
    · rw [hfinal]
      exact ⟨.atEnd h'.layout_eq rfl hopens,
        hcut.snoc (h.wholeFrame h' hclean hend hdiscarding)⟩
  · next hgoesOn =>
    rw [Outcome.frames_nil, List.append_nil]
    refine ⟨start, ⟨h'.layout_eq, ?_, ?_, ?_, ?_⟩, hcut⟩
    · rw [List.length_append]
      exact Nat.le_add_right_of_le h.within
    · rw [List.drop_append_of_le_length h.within]
      intro q hq
      rcases List.mem_append.mp hq with hq | hq
      · obtain ⟨herror, hend, hid⟩ := h.same q hq
        exact ⟨herror, hend, by rw [hid]; exact h'.toggle⟩
      · rw [List.mem_singleton.mp hq]
        exact ⟨hclean, Bool.not_eq_true _ ▸ hgoesOn, h'.toggle⟩
    · rw [List.drop_append_of_le_length h.within, List.take_append_of_le_length h.within]
      intro id hid
      rcases hid with hnil | hid
      · simp at hnil
      · rw [h'.toggle] at hid
        rw [← Option.some.inj hid]
        exact h.opens
    · rw [List.drop_append_of_le_length h.within]
      exact h'.buffer

/-! ### The whole stream -/

/-- What one piece preserves. -/
theorem Building.feed (h : Building layout past start r) (hcut : Cut layout past frames start)
    (p : Piece) :
    ∃ start', Building layout (past ++ [p]) start' (r.feed p).2 ∧
      Cut layout (past ++ [p]) (frames ++ Outcome.frames (r.feed p).1) start' := by
  cases herror : p.header.error with
  | true =>
    rw [Reassembler.feed_error herror]
    refine ⟨(past ++ [p]).length, .atEnd h.layout_eq rfl ?_, ?_⟩
    · intro id q hq
      rw [List.getLast?_concat, Option.mem_some_iff] at hq
      rw [← hq]
      exact .inr (.inl herror)
    · show Cut layout (past ++ [p]) (frames ++ []) _
      rw [List.append_nil]
      rw [List.length_append]
      exact (hcut.append [p]).mono (Nat.le_add_right_of_le h.within)
  | false =>
    rw [Reassembler.feed_clean herror]
    obtain ⟨between, hready, hcut⟩ := h.bounded hcut herror
    obtain ⟨hnone, hholding⟩ := hready.taken
    obtain ⟨start', hbuilding, hcut⟩ := hready.closed hholding hcut herror
    refine ⟨start', hbuilding, ?_⟩
    rw [Outcome.frames_append, Outcome.frames_append, hnone, List.append_nil, ← List.append_assoc]
    exact hcut

/-- What a run of pieces preserves. -/
theorem Building.feedAll (pieces : List Piece) (h : Building layout past start r)
    (hcut : Cut layout past frames start) :
    ∃ start', Building layout (past ++ pieces) start' (r.feedAll pieces).2 ∧
      Cut layout (past ++ pieces) (frames ++ Outcome.frames (r.feedAll pieces).1) start' := by
  induction pieces generalizing past start r frames with
  | nil => exact ⟨start, by simpa using h, by simpa using hcut⟩
  | cons p ps ih =>
    obtain ⟨between, hfed, hcutFed⟩ := h.feed hcut p
    obtain ⟨start', hbuilding, hcut'⟩ := ih hfed hcutFed
    rw [List.append_assoc, List.singleton_append] at hbuilding hcut'
    refine ⟨start', hbuilding, ?_⟩
    rw [Reassembler.feedAll, Outcome.frames_append, ← List.append_assoc]
    exact hcut'

/-- **Frames are whole segments of the stream.** Feed any payloads to a new reassembler. Each frame
that comes out is the data of consecutive pieces, which are clean, share their frame id, begin where a
frame may begin and end where one ends; the segments of different frames do not overlap and come in
stream order. -/
theorem Reassembler.frames_are_segments (layout : FrameLayout) (payloads : List Bytes) :
    ∃ spans : List Span,
      List.Forall₂
        (fun f s => ∃ id, WholeFrame layout (payloads.filterMap Piece.of?) id s f.data)
        (Outcome.frames ((Reassembler.new layout).pushAll payloads).1) spans ∧
      spans.Pairwise (fun s t => s.stop ≤ t.first) := by
  have hnew : Building layout [] 0 (Reassembler.new layout) :=
    .atEnd rfl rfl fun _ q hq => absurd hq (Option.not_mem_none q)
  obtain ⟨_, -, spans, hwhole, horder, -⟩ := hnew.feedAll (payloads.filterMap Piece.of?) .none
  rw [Reassembler.frames_pushAll]
  exact ⟨spans, hwhole, horder⟩

end UsbVideo
