import Mathlib.Data.List.Chain
import UsbVideo.Proofs.Reassembly.Piece

/-!
# Reassembly undoes splitting

A sender cuts frames into pieces. Whatever the cut, whatever else the headers say and whatever
payloads with broken headers come in between, reassembly gives back the frames (`pushAll_sent`).

    frames ──SentFrame.pieces──▶ pieces ──feedAll──▶ frames

A frame ends in one of two ways. If its last piece is flagged, reassembly has it at once
(`feedAll_ended`). If not, its size and the other frame id of the next piece tell
(`feedAll_open`, then `feed_boundary`). `Partway` is what holds within a frame.
-/

namespace UsbVideo

namespace Piece

/-- The presentation time of the first piece that carries data. -/
def firstPts (pieces : List Piece) : Option UInt32 :=
  (pieces.find? (!·.data.isEmpty)).bind (·.header.pts)

/-- Behind pieces without data the first data is yet to come. -/
theorem firstPts_append_of_nil {pieces : List Piece} (h : joined pieces = []) (more : List Piece) :
    firstPts (pieces ++ more) = firstPts more := by
  have hnone : pieces.find? (!·.data.isEmpty) = none := by
    rw [List.find?_eq_none]
    intro p hp
    simpa using List.flatMap_eq_nil_iff.mp h p hp
  rw [firstPts, List.find?_append, hnone, Option.none_or, ← firstPts]

/-- Behind the first data nothing matters. -/
theorem firstPts_append_of_ne_nil {pieces : List Piece} (h : joined pieces ≠ [])
    (more : List Piece) : firstPts (pieces ++ more) = firstPts pieces := by
  cases hfind : pieces.find? (!·.data.isEmpty) with
  | none =>
    refine absurd (List.flatMap_eq_nil_iff.mpr fun p hp => ?_) h
    simpa using List.find?_eq_none.mp hfind p hp
  | some p => rw [firstPts, firstPts, List.find?_append, hfind, Option.some_or]

end Piece

/-- A frame as it is sent: pieces without error and of one frame id, none but the last flagged as the
end. -/
structure SentFrame where
  init : List Piece
  last : Piece
  clean : ∀ p ∈ init ++ [last],
    p.header.error = false ∧ p.header.frameId = last.header.frameId
  inner : ∀ p ∈ init, p.header.endOfFrame = false

namespace SentFrame

def pieces (f : SentFrame) : List Piece := f.init ++ [f.last]

def data (f : SentFrame) : Bytes := Piece.joined f.pieces

def id (f : SentFrame) : Bool := f.last.header.frameId

/-- The last piece is flagged as the end. -/
def ended (f : SentFrame) : Bool := f.last.header.endOfFrame

/-- The frame has data, and no more than the layout allows. -/
def Fits (layout : FrameLayout) (f : SentFrame) : Prop :=
  f.data ≠ [] ∧ ∀ max ∈ layout.maxFrameSize, f.data.length ≤ max

/-- `f` is flagged as ended, or its size and the frame id of the next frame `g` tell that it is. -/
def EndsBefore (layout : FrameLayout) (f g : SentFrame) : Prop :=
  f.ended = true ∨
    (layout.encoding.isCompressed = false ∧ layout.expectedSize = some f.data.length ∧ g.id ≠ f.id)

instance (layout : FrameLayout) (f : SentFrame) : Decidable (f.Fits layout) :=
  inferInstanceAs (Decidable (_ ∧ _))

instance (layout : FrameLayout) : DecidableRel (EndsBefore layout) :=
  fun _ _ => inferInstanceAs (Decidable (_ ∨ _))

/-- The frame that is completed, as number `sequence`. -/
def received (layout : FrameLayout) (sequence : Nat) (f : SentFrame) : CompletedFrame :=
  { sequence
    width := layout.width
    height := layout.height
    encoding := layout.encoding
    pts := Piece.firstPts f.pieces
    data := f.data }

/-- All frames, but for a last one that is not flagged as ended. -/
def complete : List SentFrame → List SentFrame
  | [] => []
  | [f] => if f.ended then [f] else []
  | f :: g :: fs => f :: complete (g :: fs)

/-- The outcomes that give back these frames, numbered from `sequence + 1`. -/
def outcomes (layout : FrameLayout) (sequence : Nat) (fs : List SentFrame) : List Outcome :=
  fs.mapIdx fun i f => .frame (f.received layout (sequence + 1 + i))

theorem outcomes_cons (layout : FrameLayout) (sequence : Nat) (f : SentFrame) (fs : List SentFrame) :
    outcomes layout sequence (f :: fs) =
      .frame (f.received layout (sequence + 1)) :: outcomes layout (sequence + 1) fs := by
  have hnumber : ∀ i, sequence + 1 + (i + 1) = sequence + 1 + 1 + i := by
    intro i
    omega
  rw [outcomes, outcomes, List.mapIdx_cons]
  congr
  funext i g
  rw [hnumber]

end SentFrame

/-! ### Within a frame -/

/-- The pieces so far of the frame with this id are `pieces`, and `sequence` frames came before. -/
structure Partway (layout : FrameLayout) (sequence : Nat) (id : Bool) (pieces : List Piece)
    (r : Reassembler) : Prop where
  layout_eq : r.layout = layout
  sequence_eq : r.sequence = sequence
  discarding : r.discarding = false
  buffer : r.buffer.toList = Piece.joined pieces
  pts : r.buffer ≠ #[] → r.pts = Piece.firstPts pieces
  /-- An id of another frame is of no account while nothing is in the buffer. -/
  toggle : r.buffer = #[] ∨ r.toggle = some id

/-- Nothing is in progress and nothing is skipped; `sequence` frames came before. -/
structure Idle (layout : FrameLayout) (sequence : Nat) (r : Reassembler) : Prop where
  layout_eq : r.layout = layout
  sequence_eq : r.sequence = sequence
  discarding : r.discarding = false
  buffer : r.buffer = #[]

theorem Idle.partway {layout : FrameLayout} {sequence : Nat} {r : Reassembler}
    (h : Idle layout sequence r) (id : Bool) : Partway layout sequence id [] r :=
  ⟨h.layout_eq, h.sequence_eq, h.discarding, by simp [h.buffer], fun hne => absurd h.buffer hne,
    .inl h.buffer⟩

namespace Partway

variable {layout : FrameLayout} {sequence : Nat} {id : Bool} {pieces : List Piece} {p : Piece}
  {r : Reassembler}

theorem joined_ne_nil (h : Partway layout sequence id pieces r) (hne : r.buffer ≠ #[]) :
    Piece.joined pieces ≠ [] := by
  rw [← h.buffer]
  exact fun hnil => hne (Array.toList_eq_nil_iff.mp hnil)

/-- A piece of the same frame is at no boundary, or at one where nothing is in the buffer. -/
theorem bounded (h : Partway layout sequence id pieces r) (hid : p.header.frameId = id) :
    (r.bounded p).1 = [] ∧ Partway layout sequence id pieces (r.bounded p).2 := by
  unfold Reassembler.bounded
  split
  · next hflip =>
    have hempty : r.buffer = #[] := by
      refine h.toggle.resolve_right fun htoggle => ?_
      rw [htoggle, hid] at hflip
      simp at hflip
    rcases r.crossBoundary_cases with ⟨-, hcross⟩ | ⟨hne, -⟩ | ⟨hne, -⟩
    · rw [hcross]
      exact ⟨rfl, h.layout_eq, h.sequence_eq, rfl, h.buffer, h.pts, h.toggle⟩
    · exact absurd hempty hne
    · exact absurd hempty hne
  · exact ⟨rfl, h⟩

/-- The data of a piece joins the frame if it fits. -/
theorem taken (h : Partway layout sequence id pieces r) (hid : p.header.frameId = id)
    (hfits : ∀ max ∈ layout.maxFrameSize, (Piece.joined (pieces ++ [p])).length ≤ max) :
    (r.taken p).1 = [] ∧ Partway layout sequence id (pieces ++ [p]) (r.taken p).2 := by
  have hsize : r.buffer.size = (Piece.joined pieces).length := by
    rw [← h.buffer, Array.length_toList]
  rw [Piece.joined_append, Piece.joined_singleton, List.length_append, ← hsize] at hfits
  unfold Reassembler.taken
  rcases Reassembler.accept_cases { r with toggle := some p.header.frameId } p.header.pts p.data with
    ⟨hskip, haccept⟩ | ⟨-, -, hexceeds, -⟩ | ⟨hdata, -, -, haccept⟩
  · have hnil : p.data = [] := by
      refine hskip.resolve_right fun hdiscarding => ?_
      rw [h.discarding] at hdiscarding
      exact absurd hdiscarding Bool.false_ne_true
    rw [haccept]
    refine ⟨rfl, h.layout_eq, h.sequence_eq, h.discarding, ?_, ?_, .inr (by rw [hid])⟩
    · rw [Piece.joined_append, Piece.joined_singleton, hnil, List.append_nil]
      exact h.buffer
    · intro hne
      rw [Piece.firstPts_append_of_ne_nil (h.joined_ne_nil hne)]
      exact h.pts hne
  · -- It would overflow only if the frame did.
    exfalso
    dsimp only at hexceeds
    rw [h.layout_eq, Reassembler.exceeds] at hexceeds
    split at hexceeds
    · next max hmax =>
      have hle := hfits max hmax
      have hlt := of_decide_eq_true hexceeds
      omega
    · exact absurd hexceeds Bool.false_ne_true
  · rw [haccept]
    refine ⟨rfl, h.layout_eq, h.sequence_eq, h.discarding, ?_, ?_, .inr (by rw [hid])⟩
    · rw [Piece.joined_append, Piece.joined_singleton, ← h.buffer]
      simp
    · intro _
      dsimp only
      -- The first data brings its presentation time, later data keeps that of the first.
      split
      · next hempty =>
        have hnil : Piece.joined pieces = [] := by
          rw [← h.buffer, Array.isEmpty_iff.mp hempty]
        rw [Piece.firstPts_append_of_nil hnil, Piece.firstPts]
        simp [hdata]
      · next hne =>
        rw [Array.isEmpty_iff] at hne
        rw [Piece.firstPts_append_of_ne_nil (h.joined_ne_nil hne)]
        exact h.pts hne

/-- A piece that does not end the frame joins it, and nothing comes out. -/
theorem feed (h : Partway layout sequence id pieces r) (hid : p.header.frameId = id)
    (hclean : p.header.error = false) (hinner : p.header.endOfFrame = false)
    (hfits : ∀ max ∈ layout.maxFrameSize, (Piece.joined (pieces ++ [p])).length ≤ max) :
    (r.feed p).1 = [] ∧ Partway layout sequence id (pieces ++ [p]) (r.feed p).2 := by
  obtain ⟨hnone, hbounded⟩ := h.bounded hid
  obtain ⟨hnone', htaken⟩ := hbounded.taken hid hfits
  rw [Reassembler.feed_clean hclean, hnone, hnone', Reassembler.closed, hinner,
    if_neg Bool.false_ne_true]
  exact ⟨rfl, htaken⟩

theorem feedAll (more : List Piece) (h : Partway layout sequence id pieces r)
    (hclean : ∀ p ∈ more, p.header.error = false ∧ p.header.frameId = id)
    (hinner : ∀ p ∈ more, p.header.endOfFrame = false)
    (hfits : ∀ max ∈ layout.maxFrameSize, (Piece.joined (pieces ++ more)).length ≤ max) :
    (r.feedAll more).1 = [] ∧ Partway layout sequence id (pieces ++ more) (r.feedAll more).2 := by
  induction more generalizing pieces r with
  | nil => exact ⟨rfl, by simpa using h⟩
  | cons p ps ih =>
    rw [← List.singleton_append, ← List.append_assoc] at hfits ⊢
    have hfirst : ∀ max ∈ layout.maxFrameSize, (Piece.joined (pieces ++ [p])).length ≤ max := by
      intro max hmax
      refine Nat.le_trans ?_ (hfits max hmax)
      rw [Piece.joined_append _ ps, List.length_append]
      exact Nat.le_add_right _ _
    obtain ⟨herror, hid⟩ := hclean p List.mem_cons_self
    obtain ⟨hnone, hfed⟩ := h.feed hid herror (hinner p List.mem_cons_self) hfirst
    obtain ⟨hrest, hlater⟩ := ih hfed (fun q hq => hclean q (List.mem_cons_of_mem p hq))
      (fun q hq => hinner q (List.mem_cons_of_mem p hq)) hfits
    rw [List.singleton_append, Reassembler.feedAll, hnone, hrest]
    exact ⟨rfl, hlater⟩

theorem currentFrame {f : SentFrame} (h : Partway layout sequence id f.pieces r)
    (hne : r.buffer ≠ #[]) : r.currentFrame = f.received layout (sequence + 1) := by
  rw [Reassembler.currentFrame, SentFrame.received, h.layout_eq, h.sequence_eq, h.pts hne, h.buffer]
  rfl

theorem finish (h : Partway layout sequence id pieces r) : Idle layout (sequence + 1) r.finish :=
  ⟨h.layout_eq, by rw [← h.sequence_eq]; rfl, h.discarding, rfl⟩

end Partway

/-! ### One frame -/

namespace SentFrame

variable {layout : FrameLayout} {sequence : Nat} {f : SentFrame} {r : Reassembler}

theorem buffer_ne_empty {id : Bool} (hfits : f.Fits layout)
    (h : Partway layout sequence id f.pieces r) : r.buffer ≠ #[] := by
  intro hempty
  have heq := h.buffer
  rw [hempty] at heq
  exact hfits.1 heq.symm

/-- What is left of feeding a frame, once it is whole, is whether its last piece is flagged. -/
theorem feedAll_pieces (hfits : f.Fits layout) (h : Idle layout sequence r) :
    ∃ r', Partway layout sequence f.id f.pieces r' ∧ r.feedAll f.pieces = r'.closed f.last := by
  have hinit : ∀ max ∈ layout.maxFrameSize, (Piece.joined ([] ++ f.init)).length ≤ max := by
    intro max hmax
    refine Nat.le_trans ?_ (hfits.2 max hmax)
    rw [List.nil_append, data, pieces, Piece.joined_append, List.length_append]
    exact Nat.le_add_right _ _
  have hclean : ∀ p ∈ f.init, p.header.error = false ∧ p.header.frameId = f.id := by
    intro p hp
    exact f.clean p (List.mem_append_left _ hp)
  have hlast : f.last.header.error = false := (f.clean f.last (by simp)).1
  obtain ⟨hnone, hpartway⟩ := (h.partway f.id).feedAll f.init hclean f.inner hinit
  obtain ⟨hnone', hbounded⟩ := hpartway.bounded rfl
  obtain ⟨hnone'', hwhole⟩ := hbounded.taken rfl hfits.2
  refine ⟨_, hwhole, ?_⟩
  rw [pieces, Reassembler.feedAll_append, Reassembler.feedAll, Reassembler.feed_clean hlast, hnone,
    hnone', hnone'']
  simp

/-- A frame whose last piece is flagged comes out with that piece. -/
theorem feedAll_ended (hended : f.ended = true) (hfits : f.Fits layout)
    (h : Idle layout sequence r) :
    (r.feedAll f.pieces).1 = [.frame (f.received layout (sequence + 1))] ∧
      Idle layout (sequence + 1) (r.feedAll f.pieces).2 := by
  obtain ⟨r', hwhole, hfed⟩ := feedAll_pieces hfits h
  have hne := buffer_ne_empty hfits hwhole
  have hflag : f.last.header.endOfFrame = true := hended
  rw [hfed, Reassembler.closed, if_pos hflag]
  rcases r'.endFrame_cases with ⟨hdiscarding, -⟩ | ⟨-, hempty, -⟩ | ⟨-, -, hend⟩
  · rw [hwhole.discarding] at hdiscarding
    exact absurd hdiscarding Bool.false_ne_true
  · exact absurd hempty hne
  · rw [hend, hwhole.currentFrame hne]
    exact ⟨rfl, hwhole.finish⟩

/-- A frame whose last piece is not flagged stays in progress. -/
theorem feedAll_open (hopen : f.ended = false) (hfits : f.Fits layout)
    (h : Idle layout sequence r) :
    (r.feedAll f.pieces).1 = [] ∧
      Partway layout sequence f.id f.pieces (r.feedAll f.pieces).2 := by
  obtain ⟨r', hwhole, hfed⟩ := feedAll_pieces hfits h
  have hflag : f.last.header.endOfFrame = false := hopen
  rw [hfed, Reassembler.closed, hflag, if_neg Bool.false_ne_true]
  exact ⟨rfl, hwhole⟩

end SentFrame

/-! ### From frame to frame -/

/-- At a flip of the frame id a frame of the expected size comes out, and the piece goes on as if
the frame had been flagged. -/
theorem Reassembler.feed_boundary {r : Reassembler} {p : Piece} (hclean : p.header.error = false)
    (hflip : r.toggle = some !p.header.frameId) (hbuffer : r.buffer ≠ #[])
    (hsize : r.layout.expectedSize = some r.buffer.size) :
    r.feed p = (.frame r.currentFrame :: (r.finish.feed p).1, (r.finish.feed p).2) := by
  have hbounded : r.bounded p = ([.frame r.currentFrame], (r.finish.bounded p).2) ∧
      (r.finish.bounded p).1 = [] := by
    have hflip' : r.finish.toggle = some !p.header.frameId := hflip
    have hempty : r.finish.crossBoundary = ([], { r.finish with discarding := false }) := rfl
    rw [bounded, bounded, if_pos hflip, if_pos hflip', hempty]
    rcases r.crossBoundary_cases with ⟨hempty, -⟩ | ⟨-, -, hcross⟩ | ⟨-, hother, -⟩
    · exact absurd hempty hbuffer
    · exact ⟨hcross, rfl⟩
    · exact absurd hsize hother
  rw [feed_clean hclean, feed_clean hclean, hbounded.1, hbounded.2]
  rfl

namespace SentFrame

variable {layout : FrameLayout} {sequence : Nat} {f g : SentFrame} {r : Reassembler}

/-- The same in front of the pieces of the next frame. -/
theorem feedAll_boundary (hfits : f.Fits layout) (hsize : layout.expectedSize = some f.data.length)
    (hid : g.id ≠ f.id) (h : Partway layout sequence f.id f.pieces r) (later : List Piece) :
    (r.feedAll (g.pieces ++ later)).1 =
      .frame (f.received layout (sequence + 1)) :: (r.finish.feedAll (g.pieces ++ later)).1 := by
  have hne := buffer_ne_empty hfits h
  have hlength : r.buffer.size = f.data.length := by
    rw [← Array.length_toList, h.buffer]
    rfl
  -- The first piece of `g`, be it the last one too, shows the id of `g`.
  obtain ⟨q, qs, hpieces⟩ : ∃ q qs, g.pieces = q :: qs :=
    List.exists_cons_of_ne_nil (by simp [pieces])
  obtain ⟨herror, hfirst⟩ := g.clean q (by rw [← pieces, hpieces]; exact List.mem_cons_self)
  have hflip : r.toggle = some !q.header.frameId := by
    rw [h.toggle.resolve_left hne, hfirst, Bool.eq_not_of_ne hid.symm]
    rfl
  rw [hpieces, List.cons_append, Reassembler.feedAll, Reassembler.feedAll,
    Reassembler.feed_boundary herror hflip hne (by rw [h.layout_eq, hsize, hlength]),
    h.currentFrame hne]
  rfl

/-- Feeding the pieces of frames that each end before the next gives back the frames. -/
theorem feedAll_sent (frames : List SentFrame) (hfits : ∀ f ∈ frames, f.Fits layout)
    (hends : frames.IsChain (EndsBefore layout)) (h : Idle layout sequence r) :
    (r.feedAll (frames.flatMap pieces)).1 = outcomes layout sequence (complete frames) := by
  induction frames generalizing r sequence with
  | nil => rfl
  | cons f fs ih =>
    have hf := hfits f List.mem_cons_self
    have hfs : ∀ g ∈ fs, g.Fits layout := fun g hg => hfits g (List.mem_cons_of_mem f hg)
    rw [List.flatMap_cons, Reassembler.feedAll_append]
    cases hended : f.ended with
    | true =>
      obtain ⟨hout, hidle⟩ := feedAll_ended hended hf h
      have hcomplete : complete (f :: fs) = f :: complete fs := by
        cases fs with
        | nil => simp [complete, hended]
        | cons g gs => rfl
      rw [hout, hcomplete, outcomes_cons, ih hfs hends.tail hidle]
      rfl
    | false =>
      obtain ⟨hout, hpartway⟩ := feedAll_open hended hf h
      rw [hout, List.nil_append]
      -- The frame comes out with the first piece of the next one, if there is one.
      cases fs with
      | nil => simp [complete, hended, outcomes]
      | cons g gs =>
        obtain ⟨-, hsize, hid⟩ := hends.rel.resolve_left (by simp [hended])
        have hrest := ih hfs hends.tail hpartway.finish
        rw [List.flatMap_cons] at hrest ⊢
        rw [feedAll_boundary hf hsize hid hpartway, hrest, complete, outcomes_cons]

end SentFrame

/-- **Reassembly undoes splitting.** Cut frames into pieces, each frame ending before the next, and
put payloads with broken headers anywhere. A reassembler with nothing in progress gives back the
frames, numbered on, each with the presentation time of its first data; besides, it complains once
about every broken header, and that is all. -/
theorem Reassembler.pushAll_sent (r : Reassembler) (hempty : r.buffer = #[])
    (hdiscarding : r.discarding = false) (frames : List SentFrame)
    (hfits : ∀ f ∈ frames, f.Fits r.layout) (hends : frames.IsChain (SentFrame.EndsBefore r.layout))
    (payloads : List Bytes)
    (hpayloads : payloads.filterMap Piece.of? = frames.flatMap SentFrame.pieces) :
    (r.pushAll payloads).1.filterMap Outcome.headerError? = payloads.filterMap Header.error? ∧
    (r.pushAll payloads).1.filter (·.headerError?.isNone) =
      SentFrame.outcomes r.layout r.sequence (SentFrame.complete frames) := by
  refine ⟨r.headerErrors_pushAll payloads, ?_⟩
  rw [(r.pushAll_feedAll payloads).2, hpayloads]
  exact SentFrame.feedAll_sent frames hfits hends ⟨rfl, rfl, hdiscarding, hempty⟩

/-! ### Both ends of a frame at once -/

/-- Two pixels of YUYV, four bytes. -/
def twoPixels : FrameLayout :=
  { encoding := .yuy2, width := 2, height := 1, maxFrameSize := some 4 }

/-- Three frames: one that is flagged, with a heartbeat in front of its data, one with the same frame
id that is not flagged, and one that flips the frame id. -/
def threeFrames : List SentFrame :=
  let header : Header := { length := 2, endOfHeader := true }
  [ { init := [⟨header, []⟩, ⟨{ header with length := 6, pts := some 7 }, [1, 2]⟩]
      last := ⟨{ header with endOfFrame := true }, [3]⟩
      clean := by decide
      inner := by decide },
    { init := [⟨header, [4, 5]⟩]
      last := ⟨header, [6, 7]⟩
      clean := by decide
      inner := by decide },
    { init := []
      last := ⟨{ header with frameId := true, endOfFrame := true }, [8]⟩
      clean := by decide
      inner := by decide } ]

/-- Their payloads, with two broken ones among them. -/
def threeFramesSent : List Bytes :=
  [ [2, 0x80], [6, 0x84, 7, 0, 0, 0, 1, 2], [9], [2, 0x82, 3], [2, 0x80, 4, 5], [2, 0x84, 6],
    [2, 0x80, 6, 7], [2, 0x83, 8] ]

theorem pushAll_threeFrames :
    let r : Reassembler := { layout := twoPixels, toggle := some true, sequence := 5 }
    (r.buffer = #[] ∧ r.discarding = false ∧ (∀ f ∈ threeFrames, f.Fits r.layout) ∧
      threeFrames.IsChain (SentFrame.EndsBefore r.layout) ∧
      threeFramesSent.filterMap Piece.of? = threeFrames.flatMap SentFrame.pieces) ∧
    (r.pushAll threeFramesSent).1.filterMap Outcome.headerError? = [⟨1, 2⟩, ⟨2, 6⟩] ∧
    (r.pushAll threeFramesSent).1.filter (·.headerError?.isNone) =
      [.frame ⟨⟨6, 2, 1, .yuy2, some 7⟩, [1, 2, 3]⟩, .frame ⟨⟨7, 2, 1, .yuy2, none⟩, [4, 5, 6, 7]⟩,
        .frame ⟨⟨8, 2, 1, .yuy2, none⟩, [8]⟩] := by
  intro r
  have hfits : ∀ f ∈ threeFrames, f.Fits r.layout := by decide
  have hends : threeFrames.IsChain (SentFrame.EndsBefore r.layout) := by decide
  have hpayloads : threeFramesSent.filterMap Piece.of? = threeFrames.flatMap SentFrame.pieces := by
    decide
  exact ⟨⟨rfl, rfl, hfits, hends, hpayloads⟩,
    r.pushAll_sent rfl rfl threeFrames hfits hends threeFramesSent hpayloads⟩

end UsbVideo
