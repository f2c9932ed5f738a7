import UsbVideo.Reassembly

/-!
# Pieces

A payload whose header parses is a *piece*: its header and the data behind it. Reassembly depends on
nothing else, so its theory is about pieces:

    payloads ──Piece.of?──▶ pieces ──feedAll──▶ outcomes

`feed` is `push` past the parsing of the header. A payload whose header does not parse leads to one
outcome and changes nothing, wherever it stands (`pushAll_feedAll`, `headerErrors_pushAll`).

What every operation does, and what goes on to hold when one is done behind another, holds of any
payloads (`Stepwise.pushAll`). The layout is such a thing: it stays, and all frames have its geometry.
-/

namespace UsbVideo

/-- The frame has this geometry. -/
structure FrameLayout.Describes (layout : FrameLayout) (frame : CompletedFrame) : Prop where
  encoding : frame.encoding = layout.encoding
  width : frame.width = layout.width
  height : frame.height = layout.height

/-- What a payload with a sound header carries. -/
structure Piece where
  header : Header
  data : Bytes
  deriving DecidableEq

namespace Piece

/-- The piece in a payload, if its header parses. -/
def of? (payload : Bytes) : Option Piece :=
  match Header.parse payload with
  | .ok header => some ⟨header, header.data payload⟩
  | .error _ => none

/-- The data of pieces, in order. -/
def joined (pieces : List Piece) : Bytes := pieces.flatMap data

@[simp] theorem joined_nil : joined [] = [] := rfl

@[simp] theorem joined_append (ps qs : List Piece) : joined (ps ++ qs) = joined ps ++ joined qs :=
  List.flatMap_append

@[simp] theorem joined_singleton (p : Piece) : joined [p] = p.data := List.flatMap_singleton ..

end Piece

/-- What is wrong with the header of a payload. -/
def Header.error? (payload : Bytes) : Option HeaderError :=
  match Header.parse payload with
  | .ok _ => none
  | .error e => some e

namespace Outcome

/-- The frame that was completed. -/
def frame? : Outcome → Option CompletedFrame
  | frame f => some f
  | _ => none

/-- The header that did not parse. -/
def headerError? : Outcome → Option HeaderError
  | headerTooShort e => some e
  | _ => none

/-- The frames among outcomes. -/
def frames (outcomes : List Outcome) : List CompletedFrame := outcomes.filterMap frame?

@[simp] theorem frames_nil : frames [] = [] := rfl

@[simp] theorem frames_append (os os' : List Outcome) : frames (os ++ os') = frames os ++ frames os' :=
  List.filterMap_append

end Outcome

namespace Reassembler

/-- Feed one piece. -/
def feed (r : Reassembler) (p : Piece) : List Outcome × Reassembler :=
  if p.header.error then
    ([.dropped .payloadError r.inProgress], { r.discard with toggle := none })
  else r.take p.header p.data

/-- Feed pieces in order. -/
def feedAll (r : Reassembler) : List Piece → List Outcome × Reassembler
  | [] => ([], r)
  | p :: ps => ((r.feed p).1 ++ ((r.feed p).2.feedAll ps).1, ((r.feed p).2.feedAll ps).2)

@[simp] theorem feedAll_nil (r : Reassembler) : r.feedAll [] = ([], r) := rfl

theorem feedAll_append (r : Reassembler) (ps qs : List Piece) :
    r.feedAll (ps ++ qs) =
      ((r.feedAll ps).1 ++ ((r.feedAll ps).2.feedAll qs).1, ((r.feedAll ps).2.feedAll qs).2) := by
  induction ps generalizing r with
  | nil => rfl
  | cons p ps ih => simp only [List.cons_append, feedAll, ih, List.append_assoc]

/-! ### What each operation can do -/

/-- At a boundary a frame of exactly the expected size is completed; any other is dropped. -/
theorem crossBoundary_cases (r : Reassembler) :
    (r.buffer = #[] ∧ r.crossBoundary = ([], { r with discarding := false })) ∨
    (r.buffer ≠ #[] ∧ r.layout.expectedSize = some r.buffer.size ∧
      r.crossBoundary = ([.frame r.currentFrame], { r.finish with discarding := false })) ∨
    (r.buffer ≠ #[] ∧ r.layout.expectedSize ≠ some r.buffer.size ∧
      r.crossBoundary =
        ([.unfinished r.buffer.size], { r.discard with discarding := false })) := by
  by_cases hbuffer : r.buffer = #[]
  · left
    refine ⟨hbuffer, ?_⟩
    simp [crossBoundary, hbuffer]
  · right
    by_cases hsize : r.layout.expectedSize = some r.buffer.size
    · left
      refine ⟨hbuffer, hsize, ?_⟩
      simp only [crossBoundary, Array.isEmpty_iff, hbuffer, hsize, if_false, if_true]
      rfl
    · right
      refine ⟨hbuffer, hsize, ?_⟩
      simp only [crossBoundary, Array.isEmpty_iff, hbuffer, hsize, if_false]
      rfl

/-- Data is passed over, makes the frame overflow, or is appended. -/
theorem accept_cases (r : Reassembler) (pts : Option UInt32) (data : Bytes) :
    ((data = [] ∨ r.discarding = true) ∧ r.accept pts data = ([], r)) ∨
    (data ≠ [] ∧ r.discarding = false ∧ exceeds r.layout (r.buffer.size + data.length) = true ∧
      r.accept pts data = ([.dropped .overflow (r.buffer.size + data.length)],
        { r.discard with discarding := true })) ∨
    (data ≠ [] ∧ r.discarding = false ∧ exceeds r.layout (r.buffer.size + data.length) = false ∧
      r.accept pts data = ([], { r with
        buffer := r.buffer ++ data
        pts := if r.buffer.isEmpty then pts else r.pts })) := by
  by_cases hskip : data = [] ∨ r.discarding = true
  · left
    refine ⟨hskip, ?_⟩
    rcases hskip with h | h <;> simp [accept, h]
  · right
    obtain ⟨hdata, hdiscarding⟩ := not_or.mp hskip
    rw [Bool.not_eq_true] at hdiscarding
    cases hexceeds : exceeds r.layout (r.buffer.size + data.length) with
    | true =>
      left
      refine ⟨hdata, hdiscarding, rfl, ?_⟩
      simp [accept, hdata, hdiscarding, hexceeds]
    | false =>
      right
      refine ⟨hdata, hdiscarding, rfl, ?_⟩
      simp [accept, hdata, hdiscarding, hexceeds]

/-- The end of a frame ends the skipping of one that overflowed, or completes what there is. -/
theorem endFrame_cases (r : Reassembler) :
    (r.discarding = true ∧ r.endFrame = ([], { r with discarding := false })) ∨
    (r.discarding = false ∧ r.buffer = #[] ∧ r.endFrame = ([], r)) ∨
    (r.discarding = false ∧ r.buffer ≠ #[] ∧
      r.endFrame = ([.frame r.currentFrame], r.finish)) := by
  cases hdiscarding : r.discarding with
  | true =>
    left
    exact ⟨rfl, by simp [endFrame, hdiscarding]⟩
  | false =>
    right
    by_cases hbuffer : r.buffer = #[]
    · exact .inl ⟨rfl, hbuffer, by simp [endFrame, hdiscarding, hbuffer]⟩
    · exact .inr ⟨rfl, hbuffer, by simp [endFrame, hdiscarding, hbuffer]⟩

/-! ### A piece in three steps -/

/-- After the boundary in front of `p`, if the frame id flips there. -/
def bounded (r : Reassembler) (p : Piece) : List Outcome × Reassembler :=
  if r.toggle = some !p.header.frameId then r.crossBoundary else ([], r)

/-- After the data of `p`. -/
def taken (r : Reassembler) (p : Piece) : List Outcome × Reassembler :=
  { r with toggle := some p.header.frameId }.accept p.header.pts p.data

/-- After the end of the frame, if `p` is flagged so. -/
def closed (r : Reassembler) (p : Piece) : List Outcome × Reassembler :=
  if p.header.endOfFrame then r.endFrame else ([], r)

theorem feed_error {p : Piece} (h : p.header.error = true) (r : Reassembler) :
    r.feed p = ([.dropped .payloadError r.inProgress], { r.discard with toggle := none }) := by
  rw [feed, if_pos h]

theorem feed_clean {p : Piece} (h : p.header.error = false) (r : Reassembler) :
    r.feed p =
      ((r.bounded p).1 ++ ((r.bounded p).2.taken p).1 ++
        (((r.bounded p).2.taken p).2.closed p).1,
      (((r.bounded p).2.taken p).2.closed p).2) := by
  rw [feed, if_neg (by simp [h])]
  rfl

/-! ### Payloads that are no pieces -/

theorem headerErrors_bounded (r : Reassembler) (p : Piece) :
    (r.bounded p).1.filterMap Outcome.headerError? = [] := by
  unfold bounded
  split
  · rcases r.crossBoundary_cases with ⟨-, h⟩ | ⟨-, -, h⟩ | ⟨-, -, h⟩ <;> rw [h] <;> rfl
  · rfl

theorem headerErrors_taken (r : Reassembler) (p : Piece) :
    (r.taken p).1.filterMap Outcome.headerError? = [] := by
  unfold taken
  rcases accept_cases _ _ _ with ⟨-, h⟩ | ⟨-, -, -, h⟩ | ⟨-, -, -, h⟩ <;> rw [h] <;> rfl

theorem headerErrors_closed (r : Reassembler) (p : Piece) :
    (r.closed p).1.filterMap Outcome.headerError? = [] := by
  unfold closed
  split
  · rcases r.endFrame_cases with ⟨-, h⟩ | ⟨-, -, h⟩ | ⟨-, -, h⟩ <;> rw [h] <;> rfl
  · rfl

/-- A piece never leads to a complaint about a header. -/
theorem headerErrors_feed (r : Reassembler) (p : Piece) :
    (r.feed p).1.filterMap Outcome.headerError? = [] := by
  cases herror : p.header.error with
  | true =>
    rw [feed_error herror]
    rfl
  | false =>
    rw [feed_clean herror, List.filterMap_append, List.filterMap_append, headerErrors_bounded,
      headerErrors_taken, headerErrors_closed]
    rfl

/-- A payload is a piece that is fed, or the complaint about its header is all it leads to. -/
theorem push_cases (r : Reassembler) (payload : Bytes) :
    (∃ e, Header.error? payload = some e ∧ Piece.of? payload = none ∧
      r.push payload = ([.headerTooShort e], r)) ∨
    (∃ p, Header.error? payload = none ∧ Piece.of? payload = some p ∧
      r.push payload = r.feed p) := by
  unfold push Header.error? Piece.of?
  cases hparse : Header.parse payload with
  | error e => exact .inl ⟨e, rfl, rfl, rfl⟩
  | ok header => exact .inr ⟨⟨header, header.data payload⟩, rfl, rfl, rfl⟩

theorem push_of_some {payload : Bytes} {p : Piece} (h : Piece.of? payload = some p)
    (r : Reassembler) : r.push payload = r.feed p := by
  rcases r.push_cases payload with ⟨-, -, hnone, -⟩ | ⟨q, -, hsome, hpush⟩
  · rw [h] at hnone
    cases hnone
  · rw [h] at hsome
    cases hsome
    exact hpush

theorem push_of_none {payload : Bytes} (h : Piece.of? payload = none) :
    ∃ e, ∀ r : Reassembler, r.push payload = ([.headerTooShort e], r) := by
  unfold Piece.of? at h
  unfold push
  cases hparse : Header.parse payload with
  | error e => exact ⟨e, fun _ => rfl⟩
  | ok header =>
    rw [hparse] at h
    cases h

theorem pushAll_cons (r : Reassembler) (p : Bytes) (ps : List Bytes) :
    r.pushAll (p :: ps) =
      ((r.push p).1 ++ ((r.push p).2.pushAll ps).1, ((r.push p).2.pushAll ps).2) := rfl

theorem pushAll_append (r : Reassembler) (first later : List Bytes) :
    r.pushAll (first ++ later) =
      ((r.pushAll first).1 ++ ((r.pushAll first).2.pushAll later).1,
        ((r.pushAll first).2.pushAll later).2) := by
  induction first generalizing r with
  | nil => rfl
  | cons payload first ih =>
    rw [List.cons_append, pushAll_cons, ih, pushAll_cons]
    simp

/-- Payloads whose headers are all sound do what their pieces do. -/
theorem pushAll_pieces (r : Reassembler) {payloads : List Bytes} {pieces : List Piece}
    (h : payloads.map Piece.of? = pieces.map some) : r.pushAll payloads = r.feedAll pieces := by
  induction payloads generalizing r pieces with
  | nil =>
    cases pieces with
    | nil => rfl
    | cons p ps => cases h
  | cons payload payloads ih =>
    cases pieces with
    | nil => cases h
    | cons p ps =>
      rw [List.map_cons, List.map_cons, List.cons.injEq] at h
      rw [pushAll_cons, push_of_some h.1, ih _ h.2]
      rfl

/-- Payloads leave behind what their pieces leave behind, and but for complaints about headers they
lead to what these lead to. -/
theorem pushAll_feedAll (r : Reassembler) (payloads : List Bytes) :
    (r.pushAll payloads).2 = (r.feedAll (payloads.filterMap Piece.of?)).2 ∧
    (r.pushAll payloads).1.filter (·.headerError?.isNone) =
      (r.feedAll (payloads.filterMap Piece.of?)).1 := by
  induction payloads generalizing r with
  | nil => exact ⟨rfl, rfl⟩
  | cons payload payloads ih =>
    rw [pushAll_cons, List.filter_append]
    rcases r.push_cases payload with ⟨e, -, hnone, hpush⟩ | ⟨p, -, hsome, hpush⟩
    · rw [hpush, List.filterMap_cons_none hnone]
      exact ih r
    · obtain ⟨hstate, houtcomes⟩ := ih (r.feed p).2
      rw [hpush, List.filterMap_cons_some hsome, feedAll]
      refine ⟨hstate, ?_⟩
      rw [houtcomes, List.filter_eq_self.mpr]
      intro o ho
      rw [List.filterMap_eq_nil_iff.mp (r.headerErrors_feed p) o ho]
      rfl

/-- There is one complaint for every payload whose header does not parse. -/
theorem headerErrors_pushAll (r : Reassembler) (payloads : List Bytes) :
    (r.pushAll payloads).1.filterMap Outcome.headerError? = payloads.filterMap Header.error? := by
  induction payloads generalizing r with
  | nil => rfl
  | cons payload payloads ih =>
    rw [pushAll_cons, List.filterMap_append, ih]
    rcases r.push_cases payload with ⟨e, hsome, -, hpush⟩ | ⟨p, hnone, -, hpush⟩
    · rw [hpush, List.filterMap_cons_some hsome]
      rfl
    · rw [hpush, List.filterMap_cons_none hnone, headerErrors_feed]
      rfl

/-- Frames come from pieces alone. -/
theorem frames_pushAll (r : Reassembler) (payloads : List Bytes) :
    Outcome.frames (r.pushAll payloads).1 =
      Outcome.frames (r.feedAll (payloads.filterMap Piece.of?)).1 := by
  rw [← (r.pushAll_feedAll payloads).2, Outcome.frames, Outcome.frames, List.filterMap_filter]
  congr
  funext o
  cases o <;> rfl

/-! ### Step by step -/

/-- What holds of every operation, of none, and of one behind another if it holds of both. -/
structure Stepwise (P : Reassembler → List Outcome × Reassembler → Prop) : Prop where
  stay (r : Reassembler) : P r ([], r)
  append {r : Reassembler} {first later : List Outcome × Reassembler} :
    P r first → P first.2 later → P r (first.1 ++ later.1, later.2)
  headerError (r : Reassembler) (e : HeaderError) : P r ([.headerTooShort e], r)
  payloadError (r : Reassembler) :
    P r ([.dropped .payloadError r.inProgress], { r.discard with toggle := none })
  crossBoundary (r : Reassembler) : P r r.crossBoundary
  taken (r : Reassembler) (p : Piece) : P r (r.taken p)
  endFrame (r : Reassembler) : P r r.endFrame

namespace Stepwise

variable {P : Reassembler → List Outcome × Reassembler → Prop} (h : Stepwise P)

include h

theorem feed (r : Reassembler) (p : Piece) : P r (r.feed p) := by
  cases herror : p.header.error with
  | true =>
    rw [feed_error herror]
    exact h.payloadError r
  | false =>
    have hbounded : P r (r.bounded p) := by
      unfold bounded
      split
      · exact h.crossBoundary r
      · exact h.stay r
    have hclosed (r : Reassembler) : P r (r.closed p) := by
      unfold closed
      split
      · exact h.endFrame r
      · exact h.stay r
    rw [feed_clean herror]
    exact h.append (h.append hbounded (h.taken _ p)) (hclosed _)

theorem push (r : Reassembler) (payload : Bytes) : P r (r.push payload) := by
  rcases r.push_cases payload with ⟨e, -, -, hpush⟩ | ⟨p, -, -, hpush⟩
  · exact hpush ▸ h.headerError r e
  · exact hpush ▸ h.feed r p

theorem pushAll (r : Reassembler) (payloads : List Bytes) : P r (r.pushAll payloads) := by
  induction payloads generalizing r with
  | nil => exact h.stay r
  | cons payload payloads ih => exact h.append (h.push r payload) (ih _)

end Stepwise

/-! ### The layout -/

/-- The layout stays as it is, and the frames that come of it have its geometry. -/
structure Shapes (r : Reassembler) (result : List Outcome × Reassembler) : Prop where
  layout : result.2.layout = r.layout
  frames : ∀ frame ∈ Outcome.frames result.1, r.layout.Describes frame

namespace Shapes

variable {r r' : Reassembler}

theorem nothing (same : r'.layout = r.layout) : r.Shapes ([], r') := ⟨same, nofun⟩

theorem frame {frame : CompletedFrame} (same : r'.layout = r.layout)
    (shape : r.layout.Describes frame) : r.Shapes ([.frame frame], r') := by
  refine ⟨same, fun f hf => ?_⟩
  obtain rfl : f = frame := by simpa [Outcome.frames, Outcome.frame?] using hf
  exact shape

theorem other {o : Outcome} (same : r'.layout = r.layout) (frame : o.frame? = none) :
    r.Shapes ([o], r') := by
  refine ⟨same, fun f hf => ?_⟩
  simp [Outcome.frames, frame] at hf

theorem append {first later : List Outcome × Reassembler} (h : r.Shapes first)
    (h' : first.2.Shapes later) : r.Shapes (first.1 ++ later.1, later.2) := by
  refine ⟨h'.layout.trans h.layout, fun f hf => ?_⟩
  rw [Outcome.frames_append] at hf
  rcases List.mem_append.mp hf with hf | hf
  · exact h.frames f hf
  · exact h.layout ▸ h'.frames f hf

end Shapes

theorem stepwise_shapes : Stepwise Shapes where
  stay _ := .nothing rfl
  append := .append
  headerError _ _ := .other rfl rfl
  payloadError _ := .other rfl rfl
  crossBoundary r := by
    rcases r.crossBoundary_cases with ⟨-, h⟩ | ⟨-, -, h⟩ | ⟨-, -, h⟩
    · exact h ▸ .nothing rfl
    · exact h ▸ .frame rfl ⟨rfl, rfl, rfl⟩
    · exact h ▸ .other rfl rfl
  taken r p := by
    unfold taken
    rcases accept_cases { r with toggle := some p.header.frameId } p.header.pts p.data with
      ⟨-, h⟩ | ⟨-, -, -, h⟩ | ⟨-, -, -, h⟩
    · exact h ▸ .nothing rfl
    · exact h ▸ .other rfl rfl
    · exact h ▸ .nothing rfl
  endFrame r := by
    rcases r.endFrame_cases with ⟨-, h⟩ | ⟨-, -, h⟩ | ⟨-, -, h⟩
    · exact h ▸ .nothing rfl
    · exact h ▸ .nothing rfl
    · exact h ▸ .frame rfl ⟨rfl, rfl, rfl⟩

theorem layout_pushAll (layout : FrameLayout) (payloads : List Bytes) :
    ((Reassembler.new layout).pushAll payloads).2.layout = layout :=
  (stepwise_shapes.pushAll (Reassembler.new layout) payloads).layout

/-- Every frame has the geometry of the layout. -/
theorem describes_of_mem_frames {layout : FrameLayout} {payloads : List Bytes} {frame : CompletedFrame}
    (h : frame ∈ Outcome.frames ((Reassembler.new layout).pushAll payloads).1) :
    layout.Describes frame :=
  (stepwise_shapes.pushAll (Reassembler.new layout) payloads).frames frame h

end Reassembler

end UsbVideo
