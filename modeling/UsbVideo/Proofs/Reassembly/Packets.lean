import Mathlib.Logic.Relation
import UsbVideo.Proofs.Reassembly.Piece

/-!
# Frames do not depend on packets

A sender may carry the same data in one payload or in several. A `Cut` of a piece has the same frame id
and presentation time on every part, and the flag for the end of the frame on the last part only:

    payload  ──push──▶  outcomes, reassembler
       │ cut                 ∥ but for the size of an overflow
    payloads ──pushAll──▶ outcomes, reassembler

Whether a frame that overflows is one byte or many beyond its limit depends on the cut, so the number of
bytes dropped does, too. Nothing else does (`alike_feedAll_cut`), for one payload cut and hence for a
whole stream of them (`Refines`).
-/

namespace UsbVideo

namespace Outcome

/-- Leaves open how far a frame had grown when it overflowed. -/
def unsized : Outcome → Outcome
  | dropped .overflow _ => dropped .overflow 0
  | o => o

/-- A frame, or one that was not finished. -/
def isClosing : Outcome → Bool
  | frame _ | unfinished _ => true
  | _ => false

def isOverflow : Outcome → Bool
  | dropped .overflow _ => true
  | _ => false

@[simp] theorem isClosing_unsized (o : Outcome) : o.unsized.isClosing = o.isClosing := by
  unfold unsized
  split <;> rfl

@[simp] theorem isOverflow_unsized (o : Outcome) : o.unsized.isOverflow = o.isOverflow := by
  unfold unsized
  split <;> rfl

theorem unsized_of_isClosing {o : Outcome} (h : o.isClosing = true) : o.unsized = o := by
  cases o with
  | frame f => rfl
  | unfinished n => rfl
  | dropped reason n => cases h
  | headerTooShort e => cases h

/-- Outcomes alike but for the size of overflows end the same frames in the same way. -/
theorem closing_of_unsized {os os' : List Outcome} (h : os.map unsized = os'.map unsized) :
    os.filter isClosing = os'.filter isClosing := by
  have hself (os : List Outcome) : (os.map unsized).filter isClosing = os.filter isClosing := by
    rw [List.filter_map]
    have hsame : isClosing ∘ unsized = isClosing := funext isClosing_unsized
    rw [hsame]
    refine (List.map_congr_left fun o ho => ?_).trans (List.map_id _)
    exact unsized_of_isClosing (List.mem_filter.mp ho).2
  rw [← hself os, ← hself os', h]

theorem overflows_of_unsized {os os' : List Outcome} (h : os.map unsized = os'.map unsized) :
    os.countP isOverflow = os'.countP isOverflow := by
  have hself (os : List Outcome) : (os.map unsized).countP isOverflow = os.countP isOverflow := by
    rw [List.countP_map]
    congr 1
    exact funext isOverflow_unsized
  rw [← hself os, ← hself os', h]

/-- Frames are among the outcomes that end a frame. -/
theorem frames_filter_isClosing (os : List Outcome) : frames (os.filter isClosing) = frames os := by
  rw [frames, frames, List.filterMap_filter]
  congr
  funext o
  cases o <;> rfl

end Outcome

namespace Reassembler

/-! ### Alike but for the size of overflows -/

/-- The same reassembler, and the same outcomes but for the size of overflows. -/
structure Alike (s s' : List Outcome × Reassembler) : Prop where
  outcomes : s.1.map Outcome.unsized = s'.1.map Outcome.unsized
  same : s.2 = s'.2

namespace Alike

variable {s s' s'' : List Outcome × Reassembler}

protected theorem refl (s : List Outcome × Reassembler) : Alike s s := ⟨rfl, rfl⟩

theorem symm (h : Alike s s') : Alike s' s := ⟨h.outcomes.symm, h.same.symm⟩

theorem trans (h : Alike s s') (h' : Alike s' s'') : Alike s s'' :=
  ⟨h.outcomes.trans h'.outcomes, h.same.trans h'.same⟩

/-- What comes before and what comes after may be alike, too. -/
theorem andThen (h : Alike s s') {f f' : Reassembler → List Outcome × Reassembler}
    (hf : ∀ r, Alike (f r) (f' r)) :
    Alike (s.1 ++ (f s.2).1, (f s.2).2) (s'.1 ++ (f' s'.2).1, (f' s'.2).2) := by
  obtain ⟨houtcomes, hsame⟩ := hf s'.2
  refine ⟨?_, ?_⟩
  · rw [List.map_append, List.map_append, h.outcomes, h.same, houtcomes]
  · rw [h.same, hsame]

end Alike

/-! ### Data in two parts -/

/-- What is too much stays too much when there is more. -/
theorem exceeds_mono {layout : FrameLayout} {size more : Nat} (h : exceeds layout size = true)
    (hle : size ≤ more) : exceeds layout more = true := by
  unfold exceeds at h ⊢
  cases hmax : layout.maxFrameSize with
  | none =>
    rw [hmax] at h
    cases h
  | some max =>
    rw [hmax] at h
    simp only [decide_eq_true_eq] at h ⊢
    exact Nat.lt_of_lt_of_le h hle

theorem toggle_accept (r : Reassembler) (pts : Option UInt32) (data : Bytes) :
    (r.accept pts data).2.toggle = r.toggle := by
  rcases r.accept_cases pts data with ⟨-, h⟩ | ⟨-, -, -, h⟩ | ⟨-, -, -, h⟩
  · rw [h]
  · rw [h]
    rfl
  · rw [h]

/-- A reassembler that skips a frame takes nothing in. -/
theorem accept_of_discarding {r : Reassembler} (h : r.discarding = true) (pts : Option UInt32)
    (data : Bytes) : r.accept pts data = ([], r) := by
  simp [accept, h]

theorem accept_of_exceeds {r : Reassembler} {data : Bytes} (hdata : data ≠ [])
    (hdiscarding : r.discarding = false)
    (h : exceeds r.layout (r.buffer.size + data.length) = true) (pts : Option UInt32) :
    r.accept pts data = ([.dropped .overflow (r.buffer.size + data.length)],
      { r.discard with discarding := true }) := by
  simp [accept, hdata, hdiscarding, h]

theorem accept_of_fits {r : Reassembler} {data : Bytes} (hdata : data ≠ [])
    (hdiscarding : r.discarding = false)
    (h : exceeds r.layout (r.buffer.size + data.length) = false) (pts : Option UInt32) :
    r.accept pts data = ([], { r with
      buffer := r.buffer ++ data
      pts := if r.buffer.isEmpty then pts else r.pts }) := by
  simp [accept, hdata, hdiscarding, h]

/-- Data may come in two parts. If the first part makes the frame overflow, so does the whole, and the
second part is skipped. -/
theorem alike_accept_append (r : Reassembler) (pts : Option UInt32) (xs ys : Bytes) :
    Alike ((r.accept pts xs).1 ++ ((r.accept pts xs).2.accept pts ys).1,
        ((r.accept pts xs).2.accept pts ys).2)
      (r.accept pts (xs ++ ys)) := by
  rcases r.accept_cases pts xs with
    ⟨rfl | hdiscarding, hfirst⟩ | ⟨hxs, hdiscarding, hexceeds, hfirst⟩ |
      ⟨hxs, hdiscarding, hfits, hfirst⟩
  · rw [hfirst]
    exact .refl _
  · rw [hfirst, accept_of_discarding hdiscarding, accept_of_discarding hdiscarding]
    exact .refl _
  · have hnonempty : xs ++ ys ≠ [] := by simp [hxs]
    have hwhole := accept_of_exceeds hnonempty hdiscarding (exceeds_mono hexceeds (by simp)) pts
    rw [hfirst, hwhole, accept_of_discarding rfl]
    exact ⟨rfl, rfl⟩
  · obtain ⟨r', hr'⟩ : ∃ r', r' = { r with
        buffer := r.buffer ++ xs
        pts := if r.buffer.isEmpty then pts else r.pts } := ⟨_, rfl⟩
    have hsize : r'.buffer.size = r.buffer.size + xs.length := by
      rw [← Array.length_toList, hr']
      simp
    have hlayout : r'.layout = r.layout := by rw [hr']
    have hgoesOn : r'.discarding = false := by rw [hr', hdiscarding]
    have hlength : r.buffer.size + (xs ++ ys).length = r.buffer.size + xs.length + ys.length := by
      rw [List.length_append, Nat.add_assoc]
    have hnonempty : xs ++ ys ≠ [] := by simp [hxs]
    by_cases hys : ys = []
    · rw [hys, List.append_nil, hfirst]
      exact .refl _
    rw [hfirst, ← hr']
    cases hexceeds : exceeds r.layout (r.buffer.size + xs.length + ys.length) with
    | true =>
      rw [accept_of_exceeds hys hgoesOn (by rw [hlayout, hsize, hexceeds]),
        accept_of_exceeds hnonempty hdiscarding (by rw [hlength, hexceeds])]
      exact ⟨rfl, by rw [hr']; rfl⟩
    | false =>
      rw [accept_of_fits hys hgoesOn (by rw [hlayout, hsize, hexceeds]),
        accept_of_fits hnonempty hdiscarding (by rw [hlength, hexceeds])]
      -- The first part has fixed the presentation time already.
      have hbuffer : r'.buffer.isEmpty = false := by
        rw [← Array.isEmpty_toList, hr']
        simp [hxs]
      have hdata : r'.buffer ++ ys = r.buffer ++ (xs ++ ys) := by
        rw [← Array.toList_inj, hr']
        simp
      rw [hbuffer, hdata, hr']
      exact .refl _

end Reassembler

/-! ### A piece in several -/

namespace Piece

/-- `init` and `last` carry the data of `p` between them, under its frame id and presentation time; if
`p` ends the frame, `last` does. -/
structure Cut (p : Piece) (init : List Piece) (last : Piece) : Prop where
  data : joined (init ++ [last]) = p.data
  same : ∀ q ∈ init ++ [last], q.header.error = false ∧
    q.header.frameId = p.header.frameId ∧ q.header.pts = p.header.pts
  inner : ∀ q ∈ init, q.header.endOfFrame = false
  ended : last.header.endOfFrame = p.header.endOfFrame

instance (p : Piece) (init : List Piece) (last : Piece) : Decidable (p.Cut init last) :=
  decidable_of_iff
    (joined (init ++ [last]) = p.data ∧
      (∀ q ∈ init ++ [last], q.header.error = false ∧
        q.header.frameId = p.header.frameId ∧ q.header.pts = p.header.pts) ∧
      (∀ q ∈ init, q.header.endOfFrame = false) ∧
      last.header.endOfFrame = p.header.endOfFrame)
    ⟨fun ⟨hdata, hsame, hinner, hended⟩ => ⟨hdata, hsame, hinner, hended⟩,
      fun h => ⟨h.data, h.same, h.inner, h.ended⟩⟩

/-- Behind the first of several pieces the rest is a cut of what the first left over. -/
theorem Cut.tail {p q last : Piece} {init : List Piece} (h : p.Cut (q :: init) last) :
    Cut ⟨p.header, joined (init ++ [last])⟩ init last where
  data := rfl
  same := fun q' hq' => h.same q' (List.mem_cons_of_mem q hq')
  inner := fun q' hq' => h.inner q' (List.mem_cons_of_mem q hq')
  ended := h.ended

end Piece

namespace Reassembler

theorem toggle_taken (r : Reassembler) (p : Piece) :
    (r.taken p).2.toggle = some p.header.frameId := toggle_accept ..

/-- Behind a piece without the flag for its end the frame is still in progress, so the next piece with
the same frame id is at no boundary. -/
theorem bounded_taken {p q : Piece} (h : q.header.frameId = p.header.frameId) (r : Reassembler) :
    (r.taken p).2.bounded q = ([], (r.taken p).2) := by
  rw [bounded, toggle_taken, h, if_neg (by simp)]

/-- The data of a piece may come in two. -/
theorem alike_taken_append {p q q' : Piece} (hdata : q.data ++ q'.data = p.data)
    (hq : q.header.frameId = p.header.frameId ∧ q.header.pts = p.header.pts)
    (hq' : q'.header.frameId = p.header.frameId ∧ q'.header.pts = p.header.pts) (r : Reassembler) :
    Alike ((r.taken q).1 ++ ((r.taken q).2.taken q').1, ((r.taken q).2.taken q').2)
      (r.taken p) := by
  have htoggle : { (r.taken q).2 with toggle := some p.header.frameId } = (r.taken q).2 := by
    rw [← hq.1, ← toggle_taken r q]
  have hsecond : (r.taken q).2.taken q' = (r.taken q).2.accept p.header.pts q'.data := by
    rw [taken, hq'.1, hq'.2, htoggle]
  have hfirst : r.taken q = { r with toggle := some p.header.frameId }.accept p.header.pts q.data := by
    rw [taken, hq.1, hq.2]
  rw [hsecond, hfirst, taken, ← hdata]
  exact alike_accept_append _ _ _ _

/-- A piece may come in two. -/
theorem alike_feed_append {p q q' : Piece} (hdata : q.data ++ q'.data = p.data)
    (hp : p.header.error = false)
    (hq : q.header.error = false ∧ q.header.frameId = p.header.frameId ∧
      q.header.pts = p.header.pts)
    (hq' : q'.header.error = false ∧ q'.header.frameId = p.header.frameId ∧
      q'.header.pts = p.header.pts)
    (hinner : q.header.endOfFrame = false)
    (hended : q'.header.endOfFrame = p.header.endOfFrame) (r : Reassembler) :
    Alike ((r.feed q).1 ++ ((r.feed q).2.feed q').1, ((r.feed q).2.feed q').2) (r.feed p) := by
  have hbounded : r.bounded q = r.bounded p := by rw [bounded, bounded, hq.2.1]
  have hclosed : ∀ r' : Reassembler, r'.closed q' = r'.closed p := fun r' => by
    rw [closed, closed, hended]
  have hopen : ∀ r' : Reassembler, r'.closed q = ([], r') := fun r' => by
    rw [closed, hinner, if_neg Bool.false_ne_true]
  have htaken := alike_taken_append hdata hq.2 hq'.2 (r.bounded p).2
  rw [feed_clean hp, feed_clean hq.1, hbounded, hopen, feed_clean hq'.1,
    bounded_taken (hq'.2.1.trans hq.2.1.symm), hclosed]
  have hdone := htaken.andThen fun r' => Alike.refl (r'.closed p)
  refine ⟨?_, hdone.same⟩
  simpa using hdone.outcomes

/-- A piece may come in several. The induction is on the pieces: each hands what is left of the data on
to the rest, which are a cut of it. -/
theorem alike_feedAll_cut {p last : Piece} {init : List Piece} (hp : p.header.error = false)
    (h : p.Cut init last) (r : Reassembler) :
    Alike (r.feedAll (init ++ [last])) (r.feed p) := by
  induction init generalizing p r with
  | nil =>
    obtain ⟨hclean, hid, hpts⟩ := h.same last (by simp)
    have hdata : last.data = p.data := by simpa using h.data
    have hsame : r.feed last = r.feed p := by
      rw [feed_clean hclean, feed_clean hp, bounded, bounded, taken, taken, closed, closed, hid, hpts,
        h.ended, hdata]
    rw [List.nil_append, feedAll, feedAll_nil, List.append_nil, hsame]
    exact .refl _
  | cons q init ih =>
    let rest : Piece := ⟨p.header, Piece.joined (init ++ [last])⟩
    have hclean : rest.header.error = false := hp
    have hcut : rest.Cut init last := h.tail
    have hrest : ∀ r' : Reassembler, Alike (r'.feedAll (init ++ [last])) (r'.feed rest) := by
      intro r'
      exact ih hclean hcut r'
    have hdata : q.data ++ rest.data = p.data := h.data
    have htwo : Alike ((r.feed q).1 ++ ((r.feed q).2.feed rest).1, ((r.feed q).2.feed rest).2)
        (r.feed p) := by
      apply alike_feed_append hdata hp (h.same q (by simp))
      · exact ⟨hp, rfl, rfl⟩
      · exact h.inner q (by simp)
      · rfl
    exact ((Alike.refl (r.feed q)).andThen hrest).trans htwo

/-! ### Streams of payloads -/

/-- The payloads carry the data of `payload` between them, under its frame id and presentation time; if
it ends the frame, the last of them does. All headers parse, and none has the error bit. -/
def CutInto (payload : Bytes) (payloads : List Bytes) : Prop :=
  ∃ p init last, Piece.of? payload = some p ∧ p.header.error = false ∧
    payloads.map Piece.of? = (init ++ [last]).map some ∧ p.Cut init last

/-- One payload cut in several leads to the same but for the size of an overflow. -/
theorem alike_pushAll_cut {payload : Bytes} {payloads : List Bytes} (h : CutInto payload payloads)
    (r : Reassembler) : Alike (r.pushAll payloads) (r.push payload) := by
  obtain ⟨p, init, last, hpiece, hclean, hpieces, hcut⟩ := h
  rw [push_of_some hpiece, pushAll_pieces r hpieces]
  exact alike_feedAll_cut hclean hcut r

/-- The first stream of payloads is the second, some payloads of it cut in several. -/
inductive Refines : List Bytes → List Bytes → Prop
  | nil : Refines [] []
  | keep (payload : Bytes) {fine coarse : List Bytes} (rest : Refines fine coarse) :
      Refines (payload :: fine) (payload :: coarse)
  | cut {payload : Bytes} {payloads fine coarse : List Bytes} (here : CutInto payload payloads)
      (rest : Refines fine coarse) : Refines (payloads ++ fine) (payload :: coarse)

theorem alike_pushAll_refines {fine coarse : List Bytes} (h : Refines fine coarse)
    (r : Reassembler) : Alike (r.pushAll fine) (r.pushAll coarse) := by
  induction h generalizing r with
  | nil => exact .refl _
  | keep payload rest ih =>
    rw [pushAll_cons, pushAll_cons]
    exact (Alike.refl (r.push payload)).andThen ih
  | cut here rest ih =>
    rw [pushAll_append, pushAll_cons]
    exact (alike_pushAll_cut here r).andThen ih

/-- Streams that become each other by cutting payloads and by putting cuts together again. -/
theorem alike_pushAll_eqvGen {a b : List Bytes} (h : Relation.EqvGen Refines a b)
    (r : Reassembler) : Alike (r.pushAll a) (r.pushAll b) := by
  induction h with
  | rel a b h => exact alike_pushAll_refines h r
  | refl a => exact .refl _
  | symm a b _ ih => exact ih.symm
  | trans a b c _ _ ih ih' => exact ih.trans ih'

/-- Frames do not depend on how their data is cut into payloads: whatever came before, the payloads of a
cut lead to the same state, the same frames and unfinished frames and as many overflows as the payload
itself, so streams that differ in their cuts alone yield the same frames under the same numbers and
presentation times. -/
theorem pushAll_cut (r : Reassembler) :
    (∀ payload payloads, CutInto payload payloads →
      (r.pushAll payloads).2 = (r.push payload).2 ∧
      (r.pushAll payloads).1.filter Outcome.isClosing =
        (r.push payload).1.filter Outcome.isClosing ∧
      (r.pushAll payloads).1.countP Outcome.isOverflow =
        (r.push payload).1.countP Outcome.isOverflow) ∧
    (∀ a b, Relation.EqvGen Refines a b →
      (r.pushAll a).2 = (r.pushAll b).2 ∧
      Outcome.frames (r.pushAll a).1 = Outcome.frames (r.pushAll b).1) := by
  refine ⟨fun payload payloads h => ?_, fun a b h => ?_⟩
  · have halike := alike_pushAll_cut h r
    exact ⟨halike.same, Outcome.closing_of_unsized halike.outcomes,
      Outcome.overflows_of_unsized halike.outcomes⟩
  · have halike := alike_pushAll_eqvGen h r
    refine ⟨halike.same, ?_⟩
    rw [← Outcome.frames_filter_isClosing, Outcome.closing_of_unsized halike.outcomes,
      Outcome.frames_filter_isClosing]

/-- A frame that overflows and one that fits, in two payloads and in six: the overflow is noticed one byte
earlier, and all else is the same. -/
theorem pushAll_cut_sixPayloads :
    let r := Reassembler.new { encoding := .mjpeg, width := 2, height := 2, maxFrameSize := some 4 }
    let tooLong : Bytes := [2, 0x82, 1, 2, 3, 4, 5, 6]
    let tooLongCut : List Bytes := [[2, 0x80, 1, 2, 3], [2, 0x80, 4, 5], [2, 0x82, 6]]
    let fits : Bytes := [6, 0x87, 9, 0, 0, 0, 7, 8]
    let fitsCut : List Bytes :=
      [[6, 0x85, 9, 0, 0, 0], [6, 0x85, 9, 0, 0, 0, 7], [7, 0x87, 9, 0, 0, 0, 0xEE, 8]]
    CutInto tooLong tooLongCut ∧ Refines (tooLongCut ++ fitsCut) [tooLong, fits] ∧
    (r.push tooLong).1 = [.dropped .overflow 6] ∧
    (r.pushAll tooLongCut).1 = [.dropped .overflow 5] ∧
    (r.pushAll tooLongCut).2 = (r.push tooLong).2 ∧
    (r.pushAll tooLongCut).1.countP Outcome.isOverflow = 1 ∧
    Outcome.frames (r.pushAll (tooLongCut ++ fitsCut)).1 =
      [⟨⟨1, 2, 2, .mjpeg, some 9⟩, [7, 8]⟩] := by
  intro r tooLong tooLongCut fits fitsCut
  have hfirst : CutInto tooLong tooLongCut :=
    ⟨_, [⟨{ length := 2, endOfHeader := true }, [1, 2, 3]⟩,
        ⟨{ length := 2, endOfHeader := true }, [4, 5]⟩],
      ⟨{ length := 2, endOfFrame := true, endOfHeader := true }, [6]⟩, rfl, rfl, by decide, by decide⟩
  let timed : Header := { length := 6, frameId := true, endOfHeader := true, pts := some 9 }
  have hsecond : CutInto fits fitsCut :=
    ⟨_, [⟨timed, []⟩, ⟨timed, [7]⟩], ⟨{ timed with length := 7, endOfFrame := true }, [8]⟩, rfl, rfl,
      by decide, by decide⟩
  have hrefines : Refines (tooLongCut ++ (fitsCut ++ [])) [tooLong, fits] :=
    .cut hfirst (.cut hsecond .nil)
  obtain ⟨hstate, -, hoverflows⟩ := (pushAll_cut r).1 tooLong tooLongCut hfirst
  obtain ⟨-, hframes⟩ := (pushAll_cut r).2 _ _ (.rel _ _ hrefines)
  have hcoarse : Outcome.frames (r.pushAll [tooLong, fits]).1 =
      [⟨⟨1, 2, 2, .mjpeg, some 9⟩, [7, 8]⟩] := by decide
  exact ⟨hfirst, hrefines, by decide, by decide, hstate, hoverflows.trans (by decide),
    hframes.trans hcoarse⟩

end Reassembler

end UsbVideo
