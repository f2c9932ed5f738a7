import Mathlib.Data.List.Infix
import UsbVideo.Decode.Codecs

/-!
# Padded images

Cameras put bytes behind an image, and nothing says how many. The image is found by its markers:

    FF D8 ……… FF D9 ……… FF D9 │ padding        no FF D9 in the padding

`lastEndMarker_of_padded` is what the search finds. More padding does not move the last marker, unless the two
bytes of a new one meet at the seam, so that the image decoder is asked about the same bytes
(`decode_padded`). Whom a decoder asks is told by what its result depends on, `FormatDecoder.Asks`.
-/

namespace UsbVideo

/-! ### Markers -/

/-- What an image begins with. -/
def startMarker : Bytes := [0xFF, 0xD8]

/-- What an image ends with. -/
def endMarker : Bytes := [0xFF, 0xD9]

/-- The data is what ends with a marker, and padding that has none. -/
structure Padded (data image padding : Bytes) : Prop where
  parts : data = image ++ padding
  ended : endMarker <:+ image
  last : ¬ endMarker <:+: padding

theorem endMarker_prefix_iff {a b : UInt8} {rest : Bytes} :
    endMarker <+: a :: b :: rest ↔ a = 0xFF ∧ b = 0xD9 := by
  simp [endMarker, List.cons_prefix_cons, eq_comm]

/-- Where there is no marker the search goes by what it found before. -/
theorem lastEndMarker_go_of_none {data : Bytes} (none : ¬ endMarker <:+: data) (pos : Nat)
    (found : Option Nat) : lastEndMarker.go pos found data = found := by
  fun_induction lastEndMarker.go pos found data with
  | case1 pos found a b rest ih =>
    rw [List.infix_cons_iff, not_or, endMarker_prefix_iff] at none
    rw [if_neg none.1] at ih
    rw [if_neg none.1]
    exact ih none.2
  | case2 pos found data _ => rfl

/-- Where there are markers the search finds the last one, whatever it found before. -/
theorem lastEndMarker_go_append {padding : Bytes} (last : ¬ endMarker <:+: padding) (before : Bytes)
    (pos : Nat) (found : Option Nat) :
    lastEndMarker.go pos found (before ++ endMarker ++ padding) = some (pos + before.length + 2) := by
  induction before generalizing pos found with
  | nil =>
    have hrest : ¬ endMarker <:+: 0xD9 :: padding := by
      rw [List.infix_cons_iff, not_or]
      refine ⟨fun h => ?_, last⟩
      exact absurd (List.cons_prefix_cons.mp h).1 (by decide)
    show lastEndMarker.go (pos + 1) (some (pos + 2)) (0xD9 :: padding) = some (pos + 0 + 2)
    exact lastEndMarker_go_of_none hrest _ _
  | cons a before ih =>
    obtain ⟨b, rest, hnext⟩ : ∃ b rest, before ++ endMarker ++ padding = b :: rest := by
      cases before with
      | nil => exact ⟨_, _, rfl⟩
      | cons b before => exact ⟨_, _, rfl⟩
    rw [List.cons_append, List.cons_append, hnext, lastEndMarker.go, ← hnext, ih, List.length_cons]
    congr 1
    omega

theorem lastEndMarker_of_padded {data image padding : Bytes} (h : Padded data image padding) :
    lastEndMarker data = some image.length := by
  obtain ⟨before, rfl⟩ := h.ended
  rw [h.parts, lastEndMarker, lastEndMarker_go_append h.last, List.length_append, Nat.zero_add]
  rfl

/-- Data with a marker has a last one. -/
theorem exists_padded {data : Bytes} (marked : endMarker <:+: data) :
    ∃ image padding, Padded data image padding := by
  induction data with
  | nil => exact absurd (List.infix_nil.mp marked) (by decide)
  | cons a data ih =>
    by_cases hlater : endMarker <:+: data
    · obtain ⟨image, padding, hparts, hended, hlast⟩ := ih hlater
      exact ⟨a :: image, padding, by rw [hparts]; rfl, hended.trans (List.suffix_cons a image), hlast⟩
    · obtain ⟨padding, hfirst⟩ := (List.infix_cons_iff.mp marked).resolve_right hlater
      refine ⟨endMarker, padding, hfirst.symm, List.suffix_refl _, fun h => hlater ?_⟩
      -- What is behind the first two bytes is behind the first one.
      obtain rfl : 0xD9 :: padding = data := (List.cons.inj hfirst).2
      exact List.infix_cons h

/-- Two parts without a marker have none together, unless one lies across the seam. -/
theorem not_endMarker_append {data padding : Bytes} (first : ¬ endMarker <:+: data)
    (later : ¬ endMarker <:+: padding)
    (seam : ¬ (data.getLast? = some 0xFF ∧ padding.head? = some 0xD9)) :
    ¬ endMarker <:+: data ++ padding := by
  rw [List.infix_append_iff_ne_nil]
  rintro (h | h | ⟨left, right, hleft, hright, hmarker, ⟨before, rfl⟩, ⟨behind, rfl⟩⟩)
  · exact first h
  · exact later h
  · obtain ⟨rfl, rfl⟩ : left = [0xFF] ∧ right = [0xD9] := by
      match left, right with
      | [_], [_] => simpa [endMarker, eq_comm] using hmarker
      | [_], _ :: _ :: _ => simp [endMarker] at hmarker
      | _ :: _ :: _, _ :: _ => simp [endMarker] at hmarker
    exact seam (by simp)

/-- A byte can complete a marker that the data only begins. -/
example : lastEndMarker [0xFF, 0xD8, 0xFF, 0xD9, 0xFF] = some 4 ∧
    lastEndMarker ([0xFF, 0xD8, 0xFF, 0xD9, 0xFF] ++ [0xD9]) = some 6 := by decide

/-- More padding is padding. -/
theorem Padded.append {data image padding more : Bytes} (h : Padded data image padding)
    (unmarked : ¬ endMarker <:+: more)
    (seam : ¬ (data.getLast? = some 0xFF ∧ more.head? = some 0xD9)) :
    Padded (data ++ more) image (padding ++ more) := by
  refine ⟨by rw [h.parts, List.append_assoc], h.ended, not_endMarker_append h.last unmarked ?_⟩
  rintro ⟨hlast, hhead⟩
  refine seam ⟨?_, hhead⟩
  rw [h.parts, List.getLast?_append, hlast]
  rfl

/-! ### The image in the data -/

theorem imageBytes_of_padded {data image padding : Bytes} (start : startMarker <+: data)
    (h : Padded data image padding) : imageBytes data = .ok image := by
  have htake : data.take 2 = [0xFF, 0xD8] := (List.prefix_iff_eq_take.mp start).symm
  rw [imageBytes, if_pos htake, lastEndMarker_of_padded h]
  dsimp only
  rw [h.parts, List.take_left]

theorem imageBytes_of_unmarked {data : Bytes} (start : startMarker <+: data)
    (unmarked : ¬ endMarker <:+: data) : imageBytes data = .error .missingEnd := by
  have htake : data.take 2 = [0xFF, 0xD8] := (List.prefix_iff_eq_take.mp start).symm
  rw [imageBytes, if_pos htake, lastEndMarker, lastEndMarker_go_of_none unmarked]

theorem imageBytes_of_not_started {data : Bytes} (other : ¬ startMarker <+: data) :
    imageBytes data = .error .missingStart := by
  have htake : data.take 2 ≠ [0xFF, 0xD8] := fun h => other (List.prefix_iff_eq_take.mpr h.symm)
  rw [imageBytes, if_neg htake]

/-! ### Frames -/

namespace FormatDecoder

/-- The same decoder of frames on another decoder of images. -/
def withJpeg (d : FormatDecoder) (jpeg : Bytes → Except DecodeFailure Image) : FormatDecoder :=
  { d with codecs := { d.codecs with jpeg } }

/-- The image decoder is asked about these byte strings and no others: what it would answer about others
makes no difference, and if it fails on one of these, so does decoding. -/
structure Asks (d : FormatDecoder) (frame : CompletedFrame) (asked : List Bytes) : Prop where
  noOthers : ∀ jpeg jpeg' : Bytes → Except DecodeFailure Image,
    (∀ bytes ∈ asked, jpeg bytes = jpeg' bytes) →
      (d.withJpeg jpeg).decode frame = (d.withJpeg jpeg').decode frame
  each : ∀ jpeg : Bytes → Except DecodeFailure Image, ∀ bytes ∈ asked, ∀ failure,
    jpeg bytes = .error failure → (d.withJpeg jpeg).decode frame = .error failure

/-- What becomes of the image decoder's answer. -/
def develop (d : FormatDecoder) (about : FrameMeta) (answer : Except DecodeFailure Image) :
    Except DecodeFailure DecodedFrame := do
  let image ← answer
  DecodeFailure.lift (checkSize ⟨about, []⟩ image)
  let p ← DecodeFailure.lift (d.presentImage image)
  return {
    data := p.data
    width := p.width
    height := p.height
    stride := d.stride p.width p.format
    format := p.format
    sequence := about.sequence
    pts := about.pts }

variable {d : FormatDecoder} {frame : CompletedFrame}

/-- Of the data of an image, decoding knows what the image decoder answers. -/
theorem decode_of_image (mjpeg : frame.encoding = .mjpeg) {image : Bytes}
    (found : imageBytes frame.data = .ok image) :
    d.decode frame = d.develop frame.toFrameMeta (d.codecs.jpeg image) := by
  have hpicture : d.decodeMjpeg frame = d.codecs.jpeg image >>= fun image =>
      DecodeFailure.lift (checkSize frame image) >>= fun _ =>
        DecodeFailure.lift (d.presentImage image) := by
    rw [decodeMjpeg, found]
    rfl
  rw [decode, picture, mjpeg]
  dsimp only
  rw [hpicture, develop]
  cases d.codecs.jpeg image with
  | error failure => rfl
  | ok image =>
    have hsize : checkSize ⟨frame.toFrameMeta, []⟩ image = checkSize frame image := rfl
    show (DecodeFailure.lift (checkSize frame image) >>= fun _ => _) >>= _ =
      DecodeFailure.lift (checkSize ⟨frame.toFrameMeta, []⟩ image) >>= _
    rw [hsize]
    cases checkSize frame image <;> rfl

theorem decode_of_refused (mjpeg : frame.encoding = .mjpeg) {e : DecodeError}
    (refused : imageBytes frame.data = .error e) : d.decode frame = .error (.error e) := by
  rw [decode, picture, mjpeg]
  dsimp only
  rw [decodeMjpeg, refused]
  rfl

theorem asks_of_image (mjpeg : frame.encoding = .mjpeg) {image : Bytes}
    (found : imageBytes frame.data = .ok image) : d.Asks frame [image] where
  noOthers jpeg jpeg' same := by
    rw [decode_of_image mjpeg found, decode_of_image mjpeg found]
    show d.develop _ (jpeg image) = d.develop _ (jpeg' image)
    rw [same image List.mem_cons_self]
  each jpeg bytes hbytes failure hfailure := by
    rw [decode_of_image mjpeg found, ← List.mem_singleton.mp hbytes]
    show d.develop _ (jpeg bytes) = _
    rw [hfailure]
    rfl

theorem asks_of_refused (mjpeg : frame.encoding = .mjpeg) {e : DecodeError}
    (refused : imageBytes frame.data = .error e) : d.Asks frame [] where
  noOthers jpeg jpeg' _ := by rw [decode_of_refused mjpeg refused, decode_of_refused mjpeg refused]
  each jpeg bytes hbytes := absurd hbytes List.not_mem_nil

/-- **Padding is harmless.** Of an MJPEG frame that has its markers, the image decoder is asked about the
bytes up to the last end marker and about nothing else, and bytes put behind the frame change nothing, as
long as they bring no end marker. Without its markers the frame is refused and the image decoder is not
asked. -/
theorem decode_padded (mjpeg : frame.encoding = .mjpeg) :
    (startMarker <+: frame.data → endMarker <:+: frame.data →
      (∃ image padding, Padded frame.data image padding ∧ d.Asks frame [image]) ∧
      ∀ more, ¬ endMarker <:+: more →
        ¬ (frame.data.getLast? = some 0xFF ∧ more.head? = some 0xD9) →
          d.decode { frame with data := frame.data ++ more } = d.decode frame) ∧
    (¬ startMarker <+: frame.data →
      d.Asks frame [] ∧ d.decode frame = .error (.error .missingStart)) ∧
    (startMarker <+: frame.data → ¬ endMarker <:+: frame.data →
      d.Asks frame [] ∧ d.decode frame = .error (.error .missingEnd)) := by
  refine ⟨fun start marked => ?_, fun other => ?_, fun start unmarked => ?_⟩
  · obtain ⟨image, padding, hpadded⟩ := exists_padded marked
    have hfound := imageBytes_of_padded start hpadded
    refine ⟨⟨image, padding, hpadded, asks_of_image mjpeg hfound⟩, fun more hmore seam => ?_⟩
    have hfound' : imageBytes (frame.data ++ more) = .ok image :=
      imageBytes_of_padded (start.trans (List.prefix_append _ _)) (hpadded.append hmore seam)
    rw [decode_of_image mjpeg hfound]
    exact @decode_of_image d { frame with data := frame.data ++ more } mjpeg image hfound'
  · have hrefused := imageBytes_of_not_started other
    exact ⟨asks_of_refused mjpeg hrefused, decode_of_refused mjpeg hrefused⟩
  · have hrefused := imageBytes_of_unmarked start unmarked
    exact ⟨asks_of_refused mjpeg hrefused, decode_of_refused mjpeg hrefused⟩

/-- The pixel tells that all bytes up to the second end marker, and none of the others, were looked at. -/
theorem decode_padded_twice :
    let d : FormatDecoder := ⟨{ encoding := .mjpeg, width := 1, height := 1 }, .native, .standIn⟩
    let frame : CompletedFrame :=
      ⟨⟨1, 1, 1, .mjpeg, none⟩, [0xFF, 0xD8, 0, 1, 1, 0xFF, 0xD9, 0, 0xFF, 0xD9, 7, 0xFF]⟩
    let out : DecodedFrame := ⟨[137], 1, 1, 1, .grey, 1, none⟩
    frame.encoding = .mjpeg ∧ d.decode frame = .ok out ∧
      d.decode { frame with data := frame.data ++ [0xD8, 0, 0xFF] } = .ok out := by
  intro d frame out
  have hok : d.decode frame = .ok out := by decide +kernel
  have hpadded := ((@decode_padded d frame rfl).1 (by decide)
    ⟨[0xFF, 0xD8, 0, 1, 1], [0, 0xFF, 0xD9, 7, 0xFF], rfl⟩).2 [0xD8, 0, 0xFF] (by decide) (by decide)
  exact ⟨rfl, hok, hpadded.trans hok⟩

end FormatDecoder

end UsbVideo
