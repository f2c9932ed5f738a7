import UsbVideo.Decode.Codecs
import UsbVideo.Proofs.Decode.InPlace

/-!
# Frames that can be converted

NV12, GREY, YUY2 and UYVY frames have a size of their own, `Sized`. A decoder accepts exactly the frames of
that size, as long as it can count it: the product that it wants to see has 64 bits (`wanted`). It hands them
on as they are, or in RGB, pixel by pixel:

    frame ──Sized──▶ data ──native──▶ data
                       └────rgb24───▶ Renders

YUY2 and UYVY go by pairs of pixels, so that the last pixel of an odd number has no macropixel. The size
does not tell, and the pixel stays black (`decode_packed`).
-/

namespace UsbVideo

open Yuv

/-! ### Pixels -/

namespace Yuv

/-- This is the pixel of three samples that stand at the site. -/
def Converts (data : Bytes) (s : Site) (px : Bytes) : Prop :=
  ∃ y u v, data[s.luma]? = some y ∧ data[s.cb]? = some u ∧ data[s.cr]? = some v ∧ px = rgb y u v

theorem converts_pixel {data : Bytes} {s : Site} (hluma : s.luma < data.length)
    (hcb : s.cb < data.length) (hcr : s.cr < data.length) : Converts data s (s.pixel data) :=
  ⟨_, _, _, InPlace.getElem?_eq_sample hluma, InPlace.getElem?_eq_sample hcb,
    InPlace.getElem?_eq_sample hcr, rfl⟩

/-- Behind the raster pixels are black. -/
theorem pixel_zeros {n pixels : Nat} {px : Nat → Bytes} (h : ∀ i, (px i).length = 3) {i : Nat}
    (hn : n ≤ i) (hi : i < pixels) :
    pixel (raster n px ++ List.replicate (3 * (pixels - n)) 0) i = [0, 0, 0] := by
  obtain ⟨k, rfl⟩ := Nat.exists_eq_add_of_le hn
  have hfront : 3 * (n + k) = (raster n px).length + 3 * k := by rw [length_raster h, Nat.mul_add]
  have hthree : min 3 (3 * (pixels - n) - 3 * k) = 3 := by omega
  rw [pixel, hfront, List.drop_length_add_append, List.drop_replicate, List.take_replicate, hthree]
  rfl

end Yuv

/-! ### Sizes -/

/-- The raw encodings known by name. -/
def Encoding.IsConvertible (e : Encoding) : Prop :=
  e = .nv12 ∨ e = .grey ∨ e = .yuy2 ∨ e = .uyvy

theorem Encoding.IsConvertible.depth_le {e : Encoding} (h : e.IsConvertible) {depth : UInt32}
    (hdepth : depth ∈ e.bitsPerPixel?) : depth.toNat ≤ 16 := by
  rcases h with rfl | rfl | rfl | rfl <;> cases hdepth <;> decide

namespace CompletedFrame

variable (frame : CompletedFrame)

def pixels : Nat := frame.width.toNat * frame.height.toNat

/-- The bytes a decoder wants to see, counted in 64 bits. -/
def wanted (depth : UInt32) : Nat := frame.pixels * depth.toNat % UInt64.size / 8

/-- 4:2:0 planes have whole blocks, and the data has the size that a decoder wants to see. -/
structure Accepted : Prop where
  blocks : frame.encoding = .nv12 → frame.width.toNat % 2 = 0 ∧ frame.height.toNat % 2 = 0
  length : ∀ depth ∈ frame.encoding.bitsPerPixel?, frame.data.length = frame.wanted depth

/-- 4:2:0 planes have whole blocks, and the data has the size of the geometry. -/
structure Sized : Prop where
  blocks : frame.encoding = .nv12 → frame.width.toNat % 2 = 0 ∧ frame.height.toNat % 2 = 0
  length : ∀ depth ∈ frame.encoding.bitsPerPixel?,
    frame.data.length = frame.pixels * depth.toNat / 8

variable {frame}

theorem accepted_iff {depth : UInt32} (h : frame.encoding.bitsPerPixel? = some depth) :
    frame.Accepted ↔
      (frame.encoding = .nv12 → frame.width.toNat % 2 = 0 ∧ frame.height.toNat % 2 = 0) ∧
        frame.data.length = frame.wanted depth := by
  constructor
  · exact fun haccepted => ⟨haccepted.blocks, haccepted.length depth h⟩
  · rintro ⟨hblocks, hlength⟩
    refine ⟨hblocks, fun depth' h' => ?_⟩
    obtain rfl := Option.some.inj (h.symm.trans h')
    exact hlength

/-- Where 64 bits hold it, what is wanted is the size. -/
theorem wanted_eq (hcount : 16 * frame.pixels < UInt64.size) {depth : UInt32}
    (hdepth : depth.toNat ≤ 16) : frame.wanted depth = frame.pixels * depth.toNat / 8 := by
  have hfits : frame.pixels * depth.toNat < UInt64.size :=
    calc frame.pixels * depth.toNat
        ≤ frame.pixels * 16 := Nat.mul_le_mul_left _ hdepth
      _ = 16 * frame.pixels := Nat.mul_comm ..
      _ < UInt64.size := hcount
  rw [wanted, Nat.mod_eq_of_lt hfits]

theorem accepted_iff_sized (h : frame.encoding.IsConvertible)
    (hcount : 16 * frame.pixels < UInt64.size) : frame.Accepted ↔ frame.Sized := by
  have hsame : ∀ depth ∈ frame.encoding.bitsPerPixel?,
      frame.wanted depth = frame.pixels * depth.toNat / 8 :=
    fun depth hdepth => wanted_eq hcount (h.depth_le hdepth)
  constructor
  · exact fun h => ⟨h.blocks, fun depth hd => (h.length depth hd).trans (hsame depth hd)⟩
  · exact fun h => ⟨h.blocks, fun depth hd => (h.length depth hd).trans (hsame depth hd).symm⟩

end CompletedFrame

theorem checkSubsampled_ok_iff {encoding : Encoding} {width height : UInt32} :
    checkSubsampled encoding width height = .ok () ↔
      width.toNat % 2 = 0 ∧ height.toNat % 2 = 0 := by
  rw [checkSubsampled]
  split
  · next h => simpa using ⟨UInt32.toNat_inj.mpr h.1, UInt32.toNat_inj.mpr h.2⟩
  · next h =>
    refine iff_of_false nofun fun heven => h ?_
    exact ⟨UInt32.toNat_inj.mp heven.1, UInt32.toNat_inj.mp heven.2⟩

namespace FormatDecoder

variable {d : FormatDecoder} {frame : CompletedFrame}

/-- What the encoding of a frame that can be converted says of it. -/
theorem exists_known (h : frame.encoding.IsConvertible) : ∃ depth native,
    frame.encoding.bitsPerPixel? = some depth ∧ frame.encoding.nativeFormat? = some native ∧
      frame.encoding.isCompressed = false ∧ depth ≠ 0 ∧ native ≠ .raw := by
  rcases h with h | h | h | h <;> rw [h] <;> exact ⟨_, _, rfl, rfl, rfl, by decide, by decide⟩

/-- First the blocks are checked, then the size. -/
theorem checkRaw_eq {depth : UInt32} {native : PixelFormat}
    (hdepth : frame.encoding.bitsPerPixel? = some depth)
    (hnative : frame.encoding.nativeFormat? = some native)
    (hraw : frame.encoding.isCompressed = false) (hne : depth ≠ 0) :
    d.checkRaw frame =
      ((if frame.encoding = .nv12 then checkSubsampled frame.encoding frame.width frame.height
        else .ok ()) >>= fun _ =>
      if frame.data.length ≠ frame.wanted depth then
        .error (.sizeMismatch (frame.wanted depth) frame.data.length)
      else .ok native) := by
  have hsize : (d.rawLayout frame).expectedSize = some (frame.wanted depth) := by
    simp [FrameLayout.expectedSize, FrameLayout.expectedWord, FrameLayout.depth, rawLayout, hdepth,
      hraw, hne, CompletedFrame.wanted, CompletedFrame.pixels, UInt64.size]
  rw [checkRaw, hsize, hnative]
  split <;> rfl

theorem bind_ok_iff {ε α β : Type} {x : Except ε α} {f : α → Except ε β} {b : β} :
    x >>= f = .ok b ↔ ∃ a, x = .ok a ∧ f a = .ok b := by
  cases x with
  | error e => exact iff_of_false nofun nofun
  | ok a => exact ⟨fun h => ⟨a, rfl, h⟩, fun ⟨_, ha, h⟩ => by cases ha; exact h⟩

/-- The size is all that is checked. -/
theorem checkRaw_ok_iff (h : frame.encoding.IsConvertible) {format : PixelFormat} :
    d.checkRaw frame = .ok format ↔
      frame.Accepted ∧ frame.encoding.nativeFormat? = some format := by
  obtain ⟨depth, native, hdepth, hnative, hraw, hne, -⟩ := exists_known h
  have hblocks : (if frame.encoding = .nv12 then
        checkSubsampled frame.encoding frame.width frame.height else .ok ()) = .ok () ↔
      (frame.encoding = .nv12 → frame.width.toNat % 2 = 0 ∧ frame.height.toNat % 2 = 0) := by
    split
    · next hnv12 => simpa [hnv12] using checkSubsampled_ok_iff
    · next hother => simp [hother]
  have hsize : (if frame.data.length ≠ frame.wanted depth then
        .error (.sizeMismatch (frame.wanted depth) frame.data.length)
      else .ok native : Except DecodeError PixelFormat) = .ok format ↔
        frame.data.length = frame.wanted depth ∧ native = format := by
    split
    · next hother => exact iff_of_false nofun fun hsame => hother hsame.1
    · next hsame => simpa using fun _ => Classical.not_not.mp hsame
  rw [checkRaw_eq hdepth hnative hraw hne, bind_ok_iff, CompletedFrame.accepted_iff hdepth, hnative,
    Option.some_inj, and_assoc, ← hblocks, ← hsize]
  exact ⟨fun ⟨_, hok⟩ => hok, fun hok => ⟨_, hok⟩⟩

/-! ### Accepted frames -/

theorem lift_ok_iff {α : Type} {x : Except DecodeError α} {a : α} :
    DecodeFailure.lift x = .ok a ↔ x = .ok a := by
  cases x with
  | error e => exact iff_of_false nofun nofun
  | ok b => simp [DecodeFailure.lift]

/-- The picture of a frame of the right size: converted, or the data as it is. -/
def Presents (d : FormatDecoder) (frame : CompletedFrame) (p : Picture) : Prop :=
  if d.output = .rgb24 then
    ∃ rgb, d.codecs.yuv frame.data frame.encoding frame.width frame.height = .ok rgb ∧
      p = ⟨rgb, frame.width, frame.height, .rgb24⟩
  else ∃ native, frame.encoding.nativeFormat? = some native ∧
    p = ⟨frame.data, frame.width, frame.height, native⟩

theorem decodeRaw_ok_iff (h : frame.encoding.IsConvertible) {p : Picture} :
    d.decodeRaw frame = .ok p ↔ frame.Accepted ∧ d.Presents frame p := by
  obtain ⟨-, native, -, hnative, -, -, hraw⟩ := exists_known h
  rw [decodeRaw, bind_ok_iff]
  simp only [checkRaw_ok_iff h, hnative, Option.some_inj, and_assoc]
  rw [Presents]
  by_cases hrgb : d.output = .rgb24
  · simp only [if_pos hrgb]
    constructor
    · rintro ⟨_, haccepted, rfl, hp⟩
      rw [if_pos ⟨hrgb, hraw⟩, bind_ok_iff] at hp
      obtain ⟨rgb, hok, hp⟩ := hp
      exact ⟨haccepted, rgb, hok, (Except.ok.inj hp).symm⟩
    · rintro ⟨haccepted, rgb, hok, rfl⟩
      refine ⟨_, haccepted, rfl, ?_⟩
      rw [if_pos ⟨hrgb, hraw⟩, bind_ok_iff]
      exact ⟨rgb, hok, rfl⟩
  · simp only [if_neg hrgb]
    constructor
    · rintro ⟨_, haccepted, rfl, hp⟩
      rw [if_neg fun hboth => hrgb hboth.1] at hp
      exact ⟨haccepted, native, hnative, (Except.ok.inj hp).symm⟩
    · rintro ⟨haccepted, _, hsome, rfl⟩
      obtain rfl := Option.some.inj (hnative.symm.trans hsome)
      refine ⟨_, haccepted, rfl, ?_⟩
      rw [if_neg fun hboth => hrgb hboth.1]
      rfl

theorem decode_ok_iff (h : frame.encoding.IsConvertible) {out : DecodedFrame} :
    d.decode frame = .ok out ↔ frame.Accepted ∧ ∃ p, d.Presents frame p ∧ out = {
      data := p.data
      width := p.width
      height := p.height
      stride := d.stride p.width p.format
      format := p.format
      sequence := frame.sequence
      pts := frame.pts } := by
  have hpicture : d.picture frame = DecodeFailure.lift (d.decodeRaw frame) := by
    rw [picture]
    rcases h with h | h | h | h <;> rw [h]
  rw [decode, bind_ok_iff, hpicture]
  simp only [lift_ok_iff, decodeRaw_ok_iff h, and_assoc, exists_and_left]
  refine and_congr_right fun _ => exists_congr fun p => and_congr_right fun _ => ?_
  exact ⟨fun hout => (Except.ok.inj hout).symm, fun hout => congrArg Except.ok hout.symm⟩

end FormatDecoder

/-! ### Conversion of whole frames -/

/-- A raster that is filled up with zeros has the size that it is filled up to. -/
theorem Yuv.length_raster_zeros {n pixels : Nat} {px : Nat → Bytes} (hpx : ∀ i, (px i).length = 3)
    (hn : n ≤ pixels) :
    (raster n px ++ List.replicate (3 * (pixels - n)) 0).length = 3 * pixels := by
  rw [List.length_append, length_raster hpx, List.length_replicate, ← Nat.mul_add,
    Nat.add_sub_cancel' hn]

/-- A converted frame has three bytes for each pixel, whatever the data. -/
theorem length_toRgb24 {data : Bytes} {encoding : Encoding} {width height : UInt32} {rgb : Bytes}
    (h : toRgb24 data encoding width height = .ok rgb) :
    rgb.length = 3 * (width.toNat * height.toNat) := by
  have hpairs (count : Nat) :
      2 * min (width.toNat * height.toNat / 2) count ≤ width.toNat * height.toNat := by omega
  cases encoding with
  | yuy2 =>
    rw [toRgb24_yuyv] at h
    cases h
    exact length_raster_zeros (fun _ => rfl) (hpairs _)
  | uyvy =>
    rw [toRgb24_uyvy] at h
    cases h
    exact length_raster_zeros (fun _ => rfl) (hpairs _)
  | grey =>
    rw [toRgb24_grey] at h
    cases h
    exact length_raster_zeros (fun _ => rfl) (Nat.min_le_left ..)
  | nv12 =>
    obtain ⟨_, hchecked, hrest⟩ := FormatDecoder.bind_ok_iff.mp h
    obtain ⟨hwidth, hheight⟩ := checkSubsampled_ok_iff.mp hchecked
    dsimp only at hrest
    split at hrest
    · cases hrest
    · next hlength =>
      rw [toRgb24_nv12 hwidth hheight (Nat.not_lt.mp hlength)] at h
      cases h
      exact length_raster (fun _ => length_sitePixel data _) _
  | mjpeg | uncompressed | frameBased => cases h

/-- The site of a pixel in pairs of pixels. -/
def Yuv.Site.packed (encoding : Encoding) (i : Nat) : Site :=
  if encoding = .uyvy then uyvy i else yuyv i

section Sized

variable {frame : CompletedFrame}

theorem CompletedFrame.Sized.length_packed (hsized : frame.Sized)
    (h : frame.encoding = .yuy2 ∨ frame.encoding = .uyvy) :
    frame.data.length = 2 * frame.pixels := by
  have hlength : frame.data.length = frame.pixels * 16 / 8 :=
    hsized.length 16 (by rcases h with h | h <;> rw [h] <;> rfl)
  omega

theorem CompletedFrame.Sized.length_nv12 (hsized : frame.Sized) (h : frame.encoding = .nv12) :
    frame.data.length = frame.pixels + frame.pixels / 2 := by
  have hlength : frame.data.length = frame.pixels * 12 / 8 := hsized.length 12 (by rw [h]; rfl)
  have heven : frame.pixels % 2 = 0 := by
    rw [pixels, Nat.mul_mod, (hsized.blocks h).1, Nat.zero_mul]
  omega

theorem CompletedFrame.Sized.length_grey (hsized : frame.Sized) (h : frame.encoding = .grey) :
    frame.data.length = frame.pixels := by
  have hlength : frame.data.length = frame.pixels * 8 / 8 := hsized.length 8 (by rw [h]; rfl)
  omega

/-- Both pixels of a pair have the chroma of the pair. What has no pair stays black. -/
theorem toRgb24_of_packed (h : frame.encoding = .yuy2 ∨ frame.encoding = .uyvy) (hsized : frame.Sized) :
    ∃ rgb, toRgb24 frame.data frame.encoding frame.width frame.height = .ok rgb ∧
      ∀ i < frame.pixels,
        if i / 2 < frame.pixels / 2 then
          Converts frame.data (.packed frame.encoding i) (pixel rgb i)
        else pixel rgb i = [0, 0, 0] := by
  have hlength := hsized.length_packed h
  have hcount : min (frame.pixels / 2) (frame.data.length / 4) = frame.pixels / 2 := by omega
  have hok : toRgb24 frame.data frame.encoding frame.width frame.height =
      .ok ((raster (2 * (frame.pixels / 2)) fun i => (Site.packed frame.encoding i).pixel frame.data) ++
        List.replicate (3 * (frame.pixels - 2 * (frame.pixels / 2))) 0) := by
    rcases h with h | h <;> rw [h]
    · rw [toRgb24_yuyv]
      dsimp only
      rw [← CompletedFrame.pixels, hcount]
      rfl
    · rw [toRgb24_uyvy]
      dsimp only
      rw [← CompletedFrame.pixels, hcount]
      rfl
  have hthree (i : Nat) : ((Site.packed frame.encoding i).pixel frame.data).length = 3 := rfl
  refine ⟨_, hok, fun i hi => ?_⟩
  split
  · next hpair =>
    rw [pixel_raster hthree (by omega)]
    rcases h with h | h <;> rw [h]
    · exact converts_pixel (show 2 * i < _ by omega) (show 4 * (i / 2) + 1 < _ by omega)
        (show 4 * (i / 2) + 3 < _ by omega)
    · exact converts_pixel (show 2 * i + 1 < _ by omega) (show 4 * (i / 2) < _ by omega)
        (show 4 * (i / 2) + 2 < _ by omega)
  · next hlast => exact pixel_zeros hthree (by omega) hi

theorem toRgb24_of_nv12 (h : frame.encoding = .nv12) (hsized : frame.Sized) :
    ∃ rgb, toRgb24 frame.data frame.encoding frame.width frame.height = .ok rgb ∧
      ∀ r < frame.height.toNat, ∀ c < frame.width.toNat,
        Converts frame.data (.nv12 frame.width.toNat frame.height.toNat r c)
          (pixel rgb (frame.width.toNat * r + c)) := by
  obtain ⟨hwidth, hheight⟩ := hsized.blocks h
  have hlength := hsized.length_nv12 h
  have hok := toRgb24_nv12 hwidth hheight (Nat.le_of_eq hlength.symm)
  rw [← h, ← CompletedFrame.pixels] at hok
  refine ⟨_, hok, fun r hr c hc => ?_⟩
  have hluma := index_lt hr hc
  have hpair := pair_lt hwidth hheight hr hc
  rw [CompletedFrame.pixels] at hlength ⊢
  rw [← List.append_nil (raster _ _), pixel_raster (fun _ => length_sitePixel _ _) hluma,
    index_div r hc, index_mod r hc]
  exact converts_pixel (show frame.width.toNat * r + c < _ by omega)
    (show _ + (r / 2 * frame.width.toNat + 2 * (c / 2)) < _ by omega)
    (show _ + (r / 2 * frame.width.toNat + 2 * (c / 2)) + 1 < _ by omega)

theorem toRgb24_of_grey (h : frame.encoding = .grey) (hsized : frame.Sized) :
    ∃ rgb, toRgb24 frame.data frame.encoding frame.width frame.height = .ok rgb ∧
      ∀ i < frame.pixels, ∃ y, frame.data[i]? = some y ∧ pixel rgb i = [y, y, y] := by
  have hlength := hsized.length_grey h
  have hok : toRgb24 frame.data frame.encoding frame.width frame.height =
      .ok ((raster frame.pixels fun i => List.replicate 3 (sample frame.data i)) ++ []) := by
    rw [h, toRgb24_grey]
    dsimp only
    rw [← CompletedFrame.pixels, hlength, Nat.min_self, Nat.sub_self]
    rfl
  refine ⟨_, hok, fun i hi => ⟨_, InPlace.getElem?_eq_sample (by omega), ?_⟩⟩
  exact pixel_raster (fun _ => List.length_replicate) hi []

end Sized

/-! ### Pairs of bytes -/

/-- The bytes of every pair change places. -/
def swapPairs : Bytes → Bytes
  | a :: b :: rest => b :: a :: swapPairs rest
  | rest => rest

theorem length_swapPairs : ∀ data : Bytes, (swapPairs data).length = data.length
  | [] | [_] => rfl
  | a :: b :: rest => by
    have ih : (swapPairs rest).length = rest.length := length_swapPairs rest
    rw [swapPairs, List.length_cons, List.length_cons, ih]
    rfl

theorem Yuv.appendPacked_swapPairs (count : Nat) (data : Bytes) (out : Array UInt8) :
    appendPacked .ofYuyv count (swapPairs data) out = appendPacked .ofUyvy count data out := by
  induction count generalizing data out with
  | zero => rfl
  | succ count ih =>
    obtain _ | ⟨a, _ | ⟨b, _ | ⟨c, _ | ⟨d, data⟩⟩⟩⟩ := data
    · rfl
    · rfl
    · rfl
    · rfl
    · exact ih data _

theorem toRgb24_swapPairs (data : Bytes) (width height : UInt32) :
    toRgb24 (swapPairs data) .yuy2 width height = toRgb24 data .uyvy width height := by
  rw [toRgb24, toRgb24, appendPacked_swapPairs]

/-- The YUY2 frame with every pair of bytes swapped. -/
def CompletedFrame.swapped (frame : CompletedFrame) : CompletedFrame :=
  { frame with encoding := .yuy2, data := swapPairs frame.data }

namespace FormatDecoder

variable {d : FormatDecoder} {frame : CompletedFrame} {out : DecodedFrame}

/-- A UYVY frame has the outcome of the YUY2 frame, refused or not. -/
theorem decode_swapped (hyuv : d.codecs.yuv = toRgb24) (hrgb : d.output = .rgb24)
    (h : frame.encoding = .uyvy) : d.decode frame.swapped = d.decode frame := by
  have hlength : frame.swapped.data.length = frame.data.length := length_swapPairs frame.data
  have hwanted : frame.swapped.wanted 16 = frame.wanted 16 := rfl
  have hraw : d.decodeRaw frame.swapped = d.decodeRaw frame := by
    rw [decodeRaw, decodeRaw, @checkRaw_eq d frame.swapped 16 .yuyv rfl rfl rfl (by decide),
      @checkRaw_eq d frame 16 .uyvy (by rw [h]; rfl) (by rw [h]; rfl) (by rw [h]; rfl) (by decide),
      if_neg (show frame.swapped.encoding ≠ .nv12 from nofun),
      if_neg (show frame.encoding ≠ .nv12 by rw [h]; exact nofun), hlength, hwanted]
    by_cases hsize : frame.data.length ≠ frame.wanted 16
    · simp only [if_pos hsize]
      rfl
    · simp only [if_neg hsize]
      show (if d.output = .rgb24 ∧ PixelFormat.yuyv ≠ .raw then _ else _) =
        if d.output = .rgb24 ∧ PixelFormat.uyvy ≠ .raw then _ else _
      rw [if_pos ⟨hrgb, nofun⟩, if_pos ⟨hrgb, nofun⟩, hyuv, h]
      exact congrArg (· >>= _) (toRgb24_swapPairs _ _ _)
  have hpicture : d.picture frame.swapped = d.picture frame := by
    rw [picture, picture, h]
    exact congrArg DecodeFailure.lift hraw
  rw [decode, decode, hpicture]
  rfl

/-! ### Decoding -/

/-- The outcome has the pixels of the frame in RGB. -/
structure Renders (frame : CompletedFrame) (out : DecodedFrame) : Prop where
  /-- The converter stays inside its buffers and never divides by zero. -/
  inPlace : InPlace.toRgb24 frame.data frame.encoding frame.width frame.height = some (.ok out.data)
  length : out.data.length = 3 * (frame.width.toNat * frame.height.toNat)
  rows : out.data.length = out.stride.toNat * out.height.toNat
  nv12 : frame.encoding = .nv12 → ∀ r < frame.height.toNat, ∀ c < frame.width.toNat,
    Converts frame.data (.nv12 frame.width.toNat frame.height.toNat r c)
      (pixel out.data (frame.width.toNat * r + c))
  grey : frame.encoding = .grey → ∀ i < frame.pixels,
    ∃ y, frame.data[i]? = some y ∧ pixel out.data i = [y, y, y]
  yuyv : frame.encoding = .yuy2 → frame.pixels % 2 = 0 → ∀ i < frame.pixels,
    Converts frame.data (.yuyv i) (pixel out.data i)
  uyvy : frame.encoding = .uyvy → frame.pixels % 2 = 0 → ∀ i < frame.pixels,
    Converts frame.data (.uyvy i) (pixel out.data i)

/-- The outcome is that of a frame accepted: only the pixels change, and only where RGB is wanted. -/
structure Delivers (d : FormatDecoder) (frame : CompletedFrame) (out : DecodedFrame) : Prop where
  sequence : out.sequence = frame.sequence
  pts : out.pts = frame.pts
  width : out.width = frame.width
  height : out.height = frame.height
  native : d.output = .native → out.data = frame.data
  rgb24 : d.output = .rgb24 → Renders frame out
  swapped : d.output = .rgb24 → frame.encoding = .uyvy → d.decode frame.swapped = .ok out

/-- A frame of each convertible encoding has a conversion. -/
theorem exists_toRgb24 (h : frame.encoding.IsConvertible) (hsized : frame.Sized) :
    ∃ rgb, toRgb24 frame.data frame.encoding frame.width frame.height = .ok rgb := by
  rcases h with h | h | h | h
  · exact (toRgb24_of_nv12 h hsized).imp fun _ hrgb => hrgb.1
  · exact (toRgb24_of_grey h hsized).imp fun _ hrgb => hrgb.1
  · exact (toRgb24_of_packed (.inl h) hsized).imp fun _ hrgb => hrgb.1
  · exact (toRgb24_of_packed (.inr h) hsized).imp fun _ hrgb => hrgb.1

theorem exists_decode (hyuv : d.codecs.yuv = toRgb24) (h : frame.encoding.IsConvertible)
    (haccepted : frame.Accepted) (hsized : frame.Sized) : ∃ out, d.decode frame = .ok out := by
  have hpresents : ∃ p, d.Presents frame p := by
    by_cases hrgb : d.output = .rgb24
    · obtain ⟨rgb, hconverted⟩ := exists_toRgb24 h hsized
      exact ⟨_, (if_pos hrgb).mpr ⟨rgb, hyuv ▸ hconverted, rfl⟩⟩
    · obtain ⟨-, native, -, hnative, -⟩ := exists_known h
      exact ⟨_, (if_neg hrgb).mpr ⟨native, hnative, rfl⟩⟩
  obtain ⟨p, hp⟩ := hpresents
  exact ⟨_, (decode_ok_iff h).mpr ⟨haccepted, p, hp, rfl⟩⟩

/-- Frames of a width of 16 bits can be counted. -/
theorem count_of_width (hwidth : frame.width.toNat < 65536) : 16 * frame.pixels < UInt64.size :=
  calc 16 * frame.pixels
      ≤ 16 * (65536 * UInt32.size) :=
        Nat.mul_le_mul_left _ (Nat.mul_le_mul (Nat.le_of_lt hwidth) (Nat.le_of_lt frame.height.toNat_lt))
    _ < UInt64.size := by decide

theorem renders_of_ok (hsized : frame.Sized) (hwidth : frame.width.toNat < 65536)
    (hok : toRgb24 frame.data frame.encoding frame.width frame.height = .ok out.data)
    (hstride : out.stride = frame.width * 3) (hheight : out.height = frame.height) :
    Renders frame out := by
  have hlength : out.data.length = 3 * frame.pixels := length_toRgb24 hok
  -- In an even number of pixels each one has a pair.
  have hpacked (hpairs : frame.encoding = .yuy2 ∨ frame.encoding = .uyvy)
      (heven : frame.pixels % 2 = 0) (i : Nat) (hi : i < frame.pixels) :
      Converts frame.data (.packed frame.encoding i) (pixel out.data i) := by
    obtain ⟨rgb, hrgb, hpixels⟩ := toRgb24_of_packed hpairs hsized
    obtain rfl := Except.ok.inj (hok.symm.trans hrgb)
    simpa [show i / 2 < frame.pixels / 2 by omega] using hpixels i hi
  constructor
  case inPlace => rw [InPlace.toRgb24_eq, hok]
  case length => exact hlength
  case rows =>
    have hthree : out.stride.toNat = frame.width.toNat * 3 := by
      rw [hstride, UInt32.toNat_mul]
      exact Nat.mod_eq_of_lt (by show _ * 3 < _; omega)
    rw [hlength, hthree, hheight, CompletedFrame.pixels, Nat.mul_comm _ 3, Nat.mul_assoc]
  case nv12 =>
    intro hnv12
    obtain ⟨rgb, hrgb, hpixels⟩ := toRgb24_of_nv12 hnv12 hsized
    obtain rfl := Except.ok.inj (hok.symm.trans hrgb)
    exact hpixels
  case grey =>
    intro hgrey
    obtain ⟨rgb, hrgb, hpixels⟩ := toRgb24_of_grey hgrey hsized
    obtain rfl := Except.ok.inj (hok.symm.trans hrgb)
    exact hpixels
  case yuyv =>
    intro hyuy2
    simpa [hyuy2, Site.packed] using hpacked (.inl hyuy2)
  case uyvy =>
    intro huyvy
    simpa [huyvy, Site.packed] using hpacked (.inr huyvy)

/-- Frames that can be converted are handed on as they are, or in RGB with each pixel made of its own
samples. -/
theorem decode_convertible (hyuv : d.codecs.yuv = toRgb24) (hwidth : frame.width.toNat < 65536)
    (h : frame.encoding.IsConvertible) (hok : d.decode frame = .ok out) : Delivers d frame out := by
  obtain ⟨haccepted, p, hpresents, rfl⟩ := (decode_ok_iff h).mp hok
  have hsized : frame.Sized := (CompletedFrame.accepted_iff_sized h (count_of_width hwidth)).mp haccepted
  have hswapped (hrgb : d.output = .rgb24) (huyvy : frame.encoding = .uyvy) :
      d.decode frame.swapped = .ok _ :=
    (decode_swapped hyuv hrgb huyvy).trans hok
  cases houtput : d.output with
  | native =>
    obtain ⟨native, -, rfl⟩ := (if_neg (by rw [houtput]; exact nofun)).mp hpresents
    have hother (hrgb : d.output = .rgb24) : False := nomatch houtput.symm.trans hrgb
    exact ⟨rfl, rfl, rfl, rfl, fun _ => rfl, fun hrgb => (hother hrgb).elim, hswapped⟩
  | rgb24 =>
    obtain ⟨rgb, hrgb, rfl⟩ := (if_pos houtput).mp hpresents
    rw [hyuv] at hrgb
    have hother (hnative : d.output = .native) : False := nomatch houtput.symm.trans hnative
    exact ⟨rfl, rfl, rfl, rfl, fun hnative => (hother hnative).elim,
      fun _ => renders_of_ok hsized hwidth hrgb rfl rfl, hswapped⟩

/-- An NV12 frame of 2x2 pixels, which share one pair of chroma. -/
theorem decode_convertible_nv12 :
    let d : FormatDecoder := ⟨{ encoding := .nv12, width := 2, height := 2 }, .rgb24, .standIn⟩
    let frame : CompletedFrame :=
      ⟨⟨1, 2, 2, .nv12, none⟩, [0, 60, 120, 255, 128, 228]⟩
    let out : DecodedFrame :=
      ⟨[140, 0, 0, 200, 0, 60, 255, 49, 120, 255, 184, 255], 2, 2, 6, .rgb24, 1, none⟩
    d.codecs.yuv = toRgb24 ∧ frame.width.toNat < 65536 ∧ frame.encoding.IsConvertible ∧
      d.decode frame = .ok out ∧ Delivers d frame out := by
  intro d frame out
  have hok : d.decode frame = .ok out := by decide +kernel
  exact ⟨rfl, by decide, .inl rfl, hok, decode_convertible rfl (by decide) (.inl rfl) hok⟩

/-! ### Pixels without a pair -/

/-- A YUY2 or UYVY frame that is accepted with the size of its geometry has one that can be counted. -/
theorem count_of_packed (h : frame.encoding = .yuy2 ∨ frame.encoding = .uyvy)
    (hlength : frame.data.length = 2 * frame.pixels) (haccepted : frame.Accepted) :
    16 * frame.pixels < UInt64.size := by
  have hdepth : frame.encoding.bitsPerPixel? = some 16 := by rcases h with h | h <;> rw [h] <;> rfl
  have hwanted : frame.data.length = frame.pixels * 16 % UInt64.size / 8 := haccepted.length 16 hdepth
  have hbelow : frame.pixels * 16 % UInt64.size < UInt64.size := Nat.mod_lt _ (by decide)
  omega

/-- Whatever its geometry, a YUY2 or UYVY frame of the size of that geometry is accepted just if the size
can be counted. Each pixel is made of its own luma and the chroma of its pair, but for the last one of an
odd number: it has no pair and stays black, whatever its luma. -/
theorem decode_packed (hyuv : d.codecs.yuv = toRgb24) (hrgb : d.output = .rgb24)
    (h : frame.encoding = .yuy2 ∨ frame.encoding = .uyvy)
    (hlength : frame.data.length = 2 * frame.pixels) :
    ((∃ out, d.decode frame = .ok out) ↔ 16 * frame.pixels < UInt64.size) ∧
    ∀ out, d.decode frame = .ok out → out.data.length = 3 * frame.pixels ∧
      ∀ i < frame.pixels,
        if i + 1 = frame.pixels ∧ frame.pixels % 2 = 1 then pixel out.data i = [0, 0, 0]
        else Converts frame.data (.packed frame.encoding i) (pixel out.data i) := by
  have hconvertible : frame.encoding.IsConvertible := h.elim (.inr ∘ .inr ∘ .inl) (.inr ∘ .inr ∘ .inr)
  have hdepth : frame.encoding.bitsPerPixel? = some 16 := by rcases h with h | h <;> rw [h] <;> rfl
  have hsized : frame.Sized := by
    refine ⟨fun hnv12 => ?_, fun depth hdepth' => ?_⟩
    · rcases h with h | h <;> exact nomatch h.symm.trans hnv12
    · obtain rfl := Option.some.inj (hdepth.symm.trans hdepth')
      rw [hlength]
      show _ = _ * 16 / 8
      omega
  refine ⟨⟨?_, fun hcount => ?_⟩, fun out hok => ?_⟩
  · rintro ⟨out, hok⟩
    exact count_of_packed h hlength ((decode_ok_iff hconvertible).mp hok).1
  · exact exists_decode hyuv hconvertible
      ((CompletedFrame.accepted_iff_sized hconvertible hcount).mpr hsized) hsized
  · obtain ⟨-, p, hpresents, rfl⟩ := (decode_ok_iff hconvertible).mp hok
    obtain ⟨rgb, hconverted, rfl⟩ := (if_pos hrgb).mp hpresents
    rw [hyuv] at hconverted
    obtain ⟨rgb', hconverted', hpixels⟩ := toRgb24_of_packed h hsized
    obtain rfl := Except.ok.inj (hconverted.symm.trans hconverted')
    refine ⟨length_toRgb24 hconverted, fun i hi => ?_⟩
    have hi' := hpixels i hi
    split
    · next hlast => exact (if_neg (by omega)).mp hi'
    · next hpair => exact (if_pos (by omega)).mp hi'

/-- A frame of 3x1 bright pixels: the third one is black. -/
theorem decode_packed_three :
    let d : FormatDecoder := ⟨{ encoding := .yuy2, width := 3, height := 1 }, .rgb24, .standIn⟩
    let frame : CompletedFrame := ⟨⟨1, 3, 1, .yuy2, none⟩, [235, 128, 235, 128, 235, 128]⟩
    (d.codecs.yuv = toRgb24 ∧ d.output = .rgb24 ∧ (frame.encoding = .yuy2 ∨ frame.encoding = .uyvy) ∧
      frame.data.length = 2 * frame.pixels) ∧
    ∃ out, d.decode frame = .ok out ∧ pixel out.data 2 = [0, 0, 0] := by
  intro d frame
  refine ⟨⟨rfl, rfl, .inl rfl, rfl⟩, ?_⟩
  obtain ⟨haccepted, hpixels⟩ := @decode_packed d frame rfl rfl (.inl rfl) rfl
  obtain ⟨out, hok⟩ := haccepted.mpr (by decide)
  exact ⟨out, hok, (if_pos (by decide)).mp ((hpixels out hok).2 2 (by decide))⟩

/-- No chroma makes bright luma black. -/
theorem rgb_ne_black {y : UInt8} (h : 180 < y.toNat) (u v : UInt8) : rgb y u v ≠ [0, 0, 0] := by
  intro hblack
  have hred : clampByte ((y.toNat : Int) + ((v.toNat : Int) - 128) * 359 / 256) = 0 :=
    (List.cons.inj hblack).1
  have hnat := congrArg UInt8.toNat hred
  rw [clampByte, UInt8.toNat_ofNat'] at hnat
  have hzero : (0 : UInt8).toNat = 0 := rfl
  omega

/-- The frame is accepted, but its last pixel is not made of its own luma, whatever chroma is taken for
it. -/
theorem last_unconverted :
    let d : FormatDecoder := ⟨{ encoding := .yuy2, width := 3, height := 1 }, .rgb24, .standIn⟩
    let frame : CompletedFrame := ⟨⟨1, 3, 1, .yuy2, none⟩, [235, 128, 235, 128, 235, 128]⟩
    frame.data.length = 2 * frame.pixels ∧
      ∃ out, d.decode frame = .ok out ∧ ∀ u v, pixel out.data 2 ≠ rgb 235 u v := by
  intro d frame
  have hok : d.decode frame = .ok
      ⟨[235, 235, 235, 235, 235, 235, 0, 0, 0], 3, 1, 9, .rgb24, 1, none⟩ := by decide +kernel
  exact ⟨rfl, _, hok, fun u v => (rgb_ne_black (by decide) u v).symm⟩

end FormatDecoder

end UsbVideo
