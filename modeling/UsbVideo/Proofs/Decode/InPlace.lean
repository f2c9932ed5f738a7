import UsbVideo.Proofs.Decode.Pixels

/-!
# The converter in place

The converter once more, written with plain indices: the output is a buffer of zeros that is cut into
chunks, and a chunk is written byte by byte from samples that are asked for by their place. An access
behind the end of its bytes and a division by zero end the run with no outcome at all.

    data │ src │ src │ …          luma  │ · · · ·
            ▼     ▼               chroma│ · ·   │
    rgb  │ dst │ dst │ … │ 0 0       rgb│ dst │ dst │ …

Whatever the data, every run has an outcome, and it is that of `toRgb24` (`InPlace.toRgb24_eq`).
-/

namespace UsbVideo

namespace Yuv

namespace InPlace

/-! ### Access by index -/

/-- Overwrite the byte at `i`, which must be there. -/
def put (i : Nat) (b : UInt8) (bytes : Bytes) : Option Bytes :=
  if i < bytes.length then some (bytes.set i b) else none

/-- The first `n` bytes, which must be there, and the others. -/
def split (n : Nat) (bytes : Bytes) : Option (Bytes × Bytes) :=
  if n ≤ bytes.length then some (bytes.take n, bytes.drop n) else none

def quotient (n d : Nat) : Option Nat := if d = 0 then none else some (n / d)

def remainder (n d : Nat) : Option Nat := if d = 0 then none else some (n % d)

/-- The whole chunks of a byte string. -/
def chunksOf (size : Nat) (bytes : Bytes) : List Bytes :=
  (List.range (bytes.length / size)).map fun k => (bytes.drop (size * k)).take size

/-- Overwrite the whole chunks of a buffer one by one, as far as there are sources. -/
def zipChunks {α : Type} (size : Nat) (convert : α → Bytes → Option Bytes) :
    List α → Bytes → Option Bytes
  | [], buffer => some buffer
  | src :: sources, buffer =>
    if buffer.length < size then some buffer
    else do
      let dst ← convert src (buffer.take size)
      let rest ← zipChunks size convert sources (buffer.drop size)
      return dst ++ rest

/-! ### Conversion -/

/-- A number in the range of a byte. -/
def clamp (n : Int) : UInt8 := .ofNat (max 0 (min n 255)).toNat

/-- Write the pixel of a luma sample and two centred chroma samples. -/
def store (y u v : Int) (dst : Bytes) : Option Bytes := do
  let dst ← put 0 (clamp (y + ((v * 359) >>> (8 : Nat)))) dst
  let dst ← put 1 (clamp (y - ((u * 88 + v * 183) >>> (8 : Nat)))) dst
  put 2 (clamp (y + ((u * 454) >>> (8 : Nat)))) dst

def centred (b : UInt8) : Int := (b.toNat : Int) - 128

/-- Both pixels of a macropixel whose samples stand at these places. -/
def convertMacropixel (y0 u y1 v : Nat) (src dst : Bytes) : Option Bytes := do
  let cu ← src[u]?
  let cv ← src[v]?
  let luma0 ← src[y0]?
  let luma1 ← src[y1]?
  let (first, second) ← split 3 dst
  let first ← store luma0.toNat (centred cu) (centred cv) first
  let second ← store luma1.toNat (centred cu) (centred cv) second
  return first ++ second

/-- The pixel at `i` of a frame with two planes. -/
def convertPixel (width : Nat) (luma chroma : Bytes) (i : Nat) (dst : Bytes) : Option Bytes := do
  let row ← quotient i width
  let col ← remainder i width
  let pair := row / 2 * width + (col - col % 2)
  let cu ← chroma[pair]?
  let cv ← chroma[pair + 1]?
  let y ← luma[i]?
  store y.toNat (centred cu) (centred cv) dst

/-- A raw frame as packed RGB. -/
def toRgb24 (data : Bytes) (encoding : Encoding) (width height : UInt32) :
    Option (Except DecodeError Bytes) :=
  let pixels := width.toNat * height.toNat
  let buffer := List.replicate (pixels * 3) 0
  match encoding with
  | .yuy2 => (zipChunks 6 (convertMacropixel 0 1 2 3) (chunksOf 4 data) buffer).map .ok
  | .uyvy => (zipChunks 6 (convertMacropixel 1 0 3 2) (chunksOf 4 data) buffer).map .ok
  | .nv12 =>
    match checkSubsampled encoding width height with
    | .error e => some (.error e)
    | .ok () =>
      let needed := pixels + pixels / 2
      if data.length < needed then some (.error (.sizeMismatch needed data.length))
      else do
        let (luma, chroma) ← split pixels data
        let numbers := List.range (buffer.length / 3)
        let rgb ← zipChunks 3 (convertPixel width.toNat luma chroma) numbers buffer
        return .ok rgb
  | .grey => (zipChunks 3 (fun y dst => some (dst.map fun _ => y)) data buffer).map .ok
  | other => some (.error (.unsupported other))

/-! ### Every access succeeds -/

/-- The sample at a place that is there. -/
theorem getElem?_eq_sample {data : Bytes} {i : Nat} (h : i < data.length) :
    data[i]? = some (sample data i) := by
  rw [sample, List.getElem?_eq_getElem h]
  rfl

theorem clamp_eq (n : Int) : clamp n = clampByte n := by
  rw [clamp, clampByte]
  congr 1
  omega

theorem shift_eq (n : Int) : n >>> (8 : Nat) = n / 256 := Int.shiftRight_eq_div_pow n 8

theorem store_eq (y u v : UInt8) {dst : Bytes} (h : dst.length = 3) :
    store y.toNat (centred u) (centred v) dst = some (rgb y u v) := by
  match dst, h with
  | [_, _, _], _ => simp [store, put, clamp_eq, shift_eq, centred, rgb]

theorem convertMacropixel_eq {y0 u y1 v : Nat} {src dst : Bytes} (hsrc : src.length = 4)
    (hdst : dst.length = 6) (hy0 : y0 < 4) (hu : u < 4) (hy1 : y1 < 4) (hv : v < 4) :
    convertMacropixel y0 u y1 v src dst =
      some (Macropixel.mk (sample src y0) (sample src y1) (sample src u) (sample src v)).rgb := by
  have hsplit : split 3 dst = some (dst.take 3, dst.drop 3) := if_pos (by omega)
  have hfirst : (dst.take 3).length = 3 := List.length_take_of_le (by omega)
  have hsecond : (dst.drop 3).length = 3 := by
    rw [List.length_drop]
    omega
  rw [← hsrc] at hy0 hu hy1 hv
  simp only [convertMacropixel, getElem?_eq_sample, hy0, hu, hy1, hv, hsplit, store_eq _ _ _ hfirst,
    store_eq _ _ _ hsecond, Option.bind_eq_bind, Option.bind_some]
  rfl

/-- If each source has its block, the buffer starts with these and stays as it was behind them. -/
theorem zipChunks_eq {α : Type} {size : Nat} (hsize : 0 < size)
    {convert : α → Bytes → Option Bytes} {sources : List α} {px : Nat → Bytes}
    (h : ∀ k, ∀ hk : k < sources.length, ∀ dst : Bytes, dst.length = size →
      convert sources[k] dst = some (px k)) (buffer : Bytes) :
    zipChunks size convert sources buffer =
      let count := min sources.length (buffer.length / size)
      some (raster count px ++ buffer.drop (size * count)) := by
  induction sources generalizing px buffer with
  | nil => simp [zipChunks]
  | cons src sources ih =>
    rw [zipChunks]
    split
    · next hshort =>
      rw [Nat.div_eq_of_lt hshort]
      simp
    · next hlong =>
      have hchunk : convert src (buffer.take size) = some (px 0) :=
        h 0 (Nat.succ_pos _) _ (List.length_take_of_le (Nat.not_lt.mp hlong))
      have hrest := ih (fun k hk dst hdst => h (k + 1) (Nat.succ_lt_succ hk) dst hdst)
        (buffer.drop size)
      have hcount : min (src :: sources).length (buffer.length / size) =
          min sources.length ((buffer.drop size).length / size) + 1 := by
        rw [List.length_drop, List.length_cons, Nat.div_eq_sub_div hsize (Nat.not_lt.mp hlong)]
        omega
      rw [hchunk, hrest, hcount]
      dsimp only
      rw [raster_cons, Nat.mul_succ, Nat.add_comm _ size, ← List.drop_drop, List.append_assoc]
      rfl

/-- Behind whole chunks of a buffer of zeros there are zeros. -/
theorem zipChunks_zeros {α : Type} {size : Nat} (hsize : 0 < size)
    {convert : α → Bytes → Option Bytes} {sources : List α} {px : Nat → Bytes}
    (h : ∀ k, ∀ hk : k < sources.length, ∀ dst : Bytes, dst.length = size →
      convert sources[k] dst = some (px k)) (total : Nat) :
    zipChunks size convert sources (List.replicate total 0) =
      let count := min sources.length (total / size)
      some (raster count px ++ List.replicate (total - size * count) 0) := by
  rw [zipChunks_eq hsize h, List.length_replicate]
  simp only [List.drop_replicate]

section Chunks

variable {data : Bytes} {order : UInt8 → UInt8 → UInt8 → UInt8 → Macropixel} {y0 u y1 v : Nat}

theorem length_chunksOf (size : Nat) : (chunksOf size data).length = data.length / size := by
  simp [chunksOf]

/-- Each chunk of four samples is a macropixel. -/
theorem convertMacropixel_chunk (hy0 : y0 < 4) (hu : u < 4) (hy1 : y1 < 4) (hv : v < 4)
    (horder : ∀ samples : Nat → UInt8, order (samples 0) (samples 1) (samples 2) (samples 3) =
      ⟨samples y0, samples y1, samples u, samples v⟩) (k : Nat) (hk : k < (chunksOf 4 data).length)
    (dst : Bytes) (hdst : dst.length = 6) :
    convertMacropixel y0 u y1 v (chunksOf 4 data)[k] dst = some (macropixel order data k).rgb := by
  have hcount : k < data.length / 4 := by rwa [length_chunksOf] at hk
  have hchunk : (chunksOf 4 data)[k] = (data.drop (4 * k)).take 4 := by simp [chunksOf]
  have hlength : ((data.drop (4 * k)).take 4).length = 4 := by
    refine List.length_take_of_le ?_
    rw [List.length_drop]
    omega
  have hsample {j : Nat} (hj : j < 4) :
      sample ((data.drop (4 * k)).take 4) j = sample data (4 * k + j) := by
    rw [sample_take hj, sample_drop]
  rw [hchunk, convertMacropixel_eq hlength hdst hy0 hu hy1 hv, hsample hy0, hsample hu, hsample hy1,
    hsample hv]
  exact congrArg (some ·.rgb) (horder fun j => sample data (4 * k + j)).symm

/-- All macropixels that the data and the buffer have. -/
theorem zipChunks_macropixels {site : Nat → Site}
    (hchunk : ∀ k, ∀ hk : k < (chunksOf 4 data).length, ∀ dst : Bytes, dst.length = 6 →
      convertMacropixel y0 u y1 v (chunksOf 4 data)[k] dst = some (macropixel order data k).rgb)
    (hsite : ∀ k, (macropixel order data k).rgb =
      raster 2 fun j => (site (2 * k + j)).pixel data) (pixels : Nat) :
    zipChunks 6 (convertMacropixel y0 u y1 v) (chunksOf 4 data) (List.replicate (pixels * 3) 0) =
      let count := min (pixels / 2) (data.length / 4)
      some ((raster (2 * count) fun i => (site i).pixel data) ++
        List.replicate (3 * (pixels - 2 * count)) 0) := by
  have hcount : min (data.length / 4) (pixels * 3 / 6) = min (pixels / 2) (data.length / 4) := by
    omega
  have hrest (count : Nat) : pixels * 3 - 6 * count = 3 * (pixels - 2 * count) := by omega
  rw [zipChunks_zeros (by decide) hchunk, length_chunksOf, hcount]
  simp only [raster_macropixel hsite, hrest]

end Chunks

/-- With whole blocks and all chroma rows there, each pixel finds its samples. -/
theorem convertPixel_eq {data : Bytes} {w h : Nat} (hw : w % 2 = 0) (hh : h % 2 = 0)
    (hlength : w * h + w * h / 2 ≤ data.length) {i : Nat} (hi : i < w * h) {dst : Bytes}
    (hdst : dst.length = 3) :
    convertPixel w (data.take (w * h)) (data.drop (w * h)) i dst =
      some ((Site.nv12 w h (i / w) (i % w)).pixel data) := by
  -- There is a pixel, so no division is by zero.
  have hpos : 0 < w := Nat.pos_of_mul_pos_right (Nat.zero_lt_of_lt hi)
  have hpair := pair_lt hw hh (Nat.div_lt_of_lt_mul hi) (Nat.mod_lt i hpos)
  have hcols : i % w - i % w % 2 = 2 * (i % w / 2) := by omega
  have hluma : i < (data.take (w * h)).length := by
    rw [List.length_take]
    omega
  have hplane : w * h / 2 ≤ (data.drop (w * h)).length := by
    rw [List.length_drop]
    omega
  simp only [convertPixel, quotient, remainder, if_neg (Nat.ne_of_gt hpos), Option.bind_eq_bind,
    Option.bind_some, hcols, getElem?_eq_sample (Nat.lt_of_lt_of_le hpair hplane),
    getElem?_eq_sample (Nat.lt_of_succ_lt (Nat.lt_of_lt_of_le hpair hplane)),
    getElem?_eq_sample hluma, store_eq _ _ _ hdst, sample_take hi, sample_drop]
  rw [Site.pixel, Site.nv12, Nat.div_add_mod]
  rfl

/-- All pixels of a frame with two planes. -/
theorem zipChunks_pixels {data : Bytes} {w h : Nat} (hw : w % 2 = 0) (hh : h % 2 = 0)
    (hlength : w * h + w * h / 2 ≤ data.length) :
    zipChunks 3 (convertPixel w (data.take (w * h)) (data.drop (w * h))) (List.range (w * h))
        (List.replicate (w * h * 3) 0) =
      some (raster (w * h) fun i => (Site.nv12 w h (i / w) (i % w)).pixel data) := by
  have hpixels : ∀ k, ∀ hk : k < (List.range (w * h)).length, ∀ dst : Bytes, dst.length = 3 →
      convertPixel w (data.take (w * h)) (data.drop (w * h)) (List.range (w * h))[k] dst =
        some ((Site.nv12 w h (k / w) (k % w)).pixel data) := by
    intro k hk dst hdst
    rw [List.getElem_range]
    exact convertPixel_eq hw hh hlength (by simpa using hk) hdst
  rw [zipChunks_zeros (by decide) hpixels]
  simp [Nat.mul_comm 3]

/-- All samples that the data and the buffer have. -/
theorem zipChunks_samples (data : Bytes) (pixels : Nat) :
    zipChunks 3 (fun y dst => some (dst.map fun _ => y)) data (List.replicate (pixels * 3) 0) =
      let count := min pixels data.length
      some ((raster count fun i => List.replicate 3 (sample data i)) ++
        List.replicate (3 * (pixels - count)) 0) := by
  have hsamples : ∀ k, ∀ hk : k < data.length, ∀ dst : Bytes, dst.length = 3 →
      some (dst.map fun _ => data[k]) = some (List.replicate 3 (sample data k)) := by
    intro k hk dst hdst
    rw [List.map_const', hdst, sample, List.getElem?_eq_getElem hk]
    rfl
  rw [zipChunks_zeros (by decide) hsamples, Nat.mul_div_cancel _ (by decide), Nat.min_comm]
  simp only [Nat.mul_comm pixels, Nat.mul_sub]

/-! ### The same outcome -/

/-- The converter in place never leaves its buffers and never divides by zero, whatever it is given, and
it has the outcome of the converter. -/
theorem toRgb24_eq (data : Bytes) (encoding : Encoding) (width height : UInt32) :
    toRgb24 data encoding width height =
      some (UsbVideo.toRgb24 data encoding width height) := by
  match encoding with
  | .yuy2 =>
    have hchunk := @convertMacropixel_chunk data .ofYuyv 0 1 2 3 (by decide) (by decide) (by decide)
      (by decide) fun _ => rfl
    rw [toRgb24_yuyv, toRgb24, zipChunks_macropixels hchunk (rgb_macropixel_yuyv data)]
    rfl
  | .uyvy =>
    have hchunk := @convertMacropixel_chunk data .ofUyvy 1 0 3 2 (by decide) (by decide) (by decide)
      (by decide) fun _ => rfl
    rw [toRgb24_uyvy, toRgb24, zipChunks_macropixels hchunk (rgb_macropixel_uyvy data)]
    rfl
  | .nv12 =>
    rw [toRgb24, UsbVideo.toRgb24]
    by_cases hblocks : width % 2 = 0 ∧ height % 2 = 0
    · have hchecked : checkSubsampled .nv12 width height = .ok () := if_pos hblocks
      have hwidth : width.toNat % 2 = 0 := UInt32.toNat_inj.mpr hblocks.1
      have hheight : height.toNat % 2 = 0 := UInt32.toNat_inj.mpr hblocks.2
      by_cases hshort : data.length < width.toNat * height.toNat + width.toNat * height.toNat / 2
      · simp only [hchecked, if_pos hshort]
        rfl
      · have hlength := Nat.not_lt.mp hshort
        have hsplit : split (width.toNat * height.toNat) data =
            some (data.take (width.toNat * height.toNat), data.drop (width.toNat * height.toNat)) :=
          if_pos (by omega)
        have hmodel := toRgb24_nv12 hwidth hheight hlength
        rw [UsbVideo.toRgb24] at hmodel
        rw [hmodel]
        simp only [hchecked, if_neg hshort, hsplit, List.length_replicate,
          Nat.mul_div_cancel _ (Nat.succ_pos 2), Option.bind_eq_bind, Option.bind_some,
          zipChunks_pixels hwidth hheight hlength]
        rfl
    · -- Both refuse before they touch the data.
      have hrefused : checkSubsampled .nv12 width height = .error (.oddDimensions .nv12 width height) :=
        if_neg hblocks
      rw [hrefused]
      rfl
  | .grey =>
    rw [toRgb24_grey, toRgb24, zipChunks_samples]
    rfl
  | .mjpeg | .uncompressed _ | .frameBased _ => rfl

end InPlace

end Yuv

end UsbVideo
