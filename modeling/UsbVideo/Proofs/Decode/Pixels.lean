import Mathlib.Data.List.Basic
import UsbVideo.Decode.Yuv

/-!
# Pixels of a converted frame

A converted frame is a raster, one pixel of three bytes behind the other. Each pixel is converted from
three samples that stand at known places of the raw frame, its site:

    pixel i of YUY2        luma 2i        chroma 4(i/2) + 1, 4(i/2) + 3
    pixel i of UYVY        luma 2i + 1    chroma 4(i/2), 4(i/2) + 2
    pixel r, c of NV12     luma rw + c    chroma wh + (r/2)w + 2(c/2), the next one

What `toRgb24` appends macropixel by macropixel and row by row is the raster of these sites
(`toRgb24_packed`, `toRgb24_nv12`, `toRgb24_grey`).
-/

namespace UsbVideo

namespace Yuv

/-! ### Rasters -/

/-- The blocks `px 0`, `px 1`, up to `px (n - 1)` in a row. -/
def raster (n : Nat) (px : Nat → Bytes) : Bytes := (List.range n).flatMap px

/-- The pixel at `i` of packed RGB. -/
def pixel (rgb : Bytes) (i : Nat) : Bytes := (rgb.drop (3 * i)).take 3

section Raster

variable {px px' : Nat → Bytes} {n : Nat}

@[simp] theorem raster_zero (px : Nat → Bytes) : raster 0 px = [] := rfl

theorem raster_add (m n : Nat) (px : Nat → Bytes) :
    raster (m + n) px = raster m px ++ raster n fun i => px (m + i) := by
  simp [raster, List.range_add, List.flatMap_map]

theorem raster_one (px : Nat → Bytes) : raster 1 px = px 0 := by
  simp [raster, List.range_succ]

theorem raster_succ (n : Nat) (px : Nat → Bytes) : raster (n + 1) px = raster n px ++ px n := by
  rw [raster_add, raster_one]
  rfl

theorem raster_cons (n : Nat) (px : Nat → Bytes) :
    raster (n + 1) px = px 0 ++ raster n fun i => px (i + 1) := by
  rw [Nat.add_comm, raster_add, raster_one]
  simp only [Nat.add_comm 1]

theorem raster_congr (h : ∀ i, i < n → px i = px' i) : raster n px = raster n px' :=
  List.flatMap_congr fun i hi => h i (List.mem_range.mp hi)

/-- A raster of rasters is one. -/
theorem raster_raster (m n : Nat) (px : Nat → Bytes) :
    (raster m fun k => raster n fun j => px (n * k + j)) = raster (n * m) px := by
  induction m with
  | zero => rfl
  | succ m ih => rw [raster_succ, ih, Nat.mul_succ, raster_add]

theorem length_raster {size : Nat} (h : ∀ i, (px i).length = size) (n : Nat) :
    (raster n px).length = size * n := by
  induction n with
  | zero => rfl
  | succ n ih => rw [raster_succ, List.length_append, ih, h, Nat.mul_succ]

theorem pixel_raster (h : ∀ i, (px i).length = 3) {i : Nat} (hi : i < n) (rest : Bytes) :
    pixel (raster n px ++ rest) i = px i := by
  obtain ⟨m, rfl⟩ := Nat.exists_eq_add_of_lt hi
  have hfront : 3 * i = (raster i px).length := (length_raster h i).symm
  rw [pixel, Nat.add_assoc, raster_add, Nat.add_comm m, raster_add, raster_one, List.append_assoc,
    List.append_assoc, hfront, List.drop_left, ← h i]
  exact List.take_left

end Raster

/-! ### Sites -/

/-- The sample at `i`. -/
def sample (data : Bytes) (i : Nat) : UInt8 := data[i]?.getD 0

/-- Where the samples of a pixel stand in a frame. -/
structure Site where
  luma : Nat
  cb : Nat
  cr : Nat

namespace Site

/-- The pixel at a site. -/
def pixel (data : Bytes) (s : Site) : Bytes :=
  rgb (sample data s.luma) (sample data s.cb) (sample data s.cr)

def yuyv (i : Nat) : Site := ⟨2 * i, 4 * (i / 2) + 1, 4 * (i / 2) + 3⟩

def uyvy (i : Nat) : Site := ⟨2 * i + 1, 4 * (i / 2), 4 * (i / 2) + 2⟩

/-- Two rows share a row of chroma, and two columns a pair there. -/
def nv12 (width height row col : Nat) : Site :=
  let pair := width * height + (row / 2 * width + 2 * (col / 2))
  ⟨width * row + col, pair, pair + 1⟩

end Site

/-! Rows and columns of a pixel. -/

theorem index_div {w c : Nat} (r : Nat) (hc : c < w) : (w * r + c) / w = r := by
  rw [Nat.mul_add_div (Nat.zero_lt_of_lt hc), Nat.div_eq_of_lt hc, Nat.add_zero]

theorem index_mod {w c : Nat} (r : Nat) (hc : c < w) : (w * r + c) % w = c := by
  rw [Nat.mul_add_mod, Nat.mod_eq_of_lt hc]

theorem index_lt {w h r c : Nat} (hr : r < h) (hc : c < w) : w * r + c < w * h := by
  have hbelow := Nat.mul_le_mul_left w (Nat.succ_le_of_lt hr)
  rw [Nat.mul_succ] at hbelow
  omega

/-- The chroma pair of a pixel is in the half-height plane. -/
theorem pair_lt {w h r c : Nat} (hw : w % 2 = 0) (hh : h % 2 = 0) (hr : r < h) (hc : c < w) :
    r / 2 * w + 2 * (c / 2) + 1 < w * h / 2 := by
  obtain ⟨n, rfl⟩ : ∃ n, h = 2 * n := ⟨h / 2, by omega⟩
  have hplane : w * (2 * n) / 2 = n * w := by
    rw [Nat.mul_left_comm, Nat.mul_div_cancel_left _ Nat.two_pos, Nat.mul_comm]
  have hrows : (r / 2 + 1) * w ≤ n * w := Nat.mul_le_mul_right w (by omega)
  rw [Nat.succ_mul] at hrows
  omega

@[simp] theorem length_sitePixel (data : Bytes) (s : Site) : (s.pixel data).length = 3 := rfl

theorem sample_drop (data : Bytes) (n i : Nat) : sample (data.drop n) i = sample data (n + i) := by
  rw [sample, List.getElem?_drop, sample]

theorem sample_take {data : Bytes} {n i : Nat} (h : i < n) :
    sample (data.take n) i = sample data i := by
  rw [sample, List.getElem?_take_of_lt h, sample]

/-! ### Macropixels -/

/-- The macropixel at `k`, its samples in this order. -/
def macropixel (order : UInt8 → UInt8 → UInt8 → UInt8 → Macropixel) (data : Bytes) (k : Nat) :
    Macropixel :=
  order (sample data (4 * k)) (sample data (4 * k + 1)) (sample data (4 * k + 2))
    (sample data (4 * k + 3))

theorem toList_appendPacked (order : UInt8 → UInt8 → UInt8 → UInt8 → Macropixel) (count : Nat)
    (data : Bytes) (out : Array UInt8) :
    (appendPacked order count data out).toList = out.toList ++
      raster (min count (data.length / 4)) fun k => (macropixel order data k).rgb := by
  fun_induction appendPacked order count data out with
  | case1 count a b c d data out ih =>
    have hmore : min (count + 1) ((a :: b :: c :: d :: data).length / 4) =
        min count (data.length / 4) + 1 := by
      simp only [List.length_cons]
      omega
    rw [ih, hmore, raster_cons, Array.toList_appendList]
    simp [macropixel, sample, Nat.mul_succ]
  | case2 count data out hstop =>
    have hnone : min count (data.length / 4) = 0 := by
      match count, data with
      | 0, _ => simp
      | _, [] | _, [_] | _, [_, _] | _, [_, _, _] => simp
      | count + 1, a :: b :: c :: d :: data => exact (hstop count a b c d data rfl rfl).elim
    rw [hnone, raster_zero, List.append_nil]

/-- Two pixels of one macropixel. -/
theorem rgb_macropixel_yuyv (data : Bytes) (k : Nat) :
    (macropixel .ofYuyv data k).rgb = raster 2 fun j => (Site.yuyv (2 * k + j)).pixel data := by
  have hfirst : 2 * k / 2 = k := by omega
  have hsecond : (2 * k + 1) / 2 = k := by omega
  rw [raster_succ, raster_one, Site.pixel, Site.pixel, Site.yuyv, Site.yuyv]
  simp only [Nat.add_zero, hfirst, hsecond, Nat.mul_add, ← Nat.mul_assoc]
  rfl

theorem rgb_macropixel_uyvy (data : Bytes) (k : Nat) :
    (macropixel .ofUyvy data k).rgb = raster 2 fun j => (Site.uyvy (2 * k + j)).pixel data := by
  have hfirst : 2 * k / 2 = k := by omega
  have hsecond : (2 * k + 1) / 2 = k := by omega
  rw [raster_succ, raster_one, Site.pixel, Site.pixel, Site.uyvy, Site.uyvy]
  simp only [Nat.add_zero, hfirst, hsecond, Nat.mul_add, ← Nat.mul_assoc]
  rfl

/-! ### Rows -/

theorem toList_appendRow {m : Nat} {luma chroma : Bytes} (hluma : luma.length = 2 * m)
    (hchroma : chroma.length = 2 * m) (out : Array UInt8) :
    (appendRow luma chroma out).toList = out.toList ++ raster (2 * m) fun c =>
      rgb (sample luma c) (sample chroma (2 * (c / 2))) (sample chroma (2 * (c / 2) + 1)) := by
  induction m generalizing luma chroma out with
  | zero =>
    obtain rfl := List.length_eq_zero_iff.mp hluma
    simp [appendRow]
  | succ m ih =>
    match luma, chroma, hluma, hchroma with
    | y0 :: y1 :: luma, u :: v :: chroma, hluma, hchroma =>
      have hpair (c : Nat) : 2 * ((c + 1 + 1) / 2) = 2 * (c / 2) + 2 := by omega
      rw [appendRow, ih (by simp at hluma; omega) (by simp at hchroma; omega), Array.toList_appendList,
        Nat.mul_succ, raster_cons, raster_cons]
      simp only [hpair]
      simp [sample, Macropixel.rgb]

/-- A row that starts at `a`, with the chroma at the front. -/
theorem toList_appendRow_slice {m a : Nat} {luma chroma : Bytes} (hluma : a + 2 * m ≤ luma.length)
    (hchroma : 2 * m ≤ chroma.length) (out : Array UInt8) :
    (appendRow ((luma.drop a).take (2 * m)) (chroma.take (2 * m)) out).toList =
      out.toList ++ raster (2 * m) fun c =>
        rgb (sample luma (a + c)) (sample chroma (2 * (c / 2))) (sample chroma (2 * (c / 2) + 1)) := by
  have hrow : ((luma.drop a).take (2 * m)).length = 2 * m := by
    refine List.length_take_of_le ?_
    rw [List.length_drop]
    omega
  rw [toList_appendRow hrow (List.length_take_of_le hchroma)]
  refine congrArg (out.toList ++ ·) (raster_congr fun c hc => ?_)
  have hpair : 2 * (c / 2) + 1 < 2 * m := by omega
  rw [sample_take hc, sample_take (by omega), sample_take hpair, sample_drop]

theorem toList_appendRowPairs {width : Nat} (heven : width % 2 = 0) {count : Nat}
    {luma chroma : Bytes} (hluma : 2 * width * count ≤ luma.length)
    (hchroma : width * count ≤ chroma.length) (out : Array UInt8) :
    (appendRowPairs width count luma chroma out).toList = out.toList ++
      raster (2 * count) fun r => raster width fun c =>
        rgb (sample luma (width * r + c)) (sample chroma (r / 2 * width + 2 * (c / 2)))
          (sample chroma (r / 2 * width + 2 * (c / 2) + 1)) := by
  induction count generalizing luma chroma out with
  | zero => simp [appendRowPairs]
  | succ count ih =>
    obtain ⟨m, rfl⟩ : ∃ m, width = 2 * m := ⟨width / 2, by omega⟩
    rw [Nat.mul_succ] at hluma hchroma
    have hluma' : 2 * (2 * m) * count ≤ (luma.drop (2 * (2 * m))).length := by
      rw [List.length_drop]
      omega
    have hchroma' : 2 * m * count ≤ (chroma.drop (2 * m)).length := by
      rw [List.length_drop]
      omega
    have hshared : 2 * m ≤ chroma.length := by omega
    have hfirst : 0 + 2 * m ≤ luma.length := by omega
    have hsecond : 2 * m + 2 * m ≤ luma.length := by omega
    have hupper := toList_appendRow_slice hfirst hshared out
    have hlower := toList_appendRow_slice hsecond hshared
    rw [List.drop_zero] at hupper
    rw [appendRowPairs, ih hluma' hchroma', hlower, hupper, Nat.mul_succ, raster_cons, raster_cons,
      List.append_assoc, List.append_assoc]
    -- Both rows of the first pair, and then the others, which stand two rows further down.
    refine congrArg (out.toList ++ ·) (congr (congrArg _ ?_) (congr (congrArg _ ?_) ?_))
    · simp
    · simp
    · refine raster_congr fun r _ => raster_congr fun c _ => ?_
      have hrow : 2 * m * (r + 1 + 1) + c = 2 * (2 * m) + (2 * m * r + c) := by
        rw [Nat.mul_succ, Nat.mul_succ]
        omega
      have hpair : (r + 1 + 1) / 2 * (2 * m) + 2 * (c / 2) =
          2 * m + (r / 2 * (2 * m) + 2 * (c / 2)) := by
        have hhalf : (r + 1 + 1) / 2 = r / 2 + 1 := by omega
        rw [hhalf, Nat.succ_mul]
        omega
      rw [hrow, hpair, sample_drop, sample_drop, sample_drop, Nat.add_assoc (2 * m)]

theorem toList_appendGrey (count : Nat) (data : Bytes) (out : Array UInt8) :
    (appendGrey count data out).toList = out.toList ++
      raster (min count data.length) fun i => List.replicate 3 (sample data i) := by
  fun_induction appendGrey count data out with
  | case1 count y data out ih =>
    have hmore : min (count + 1) (y :: data).length = min count data.length + 1 := by
      simp only [List.length_cons]
      omega
    rw [ih, hmore, raster_cons, Array.toList_appendList]
    simp [sample, List.replicate]
  | case2 count data out hstop =>
    have hnone : min count data.length = 0 := by
      match count, data with
      | 0, _ => simp
      | _, [] => simp
      | count + 1, y :: data => exact (hstop count y data rfl rfl).elim
    rw [hnone, raster_zero, List.append_nil]

/-! ### Frames -/

/-- The pixels there are, and zeros up to the size of the frame. -/
theorem padded_raster {out : Array UInt8} {n pixels : Nat} {px : Nat → Bytes}
    (hlength : ∀ i, (px i).length = 3) (h : out.toList = raster n px) :
    padded (pixels * 3) out = raster n px ++ List.replicate (3 * (pixels - n)) 0 := by
  rw [padded, ← Array.length_toList, h, length_raster hlength, Nat.mul_comm pixels, ← Nat.mul_sub]

theorem raster_macropixel {order : UInt8 → UInt8 → UInt8 → UInt8 → Macropixel} {data : Bytes}
    {site : Nat → Site}
    (h : ∀ k, (macropixel order data k).rgb = raster 2 fun j => (site (2 * k + j)).pixel data)
    (count : Nat) : (raster count fun k => (macropixel order data k).rgb) =
      raster (2 * count) fun i => (site i).pixel data := by
  rw [raster_congr fun k _ => h k, raster_raster count 2 fun i => (site i).pixel data]

end Yuv

open Yuv

variable (data : Bytes) (width height : UInt32)

/-- The frame has its pixels and the data has its bytes: the macropixels of both are converted. -/
theorem toRgb24_yuyv : toRgb24 data .yuy2 width height =
    let pixels := width.toNat * height.toNat
    let count := min (pixels / 2) (data.length / 4)
    .ok ((raster (2 * count) fun i => (Site.yuyv i).pixel data) ++
      List.replicate (3 * (pixels - 2 * count)) 0) := by
  refine congrArg Except.ok (padded_raster (fun _ => rfl) ?_)
  rw [toList_appendPacked, raster_macropixel (rgb_macropixel_yuyv data), List.nil_append]

theorem toRgb24_uyvy : toRgb24 data .uyvy width height =
    let pixels := width.toNat * height.toNat
    let count := min (pixels / 2) (data.length / 4)
    .ok ((raster (2 * count) fun i => (Site.uyvy i).pixel data) ++
      List.replicate (3 * (pixels - 2 * count)) 0) := by
  refine congrArg Except.ok (padded_raster (fun _ => rfl) ?_)
  rw [toList_appendPacked, raster_macropixel (rgb_macropixel_uyvy data), List.nil_append]

theorem toRgb24_grey : toRgb24 data .grey width height =
    let pixels := width.toNat * height.toNat
    let count := min pixels data.length
    .ok ((raster count fun i => List.replicate 3 (sample data i)) ++
      List.replicate (3 * (pixels - count)) 0) := by
  refine congrArg Except.ok (padded_raster (fun _ => rfl) ?_)
  rw [toList_appendGrey, List.nil_append]

variable {data width height}

/-- A frame of whole blocks with all its planes is converted. -/
theorem toRgb24_nv12 (hwidth : width.toNat % 2 = 0) (hheight : height.toNat % 2 = 0)
    (hlength : width.toNat * height.toNat + width.toNat * height.toNat / 2 ≤ data.length) :
    toRgb24 data .nv12 width height = .ok (raster (width.toNat * height.toNat) fun i =>
      (Site.nv12 width.toNat height.toNat (i / width.toNat) (i % width.toNat)).pixel data) := by
  have hchecked : checkSubsampled .nv12 width height = .ok () :=
    if_pos ⟨UInt32.toNat_inj.mp hwidth, UInt32.toNat_inj.mp hheight⟩
  rw [toRgb24, hchecked]
  generalize width.toNat = w, height.toNat = h at *
  obtain ⟨n, rfl⟩ : ∃ n, h = 2 * n := ⟨h / 2, by omega⟩
  have hpixels : w * (2 * n) = 2 * w * n := by rw [Nat.mul_left_comm, Nat.mul_assoc]
  have hchroma : w * (2 * n) / 2 = w * n := by
    rw [Nat.mul_left_comm, Nat.mul_div_cancel_left _ Nat.two_pos]
  have hn : 2 * n / 2 = n := Nat.mul_div_cancel_left _ Nat.two_pos
  have hluma : 2 * w * n ≤ (data.take (w * (2 * n))).length := by
    rw [List.length_take]
    omega
  have hplane : w * n ≤ (data.drop (w * (2 * n))).length := by
    rw [List.length_drop]
    omega
  have hrows := toList_appendRowPairs hwidth hluma hplane #[]
  have hsites : (raster (2 * n) fun r => raster w fun c =>
      rgb (sample (data.take (w * (2 * n))) (w * r + c))
        (sample (data.drop (w * (2 * n))) (r / 2 * w + 2 * (c / 2)))
        (sample (data.drop (w * (2 * n))) (r / 2 * w + 2 * (c / 2) + 1))) =
      raster (w * (2 * n)) fun i => (Site.nv12 w (2 * n) (i / w) (i % w)).pixel data := by
    rw [← raster_raster (2 * n) w]
    refine raster_congr fun r hr => raster_congr fun c hc => ?_
    rw [index_div r hc, index_mod r hc, sample_take (index_lt hr hc), sample_drop, sample_drop]
    rfl
  have hfull : (appendRowPairs w n (data.take (w * (2 * n))) (data.drop (w * (2 * n))) #[]).toList =
      raster (w * (2 * n)) fun i => (Site.nv12 w (2 * n) (i / w) (i % w)).pixel data :=
    hrows.trans hsites
  show (if data.length < w * (2 * n) + w * (2 * n) / 2 then _ else _) = _
  rw [if_neg (Nat.not_lt.mpr hlength), hn, padded_raster (fun _ => rfl) hfull, Nat.sub_self]
  simp

end UsbVideo
