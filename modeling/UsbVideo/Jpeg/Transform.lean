import UsbVideo.Bytes

/-!
# The inverse cosine transform

A block of 8x8 coefficients becomes a block of samples in two passes, first down the columns and then
along the rows. All numbers have sixteen bits with three of them behind the point, and each pass makes
three more. Sums that do not fit are cut to the nearest number that does.
-/

namespace UsbVideo.Jpeg

/-- For each coefficient in the order of a scan its position in the block, row by row. -/
def zigzag : List Nat :=
  [0, 1, 8, 16, 9, 2, 3, 10, 17, 24, 32, 25, 18, 11, 4, 5,
    12, 19, 26, 33, 40, 48, 41, 34, 27, 20, 13, 6, 7, 14, 21, 28,
    35, 42, 49, 56, 57, 50, 43, 36, 29, 22, 15, 23, 30, 37, 44, 51,
    58, 59, 52, 45, 38, 31, 39, 46, 53, 60, 61, 54, 47, 55, 62, 63]

/-! ### Numbers of sixteen bits -/

/-- The nearest number of sixteen bits. -/
def clip (n : Int) : Int := max (-32768) (min n 32767)

def plus (a b : Int) : Int := clip (a + b)

def minus (a b : Int) : Int := clip (a - b)

/-- `n` times a fraction of 32768, rounded. -/
def portion (factor n : Int) : Int := (n * factor / 16384 + 1) / 2

/-! ### Lines -/

/-- One line of a block. -/
structure Line where
  s0 : Int
  s1 : Int
  s2 : Int
  s3 : Int
  s4 : Int
  s5 : Int
  s6 : Int
  s7 : Int
  deriving DecidableEq

namespace Line

/-- A line from a function on 0 to 7. -/
def ofFn (f : Nat → Int) : Line := ⟨f 0, f 1, f 2, f 3, f 4, f 5, f 6, f 7⟩

def toList (l : Line) : List Int := [l.s0, l.s1, l.s2, l.s3, l.s4, l.s5, l.s6, l.s7]

/-- The even part of the transform: the sums and differences of coefficients 0, 2, 4 and 6. -/
def even (l : Line) : Int × Int × Int × Int :=
  let p1 := portion 17734 (plus l.s2 l.s6)
  let t2 := minus (minus p1 l.s6) (portion 27779 l.s6)
  let t3 := plus p1 (portion 25079 l.s2)
  let t0 := plus l.s0 l.s4
  let t1 := minus l.s0 l.s4
  (plus t0 t3, plus t1 t2, minus t1 t2, minus t0 t3)

/-- The odd part of the transform, from coefficients 1, 3, 5 and 7. -/
def odd (l : Line) : Int × Int × Int × Int :=
  let p3 := plus l.s7 l.s3
  let p4 := plus l.s5 l.s1
  let p1 := plus l.s7 l.s1
  let p2 := plus l.s5 l.s3
  let p5 := plus p3 p4
  let p5 := plus p5 (portion 5763 p5)
  let t0 := portion 9786 l.s7
  let t1 := plus (plus l.s5 l.s5) (portion 1741 l.s5)
  let t2 := plus (plus l.s3 (plus l.s3 l.s3)) (portion 2383 l.s3)
  let t3 := plus l.s1 (portion 16427 l.s1)
  let p1 := minus p5 (portion 29490 p1)
  let p2 := minus (minus (minus p5 p2) p2) (portion 18446 p2)
  let p3 := minus (portion (-31509) p3) p3
  let p4 := portion (-12785) p4
  (plus (plus p1 p4) t3, plus (plus p2 p3) t2, plus (plus p2 p4) t1, plus (plus p1 p3) t0)

/-- Transform a line. -/
def inverse (l : Line) : Line :=
  let (x0, x1, x2, x3) := l.even
  let (t0, t1, t2, t3) := l.odd
  ⟨plus x0 t0, plus x1 t1, plus x2 t2, plus x3 t3,
    minus x3 t3, minus x2 t2, minus x1 t1, minus x0 t0⟩

end Line

/-! ### Blocks -/

/-- The nearest sample. -/
def clampSample (n : Int) : UInt8 := .ofNat (min n.toNat 255)

/-- The sample of a transformed coefficient, which has six bits behind the point and counts from the
middle of the range. -/
def sampleOf (n : Int) : UInt8 := clampSample (plus n (128 * 64 + 32) / 64)

/-- The samples of a block, row by row, from its 64 coefficients. -/
def samples (coefficients : Array Int) : List UInt8 :=
  let column (i : Nat) : Line := (Line.ofFn fun row => coefficients.getD (8 * row + i) 0).inverse
  let columns := ((List.range 8).map fun i => (column i).toList.toArray).toArray
  (List.range 8).flatMap fun row =>
    (Line.ofFn fun i => (columns.getD i #[]).getD row 0).inverse.toList.map sampleOf

end UsbVideo.Jpeg
