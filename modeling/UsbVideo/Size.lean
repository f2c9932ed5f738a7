/-!
# Sizes

Sizes and counts are natural numbers; where they are multiplied, the product must fit in 64 bits.
-/

namespace UsbVideo

/-- Sizes are counted in 64 bits. -/
def sizeLimit : Nat := 0x10000000000000000

/-- A size that can be counted. -/
def countable (n : Nat) : Option Nat := if n < sizeLimit then some n else none

/-- The sum of sizes. -/
def total : List Nat → Nat
  | [] => 0
  | n :: ns => n + total ns

@[simp] theorem total_append (ms ns : List Nat) : total (ms ++ ns) = total ms + total ns := by
  induction ms with
  | nil => simp [total]
  | cons m ms ih => simp [total, ih, Nat.add_assoc]

/-- The quotient rounded up. -/
def divCeil (n d : Nat) : Nat := (n + d - 1) / d

/-- So many parts of size `d` hold `n`, and no fewer do. -/
theorem divCeil_le_iff {d : Nat} (pos : 0 < d) {n k : Nat} : divCeil n d ≤ k ↔ n ≤ d * k := by
  rw [divCeil, Nat.div_le_iff_le_mul_add_pred pos]
  omega

end UsbVideo
