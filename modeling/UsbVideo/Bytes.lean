/-!
# Byte strings

Everything on the wire is a list of bytes; numbers in it are little-endian.

* `littleEndian w n` writes the low `w` bytes of `n`, lowest first.
* `value bs` reads a byte string back as a number.

The two are inverse: `value_littleEndian` (up to `256 ^ w`) and `littleEndian_value`.
Receive buffers, which are overwritten in place, are arrays: `Buffer.write` and `Buffer.read`.
-/

namespace UsbVideo

/-- A string of bytes in wire order. -/
abbrev Bytes := List UInt8

namespace Bytes

/-- The low `w` bytes of `n`, lowest first. -/
def littleEndian : (w n : Nat) → Bytes
  | 0, _ => []
  | w + 1, n => UInt8.ofNat n :: littleEndian w (n / 256)

/-- The number a little-endian byte string stands for. -/
def value : Bytes → Nat
  | [] => 0
  | b :: bs => b.toNat + 256 * value bs

/-- A 16-bit word on the wire. -/
def word16 (n : UInt16) : Bytes := littleEndian 2 n.toNat

/-- A 32-bit word on the wire. -/
def word32 (n : UInt32) : Bytes := littleEndian 4 n.toNat

/-- A 64-bit word on the wire. -/
def word64 (n : UInt64) : Bytes := littleEndian 8 n.toNat

@[simp] theorem length_littleEndian (w n : Nat) : (littleEndian w n).length = w := by
  induction w generalizing n with
  | zero => rfl
  | succ w ih => simp [littleEndian, ih]

@[simp] theorem length_word16 (n : UInt16) : (word16 n).length = 2 := by simp [word16]

@[simp] theorem length_word32 (n : UInt32) : (word32 n).length = 4 := by simp [word32]

@[simp] theorem length_word64 (n : UInt64) : (word64 n).length = 8 := by simp [word64]

/-- A byte string of length `w` stands for a number below `256 ^ w`. -/
theorem value_lt (bs : Bytes) : value bs < Nat.pow 256 bs.length := by
  induction bs with
  | nil => simp [value]
  | cons b bs ih =>
    have hb : b.toNat < 256 := b.toNat_lt
    simp only [value, List.length_cons, Nat.pow_eq, Nat.pow_succ] at ih ⊢
    omega

/-- Writing keeps the number modulo `256 ^ w`. -/
theorem value_littleEndian (w n : Nat) : value (littleEndian w n) = n % Nat.pow 256 w := by
  induction w generalizing n with
  | zero => simp [littleEndian, value, Nat.mod_one]
  | succ w ih =>
    have h : (UInt8.ofNat n).toNat = n % 256 := by simp
    rw [littleEndian, value, ih, h, Nat.pow_eq, Nat.pow_eq, Nat.pow_succ, Nat.mul_comm (256 ^ w) 256,
      Nat.mod_mul]

theorem value_word16 (n : UInt16) : value (word16 n) = n.toNat := by
  rw [word16, value_littleEndian]
  exact Nat.mod_eq_of_lt n.toNat_lt

theorem value_word32 (n : UInt32) : value (word32 n) = n.toNat := by
  rw [word32, value_littleEndian]
  exact Nat.mod_eq_of_lt n.toNat_lt

theorem value_word64 (n : UInt64) : value (word64 n) = n.toNat := by
  rw [word64, value_littleEndian]
  exact Nat.mod_eq_of_lt n.toNat_lt

theorem ofNat_value_word16 (n : UInt16) : UInt16.ofNat (value (word16 n)) = n := by
  rw [value_word16, UInt16.ofNat_toNat]

theorem ofNat_value_word32 (n : UInt32) : UInt32.ofNat (value (word32 n)) = n := by
  rw [value_word32, UInt32.ofNat_toNat]

/-- Reading and writing again gives the same bytes. -/
theorem littleEndian_value (bs : Bytes) : littleEndian bs.length (value bs) = bs := by
  induction bs with
  | nil => rfl
  | cons b bs ih =>
    have hb : b.toNat < 256 := b.toNat_lt
    have hdiv : (b.toNat + 256 * value bs) / 256 = value bs := by omega
    have hhead : UInt8.ofNat (b.toNat + 256 * value bs) = b := by
      apply UInt8.toNat_inj.mp
      simp
    simp only [List.length_cons, littleEndian, value, hdiv, ih, hhead]

theorem word16_ofNat_value {bs : Bytes} (h : bs.length = 2) : word16 (.ofNat (value bs)) = bs := by
  have hlt := value_lt bs
  rw [h] at hlt
  rw [word16, UInt16.toNat_ofNat_of_lt' hlt, ← h, littleEndian_value]

theorem word32_ofNat_value {bs : Bytes} (h : bs.length = 4) : word32 (.ofNat (value bs)) = bs := by
  have hlt := value_lt bs
  rw [h] at hlt
  rw [word32, UInt32.toNat_ofNat_of_lt' hlt, ← h, littleEndian_value]

theorem word64_ofNat_value {bs : Bytes} (h : bs.length = 8) : word64 (.ofNat (value bs)) = bs := by
  have hlt := value_lt bs
  rw [h] at hlt
  rw [word64, UInt64.toNat_ofNat_of_lt' hlt, ← h, littleEndian_value]

end Bytes

/-- A receive buffer: bytes that are overwritten in place. -/
abbrev Buffer := Array UInt8

namespace Buffer

/-- A buffer of `n` zero bytes. -/
def zeroed (n : Nat) : Buffer := Array.replicate n 0

/-- Overwrite the bytes from `start` on with `data`; what lies past the end is not stored. -/
def write (buffer : Buffer) (start : Nat) : Bytes → Buffer
  | [] => buffer
  | b :: bs => write (buffer.setIfInBounds start b) (start + 1) bs

/-- The `len` bytes from `start` on. -/
def read (buffer : Buffer) (start len : Nat) : Bytes :=
  (buffer.extract start (start + len)).toList

@[simp] theorem size_write (buffer : Buffer) (start : Nat) (data : Bytes) :
    (buffer.write start data).size = buffer.size := by
  induction data generalizing buffer start with
  | nil => rfl
  | cons b bs ih => simp [write, ih]

end Buffer

end UsbVideo
