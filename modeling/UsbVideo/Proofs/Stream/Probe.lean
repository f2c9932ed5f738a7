import Mathlib.Data.List.TakeDrop
import UsbVideo.Probe

/-!
# The probe block as a codec

    block ──bytes──▶ 48 bytes ──take n──▶ what is sent
    block ◀─ofBytes── 48 bytes ◀──takeD──── what has come

A block that is written in full is read back as it is (`ofBytes_bytes`), and 48 bytes that are read are
written again as they were (`bytes_ofBytes`). In between, a block that is cut loses the bits that stand
in the bytes cut off (`ofBytes_take`), and bytes that are missing are taken for zeros
(`ofBytes_takeD`). So a block may be cut where it has nothing but zeros (`decode_encode_of_zeros`).
-/

namespace UsbVideo

namespace Bytes

/-- Zeros behind the highest byte do not count. -/
theorem value_append_zeros (bs : Bytes) (k : Nat) : value (bs ++ List.replicate k 0) = value bs := by
  induction bs with
  | nil =>
    induction k with
    | zero => rfl
    | succ k ih =>
      have hzeros : value (List.replicate k 0) = 0 := ih
      simp [List.replicate_succ, value, hzeros]
  | cons b bs ih => simp only [List.cons_append, value, ih]

/-- The first bytes are the low ones. -/
theorem value_take (bs : Bytes) (k : Nat) : value (bs.take k) = value bs % Nat.pow 256 k := by
  induction k generalizing bs with
  | zero => simp [value, Nat.mod_one]
  | succ k ih =>
    cases bs with
    | nil => simp [value]
    | cons b bs =>
      have hb : b.toNat < 256 := b.toNat_lt
      have hlow : (b.toNat + 256 * value bs) % 256 = b.toNat := by omega
      have hhigh : (b.toNat + 256 * value bs) / 256 = value bs := by omega
      rw [List.take_succ_cons, value, value, ih, Nat.pow_eq, Nat.pow_eq, Nat.pow_succ', Nat.mod_mul,
        hlow, hhigh]

/-- What is missing of `n` bytes is filled up with zeros. -/
theorem takeD_eq_append {n : Nat} {bs : Bytes} (h : bs.length ≤ n) :
    bs.takeD n 0 = bs ++ List.replicate (n - bs.length) 0 := by
  induction bs generalizing n with
  | nil => simp
  | cons b bs ih =>
    cases n with
    | zero => cases h
    | succ n => simp [ih (Nat.le_of_succ_le_succ h)]

/-- Filling up and cutting is filling up to where the cut is. -/
theorem take_takeD {n m : Nat} {bs : Bytes} (h : n ≤ m) : (bs.takeD m 0).take n = bs.takeD n 0 := by
  induction n generalizing m bs with
  | zero => rfl
  | succ n ih =>
    obtain ⟨m, rfl⟩ := Nat.exists_eq_add_of_le' h
    exact congrArg (_ :: ·) (ih (Nat.le_add_left n m))

end Bytes

namespace ProbeBlock

theorem field_append_zeros (block : Bytes) (k i n : Nat) :
    field (block ++ List.replicate k 0) i n = field block i n := by
  rw [field, field, List.drop_append, List.take_append, List.drop_replicate, List.take_replicate,
    Bytes.value_append_zeros]

/-- What is behind the end of a block is zero. -/
theorem ofBytes_append_zeros (block : Bytes) (k : Nat) :
    ofBytes (block ++ List.replicate k 0) = ofBytes block := by
  simp only [ofBytes, field_append_zeros]

/-- Of a field that is cut, the low bytes are left. -/
theorem field_take (block : Bytes) (k i n : Nat) :
    field (block.take k) i n = field block i n % Nat.pow 256 (k - i) := by
  rw [field, field, List.drop_take, List.take_take, Nat.min_comm, ← List.take_take, Bytes.value_take]

theorem field_take_of_le {block : Bytes} {k i n : Nat} (h : i + n ≤ k) :
    field (block.take k) i n = field block i n := by
  have hcover : min n (k - i) = n := by omega
  rw [field, field, List.drop_take, List.take_take, hcover]

/-! ### A field at the front, and those behind it -/

section Front

variable (rest : Bytes) (i n : Nat)

theorem field_cons_zero (b : UInt8) : field (b :: rest) 0 1 = b.toNat := by
  simp [field, Bytes.value]

theorem field_cons_succ (b : UInt8) : field (b :: rest) (i + 1) n = field rest i n := rfl

theorem field_word16_zero (x : UInt16) : field (Bytes.word16 x ++ rest) 0 2 = x.toNat :=
  Bytes.value_word16 x

theorem field_word16_add (x : UInt16) :
    field (Bytes.word16 x ++ rest) (i + 2) n = field rest i n := rfl

theorem field_word32_zero (x : UInt32) : field (Bytes.word32 x ++ rest) 0 4 = x.toNat :=
  Bytes.value_word32 x

theorem field_word32_add (x : UInt32) :
    field (Bytes.word32 x ++ rest) (i + 4) n = field rest i n := rfl

theorem field_word64 (x : UInt64) : field (Bytes.word64 x) 0 8 = x.toNat :=
  Bytes.value_word64 x

end Front

/-! ### Cuts -/

/-- Of a number whose lowest byte is byte `i` of a block, what stands in front of byte `n`. -/
def keptBefore (n i x : Nat) : Nat := x % Nat.pow 256 (n - i)

/-- The block without the bits that stand in byte `n` of the wire or behind it, where `n` is none of the
first 26 bytes. -/
def clearFrom (p : ProbeBlock) (n : Nat) : ProbeBlock :=
  { p with
    clockFrequency := .ofNat (keptBefore n 26 p.clockFrequency.toNat)
    framingInfo := .ofNat (keptBefore n 30 p.framingInfo.toNat)
    preferredVersion := .ofNat (keptBefore n 31 p.preferredVersion.toNat)
    minVersion := .ofNat (keptBefore n 32 p.minVersion.toNat)
    maxVersion := .ofNat (keptBefore n 33 p.maxVersion.toNat)
    usage := .ofNat (keptBefore n 34 p.usage.toNat)
    bitDepthLuma := .ofNat (keptBefore n 35 p.bitDepthLuma.toNat)
    settings := .ofNat (keptBefore n 36 p.settings.toNat)
    maxNumberOfRefFrames := .ofNat (keptBefore n 37 p.maxNumberOfRefFrames.toNat)
    rateControlModes := .ofNat (keptBefore n 38 p.rateControlModes.toNat)
    layoutPerStream := .ofNat (keptBefore n 40 p.layoutPerStream.toNat) }

/-- What is read of a block that was cut behind the first 26 bytes. -/
theorem ofBytes_take {p : ProbeBlock} {n : Nat} (h : minLength ≤ n) :
    ofBytes (p.bytes.take n) = p.clearFrom n := by
  have hn : 26 ≤ n := h
  simp (disch := omega) only [ofBytes, field_take_of_le]
  simp only [field_take, bytes, List.append_assoc, List.cons_append, List.nil_append, field_cons_zero,
    field_cons_succ, field_word16_zero, field_word16_add, field_word32_zero, field_word32_add,
    field_word64, UInt8.ofNat_toNat, UInt16.ofNat_toNat, UInt32.ofNat_toNat]
  rfl

/-- The fields of a block that was written in full. -/
theorem ofBytes_bytes (p : ProbeBlock) : ofBytes p.bytes = p := by
  simp only [ofBytes, bytes, List.append_assoc, List.cons_append, List.nil_append, field_cons_zero,
    field_cons_succ, field_word16_zero, field_word16_add, field_word32_zero, field_word32_add,
    field_word64, UInt8.ofNat_toNat, UInt16.ofNat_toNat, UInt32.ofNat_toNat, UInt64.ofNat_toNat]

/-! ### A block written again -/

section Again

variable {block : Bytes} {i j : Nat}

theorem byte_append_drop (hj : i + 1 = j) (hlong : j ≤ block.length) :
    UInt8.ofNat (field block i 1) :: block.drop j = block.drop i := by
  subst hj
  rw [field, List.drop_eq_getElem_cons hlong, List.take_succ_cons]
  simp [Bytes.value]

/-- A field that is written again stands in front of what is behind it. -/
theorem field_append_drop (write : Nat → Bytes) {w : Nat}
    (hwrite : ∀ bs : Bytes, bs.length = w → write (Bytes.value bs) = bs)
    (hj : i + w = j) (hlong : j ≤ block.length) :
    write (field block i w) ++ block.drop j = block.drop i := by
  have hlength : ((block.drop i).take w).length = w := by simp; omega
  rw [field, hwrite _ hlength, ← hj, ← List.drop_drop, List.take_append_drop]

theorem word16_append_drop (hj : i + 2 = j) (hlong : j ≤ block.length) :
    Bytes.word16 (.ofNat (field block i 2)) ++ block.drop j = block.drop i :=
  field_append_drop (fun x => Bytes.word16 (.ofNat x)) (fun _ => Bytes.word16_ofNat_value) hj hlong

theorem word32_append_drop (hj : i + 4 = j) (hlong : j ≤ block.length) :
    Bytes.word32 (.ofNat (field block i 4)) ++ block.drop j = block.drop i :=
  field_append_drop (fun x => Bytes.word32 (.ofNat x)) (fun _ => Bytes.word32_ofNat_value) hj hlong

theorem word64_append_drop (hj : i + 8 = j) (hlong : j ≤ block.length) :
    Bytes.word64 (.ofNat (field block i 8)) ++ block.drop j = block.drop i :=
  field_append_drop (fun x => Bytes.word64 (.ofNat x)) (fun _ => Bytes.word64_ofNat_value) hj hlong

end Again

/-- Only the first 48 bytes are read, and those that are missing are taken for zeros. -/
theorem ofBytes_takeD (block : Bytes) : ofBytes (block.takeD fullLength 0) = ofBytes block := by
  rcases Nat.le_total block.length fullLength with hshort | hlong
  · rw [Bytes.takeD_eq_append hshort, ofBytes_append_zeros]
  · rw [List.takeD_eq_take 0 hlong]
    simp (disch := decide) only [ofBytes, field_take_of_le]

/-- What was read is written again as it was. -/
theorem bytes_ofBytes (block : Bytes) : (ofBytes block).bytes = block.takeD fullLength 0 := by
  rw [← ofBytes_takeD]
  generalize hfull : block.takeD fullLength 0 = full
  have hlong : full.length = 48 := by rw [← hfull, List.takeD_length]; rfl
  have hend : full.drop 48 = [] := List.drop_eq_nil_of_le (Nat.le_of_eq hlong)
  -- From the last field to the first, each is put in front of what is behind it.
  rw [← List.append_nil (bytes _), ← hend]
  simp (disch := omega) only [bytes, ofBytes, List.append_assoc, List.cons_append, List.nil_append,
    byte_append_drop, word16_append_drop, word32_append_drop, word64_append_drop]
  rfl

/-! ### Reading what was written, and writing what was read -/

theorem decode_eq_some_iff {block : Bytes} {p : ProbeBlock} :
    decode block = some p ↔ minLength ≤ block.length ∧ ofBytes block = p := by
  unfold decode
  split
  · next hshort => exact ⟨nofun, fun h => absurd h.1 (Nat.not_le.mpr hshort)⟩
  · next hlong => simp [Nat.not_lt.mp hlong]

theorem isSome_decode {block : Bytes} : (decode block).isSome = true ↔ minLength ≤ block.length := by
  simp only [Option.isSome_iff_exists, decode_eq_some_iff, exists_and_left, exists_eq', and_true]

theorem length_encode (p : ProbeBlock) (n : Nat) : (p.encode n).length = min n fullLength := by
  rw [encode, List.length_take, length_bytes]

theorem decode_encode_of_lt {p : ProbeBlock} {n : Nat} (h : n < minLength) :
    decode (p.encode n) = none := by
  have hshort : (p.encode n).length < minLength := by
    rw [length_encode]
    omega
  rw [decode, if_pos hshort]

theorem decode_encode {p : ProbeBlock} {n : Nat} (h : minLength ≤ n) :
    decode (p.encode n) = some (p.clearFrom n) := by
  have hlong : minLength ≤ (p.encode n).length := by
    rw [length_encode]
    exact Nat.le_min.mpr ⟨h, by decide⟩
  exact decode_eq_some_iff.mpr ⟨hlong, ofBytes_take h⟩

/-- Where nothing is cut off, everything is kept. -/
theorem clearFrom_of_le {p : ProbeBlock} {n : Nat} (h : fullLength ≤ n) : p.clearFrom n = p := by
  have hshort : minLength ≤ n := Nat.le_trans (by decide) h
  rw [← ofBytes_take hshort, List.take_of_length_le (by rwa [length_bytes]), ofBytes_bytes]

/-- On the wire, what is cleared is zero and the rest is as it was. -/
theorem bytes_clearFrom {p : ProbeBlock} {n : Nat} (h : minLength ≤ n) :
    (p.clearFrom n).bytes = (p.bytes.take n).takeD fullLength 0 := by
  rw [← ofBytes_take h, bytes_ofBytes]

theorem encode_of_decode {block : Bytes} {p : ProbeBlock} (h : decode block = some p) (n : Nat) :
    p.encode n = (block.takeD fullLength 0).take n := by
  obtain ⟨-, rfl⟩ := decode_eq_some_iff.mp h
  rw [encode, bytes_ofBytes]

/-- A block of at most 48 bytes is written again as it was, if it is cut to its own length. -/
theorem encode_length_of_decode {block : Bytes} {p : ProbeBlock} (h : decode block = some p)
    (hshort : block.length ≤ fullLength) : p.encode block.length = block := by
  rw [encode_of_decode h, Bytes.takeD_eq_append hshort, List.take_left]

theorem decode_take (block : Bytes) : decode (block.take fullLength) = decode block := by
  rcases Nat.le_total block.length fullLength with hshort | hlong
  · rw [List.take_of_length_le hshort]
  · have hmin : minLength ≤ block.length := Nat.le_trans (by decide) hlong
    rw [decode_eq_some_iff.mpr ⟨hmin, rfl⟩, decode_eq_some_iff, List.length_take,
      ← ofBytes_takeD block, List.takeD_eq_take 0 hlong]
    exact ⟨Nat.le_min.mpr ⟨by decide, hmin⟩, rfl⟩

/-- **Blocks survive the wire up to where they are cut.** What is read of a block that was written is the
block, without the bits in the bytes that were cut off, and there is nothing to read in fewer than 26
bytes. What is written of a block that was read is what was read, with zeros for what was missing of 48
bytes. -/
theorem decode_inverts_encode (p : ProbeBlock) (block : Bytes) (n : Nat) :
    (n < minLength → decode (p.encode n) = none) ∧
    (fullLength ≤ n → decode (p.encode n) = some p) ∧
    (minLength ≤ n → n < fullLength → decode (p.encode n) = some (p.clearFrom n) ∧
      (p.clearFrom n).bytes = (p.bytes.take n).takeD fullLength 0) ∧
    ((decode block).isSome = true ↔ minLength ≤ block.length) ∧
    (∀ q, decode block = some q → q.encode n = (block.takeD fullLength 0).take n ∧
      (block.length ≤ fullLength → q.encode block.length = block)) ∧
    decode (block.take fullLength) = decode block := by
  refine ⟨decode_encode_of_lt, fun hfull => ?_, fun hmin _ => ?_, isSome_decode, fun q hq => ?_,
    decode_take block⟩
  · have hmin : minLength ≤ n := Nat.le_trans (by decide) hfull
    rw [decode_encode hmin, clearFrom_of_le hfull]
  · exact ⟨decode_encode hmin, bytes_clearFrom hmin⟩
  · exact ⟨encode_of_decode hq n, encode_length_of_decode hq⟩

/-- Cuts in the middle of a field, and an answer that ends in one. -/
theorem decode_inverts_encode_midway :
    let p : ProbeBlock :=
      { request 2 3 333333 with
        clockFrequency := 0x04030201, minVersion := 7, layoutPerStream := 0x8877665544332211 }
    decode (p.encode 25) = none ∧ decode (p.encode 48) = some p ∧
    decode (p.encode 28) =
      some { p with clockFrequency := 0x0201, minVersion := 0, layoutPerStream := 0 } ∧
    decode (p.encode 43) = some { p with layoutPerStream := 0x332211 } ∧
    ∃ q, decode (List.replicate 29 0xFF) = some q ∧ q.clockFrequency = 0x00FFFFFF ∧
      q.encode 34 = List.replicate 29 0xFF ++ List.replicate 5 0 := by
  intro p
  let answer : Bytes := List.replicate 29 0xFF
  have hcut (n : Nat) := decode_inverts_encode p answer n
  have hclock : some (p.clearFrom 28) =
      some { p with clockFrequency := 0x0201, minVersion := 0, layoutPerStream := 0 } := by decide
  have hlayout : some (p.clearFrom 43) = some { p with layoutPerStream := 0x332211 } := by decide
  refine ⟨(hcut 25).1 (by decide), (hcut 48).2.1 (by decide),
    ((hcut 28).2.2.1 (by decide) (by decide)).1.trans hclock,
    ((hcut 43).2.2.1 (by decide) (by decide)).1.trans hlayout, ?_⟩
  obtain ⟨q, hq⟩ := Option.isSome_iff_exists.mp ((hcut 34).2.2.2.1.mpr (by decide))
  refine ⟨q, hq, ?_, ((hcut 34).2.2.2.2.1 q hq).1⟩
  rw [← (decode_eq_some_iff.mp hq).2]
  rfl

/-- A block may be cut where it has nothing but zeros. -/
theorem decode_encode_of_zeros {p : ProbeBlock} {n k : Nat} (hn : minLength ≤ n)
    (hzeros : p.bytes.drop n = List.replicate k 0) : decode (p.encode n) = some p := by
  rw [decode_encode hn, ← ofBytes_take hn, ← ofBytes_append_zeros _ k, ← hzeros,
    List.take_append_drop, ofBytes_bytes]

/-! ### Blocks that fit into the shortest form -/

/-- No field behind the first 26 bytes is set. -/
def Short (p : ProbeBlock) : Prop := p.bytes.drop minLength = List.replicate 22 0

/-- A block with no field set that came with a later version. -/
theorem short_of_early (hint : UInt16) (formatIndex frameIndex : UInt8) (frameInterval : UInt32)
    (keyFrameRate pFrameRate compQuality compWindowSize delay : UInt16)
    (maxVideoFrameSize maxPayloadTransferSize : UInt32) :
    Short
      { hint, formatIndex, frameIndex, frameInterval, keyFrameRate, pFrameRate, compQuality
        compWindowSize, delay, maxVideoFrameSize, maxPayloadTransferSize : ProbeBlock } := by
  simp [Short, minLength, bytes, Bytes.word16, Bytes.word32, Bytes.word64, Bytes.littleEndian]

/-- A short block is read back whatever the version it was written for. -/
theorem Short.decode_encode {p : ProbeBlock} (h : p.Short) {n : Nat} (hn : minLength ≤ n) :
    decode (p.encode n) = some p := by
  obtain ⟨more, rfl⟩ := Nat.exists_eq_add_of_le hn
  apply decode_encode_of_zeros hn
  rw [← List.drop_drop, h, List.drop_replicate]

theorem minLength_le_lengthFor (uvcVersion : UInt16) : minLength ≤ lengthFor uvcVersion := by
  unfold lengthFor
  split
  · decide
  split
  · decide
  · exact Nat.le_refl _

theorem lengthFor_le_fullLength (uvcVersion : UInt16) : lengthFor uvcVersion ≤ fullLength := by
  unfold lengthFor
  split
  · exact Nat.le_refl _
  split
  · decide
  · decide

end ProbeBlock

end UsbVideo
