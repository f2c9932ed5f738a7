import UsbVideo.Descriptor.Configuration

/-!
# Tilings

A block of descriptors is a row of entries, each as long as its first byte says:

    [length, kind, …] [length, kind, …] [length, kind, …]

`Tiles offset block entries` is this relation. `tile` finds the entries of a block one by one, and it
breaks off exactly where no entry begins (`tile_append`, `tile_stuck`).
-/

namespace UsbVideo

/-- The bytes are those of one entry: the first one says how many there are, and there are two at
least. -/
structure Measured (bytes : Bytes) : Prop where
  two_le : 2 ≤ bytes.length
  head : bytes.head?.map UInt8.toNat = some bytes.length

/-- A block that starts at `offset` consists of these entries. -/
inductive Tiles : Nat → Bytes → List Entry → Prop where
  | nil (offset : Nat) : Tiles offset [] []
  | cons {offset : Nat} {bytes rest : Bytes} {entries : List Entry} (h : Measured bytes)
      (later : Tiles (offset + bytes.length) rest entries) :
      Tiles offset (bytes ++ rest) (⟨offset, bytes, h.two_le⟩ :: entries)

theorem Tiles.append {offset : Nat} {block more : Bytes} {entries later : List Entry}
    (h : Tiles offset block entries) (h' : Tiles (offset + block.length) more later) :
    Tiles offset (block ++ more) (entries ++ later) := by
  induction h with
  | nil offset => exact h'
  | @cons offset bytes rest entries hbytes _ ih =>
    rw [List.append_assoc]
    refine .cons hbytes (ih ?_)
    rw [List.length_append, ← Nat.add_assoc] at h'
    exact h'

theorem Tiles.eq_nil_iff {offset : Nat} {block : Bytes} {entries : List Entry}
    (h : Tiles offset block entries) : entries = [] ↔ block = [] := by
  cases h with
  | nil => simp
  | @cons _ bytes rest entries hbytes _ =>
    have hne : bytes ≠ [] := List.ne_nil_of_length_pos (Nat.zero_lt_of_lt hbytes.two_le)
    simp [hne]

/-- At most one entry begins a block. -/
theorem Measured.unique {bytes bytes' rest rest' : Bytes} (h : Measured bytes)
    (h' : Measured bytes') (heq : bytes ++ rest = bytes' ++ rest') : bytes = bytes' ∧ rest = rest' := by
  have hhead : bytes.head? = bytes'.head? := by
    have heads := congrArg List.head? heq
    match bytes, bytes', h.two_le, h'.two_le with
    | _ :: _, _ :: _, _, _ => simpa using heads
  have hlength : bytes.length = bytes'.length := by
    have hdeclared := h.head
    rw [hhead, h'.head] at hdeclared
    exact (Option.some.inj hdeclared).symm
  exact List.append_inj heq hlength

/-- An entry in front of a block is the first one found. -/
theorem tile_append {bytes : Bytes} (h : Measured bytes) (offset : Nat) (rest : Bytes) :
    tile offset (bytes ++ rest) =
      (⟨offset, bytes, h.two_le⟩ :: (tile (offset + bytes.length) rest).1,
        (tile (offset + bytes.length) rest).2) := by
  obtain ⟨htwo, hhead⟩ := h
  match bytes, htwo, hhead with
  | length :: kind :: tail, htwo, hhead =>
    have hlength : length.toNat = (length :: kind :: tail).length := by simpa using hhead
    have htake : (length :: kind :: tail ++ rest).take length.toNat = length :: kind :: tail := by
      rw [hlength, List.take_left']
      rfl
    have hdrop : (length :: kind :: tail ++ rest).drop length.toNat = rest := by
      rw [hlength, List.drop_left']
      rfl
    rw [List.cons_append, List.cons_append] at htake hdrop ⊢
    rw [tile, dif_neg (by rw [hlength]; exact Nat.not_lt.mpr htwo)]
    dsimp only
    rw [dif_neg (by rw [htake, hlength]; exact Nat.lt_irrefl _), hdrop]
    have hnext : offset + length.toNat = offset + (length :: kind :: tail).length := by rw [hlength]
    simp only [htake, hnext]

/-- The entries that tile a block are those found. -/
theorem Tiles.tile_eq {offset : Nat} {block : Bytes} {entries : List Entry}
    (h : Tiles offset block entries) : tile offset block = (entries, none) := by
  induction h with
  | nil offset => rw [tile]
  | cons hbytes _ ih => rw [tile_append hbytes, ih]

/-- Where no entry begins there is nothing to find. -/
theorem tile_stuck {block : Bytes} (hne : block ≠ [])
    (h : ∀ bytes rest, block = bytes ++ rest → ¬ Measured bytes) (offset : Nat) :
    ∃ flaw, tile offset block = ([], some ⟨offset, flaw⟩) := by
  match block, hne with
  | [_], _ => exact ⟨_, by rw [tile]⟩
  | length :: kind :: tail, _ =>
    rw [tile]
    split
    · exact ⟨_, rfl⟩
    · next hlong =>
      dsimp only
      split
      · exact ⟨_, rfl⟩
      · next hfront =>
        -- The bytes up to the declared length would be an entry.
        refine absurd ?_ (h ((length :: kind :: tail).take length.toNat) _
          (List.take_append_drop _ _).symm)
        have hlength : ((length :: kind :: tail).take length.toNat).length = length.toNat :=
          Nat.le_antisymm (List.length_take_le _ _) (Nat.le_of_not_lt hfront)
        refine ⟨by omega, ?_⟩
        rw [hlength, List.head?_take, if_neg (by omega)]
        rfl

end UsbVideo
