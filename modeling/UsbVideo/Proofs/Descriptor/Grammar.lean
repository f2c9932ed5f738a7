import UsbVideo.Proofs.Descriptor.Tiling

/-!
# The grammar of configuration blocks

What a configuration block must look like, said of its entries and without reading them into a
catalog. An entry is judged by the entries before it, the latest first:

    entries before  ──contextBehind──▶  what a class-specific entry means here
                    ──declared──▶       formats and frames of an interface so far

`Obeys` are the rules for one entry, `Complete` those for the end of the block. A block is
`Grammatical` if it consists of entries that obey and is complete at its end. If it is not, `Breaks`
says where the first entry stands that breaks a rule.
-/

namespace UsbVideo

namespace Entry

/-- The byte at `i` as a number; 0 behind the end. -/
def count (e : Entry) (i : Nat) : Nat := (e.bytes[i]?.getD 0).toNat

/-- The context that an interface entry sets. -/
def opens (e : Entry) : DescriptorContext :=
  if e.count 5 = VideoClass.code.toNat ∧ e.count 6 = VideoClass.control.toNat then .control
  else if e.count 5 = VideoClass.code.toNat ∧ e.count 6 = VideoClass.streaming.toNat then
    .streaming (e.bytes[2]?.getD 0)
  else .other

/-- An interface entry that sets this context. -/
def Opens (e : Entry) (context : DescriptorContext) : Prop :=
  e.kind = DescriptorType.interface ∧ e.opens = context

/-- The subtype of the frames that belong to a format entry, if it is one. -/
def frameSubtype? (e : Entry) : Option UInt8 :=
  if e.subtype? = some StreamingSubtype.uncompressedFormat then
    some StreamingSubtype.uncompressedFrame
  else if e.subtype? = some StreamingSubtype.mjpegFormat then some StreamingSubtype.mjpegFrame
  else if e.subtype? = some StreamingSubtype.frameBasedFormat then
    some StreamingSubtype.frameBasedFrame
  else none

/-- An entry of a streaming interface that declares a format. -/
def IsFormat (e : Entry) : Prop := e.frameSubtype?.isSome

/-- An entry of a streaming interface that declares a frame. -/
def IsFrame (e : Entry) : Prop :=
  e.subtype? = some StreamingSubtype.uncompressedFrame ∨
    e.subtype? = some StreamingSubtype.mjpegFrame ∨
      e.subtype? = some StreamingSubtype.frameBasedFrame

instance (e : Entry) : Decidable e.IsFormat := inferInstanceAs (Decidable (_ = true))

instance (e : Entry) : Decidable e.IsFrame := inferInstanceAs (Decidable (_ ∨ _))

/-! ### Lengths -/

/-- The bytes a class-specific entry of a control interface needs: the fixed layout of its subtype and
the control bytes or source pins that it counts itself. A camera terminal has control bytes, other
input terminals have none. -/
def controlLength (e : Entry) : Nat :=
  if e.subtype? = some ControlSubtype.header then 12
  else if e.subtype? = some ControlSubtype.inputTerminal then
    if e.count 4 + 256 * e.count 5 = cameraTerminalType.toNat then 15 + e.count 14 else 8
  else if e.subtype? = some ControlSubtype.outputTerminal then 9
  else if e.subtype? = some ControlSubtype.selectorUnit then 5 + e.count 4
  else if e.subtype? = some ControlSubtype.processingUnit then 8 + e.count 7
  else if e.subtype? = some ControlSubtype.extensionUnit then
    23 + e.count 21 + e.count (22 + e.count 21)
  else 3

/-- The bytes of a list of `count` intervals, or of a range if there is none. -/
def intervalsLength (count : Nat) : Nat := if count = 0 then 12 else 4 * count

/-- The bytes a class-specific entry of a streaming interface needs: the fixed layout of its subtype
and the intervals that it counts itself. -/
def streamingLength (e : Entry) : Nat :=
  if e.subtype? = some StreamingSubtype.inputHeader then 13
  else if e.subtype? = some StreamingSubtype.uncompressedFormat then 27
  else if e.subtype? = some StreamingSubtype.frameBasedFormat then 28
  else if e.subtype? = some StreamingSubtype.mjpegFormat then 11
  else if e.subtype? = some StreamingSubtype.frameBasedFrame then 26 + intervalsLength (e.count 21)
  else if e.IsFrame then 26 + intervalsLength (e.count 25)
  else 3

/-- The bytes an entry needs in a context. -/
def required (context : DescriptorContext) (e : Entry) : Nat :=
  if e.kind = DescriptorType.configuration then 9
  else if e.kind = DescriptorType.interface then 9
  else if e.kind = DescriptorType.endpoint then 7
  else if e.kind = DescriptorType.classInterface then
    match context with
    | .control => e.controlLength
    | .streaming _ => e.streamingLength
    | _ => 2
  else 2

end Entry

/-! ### What the entries before say

Entries that were read are listed with the latest first. -/

/-- The context set by the latest interface entry. -/
def contextBehind : List Entry → DescriptorContext
  | [] => .unset
  | e :: before => if e.kind = DescriptorType.interface then e.opens else contextBehind before

/-- Whether an entry behind these is one of the streaming interface `n`. -/
def BelongsTo (n : UInt8) (before : List Entry) (e : Entry) : Prop :=
  e.kind = DescriptorType.classInterface ∧ contextBehind before = .streaming n

instance (n : UInt8) (before : List Entry) (e : Entry) : Decidable (BelongsTo n before e) :=
  inferInstanceAs (Decidable (_ ∧ _))

/-- The entries that declare formats and frames of the streaming interface `n`. -/
def declared (n : UInt8) : List Entry → List Entry
  | [] => []
  | e :: before =>
    if BelongsTo n before e ∧ (e.IsFormat ∨ e.IsFrame) then e :: declared n before
    else declared n before

/-- The format declared last. -/
def latestFormat? (declared : List Entry) : Option Entry := declared.find? (·.IsFormat)

/-- The format declared last has no frame. -/
def LeftEmpty (declared : List Entry) : Prop := ∃ e ∈ declared.head?, e.IsFormat

/-! ### Rules -/

/-- The rules for an entry of a streaming interface that has declared these formats and frames. -/
structure Suits (declared : List Entry) (e : Entry) : Prop where
  /-- A frame belongs to the format declared last. -/
  frame : e.IsFrame →
    ∃ format, latestFormat? declared = some format ∧ e.subtype? = format.frameSubtype?
  /-- A format may follow another that has a frame. -/
  format : e.IsFormat → ¬ LeftEmpty declared

/-- The rules for an entry behind these. -/
structure Obeys (before : List Entry) (e : Entry) : Prop where
  /-- The first entry is the configuration itself. -/
  first : before = [] → e.kind = DescriptorType.configuration
  long : e.required (contextBehind before) ≤ e.size
  suits : ∀ n, BelongsTo n before e → Suits (declared n before) e

/-- Every entry obeys the rules behind those before it. -/
def Lawful : List Entry → Prop
  | [] => True
  | e :: before => Obeys before e ∧ Lawful before

/-- What must be there at the end of a block. -/
structure Complete (entries : List Entry) : Prop where
  control : ∃ e ∈ entries, e.Opens .control
  streaming : ∃ n, ∃ e ∈ entries, e.Opens (.streaming n)
  full : ∀ n, ¬ LeftEmpty (declared n entries)

/-- A configuration block as it should be. -/
def Grammatical (block : Bytes) : Prop :=
  ∃ entries, Tiles 0 block entries ∧ Lawful entries.reverse ∧ Complete entries.reverse

/-- Up to `offset` the block consists of entries that obey. What is there is the start of no entry, or
of one that breaks a rule. -/
def Breaks (block : Bytes) (offset : Nat) : Prop :=
  ∃ front rest entries, block = front ++ rest ∧ offset = front.length ∧ rest ≠ [] ∧
    Tiles 0 front entries ∧ Lawful entries.reverse ∧
      ∀ bytes more, rest = bytes ++ more → ∀ h : Measured bytes,
        ¬ Obeys entries.reverse ⟨offset, bytes, h.two_le⟩

/-- The block consists of entries that obey, but something is missing at its end. -/
def Incomplete (block : Bytes) : Prop :=
  ∃ entries, Tiles 0 block entries ∧ Lawful entries.reverse ∧ ¬ Complete entries.reverse

end UsbVideo
