import Mathlib.Data.List.Nodup
import Mathlib.Data.List.TakeWhile
import UsbVideo.Proofs.Descriptor.Grammar

/-!
# What a block announces

A configuration block has a chapter for each interface entry, and the entries of a streaming interface
have one for each format:

    interface │ endpoint │ … ┊ interface │ format │ frame │ frame ┊ interface │ …

`chapters` cuts a list at its openers. With it the catalog of a block is said of its entries as they
stand there, without reading them one by one: an alternate setting is a chapter with its endpoints
(`altSetting`), a format is a chapter with its frames (`formatOf`), and an interface has what all
its chapters together declare. `Announces` puts this together.
-/

namespace UsbVideo

/-! ### Chapters -/

section Chapters

variable {α β : Type}

/-- Each opener with what follows it up to the next one. What stands in front of all openers is in no
chapter. -/
def chapters (opens : α → Bool) : List α → List (α × List α)
  | [] => []
  | a :: rest =>
    if opens a then (a, rest.takeWhile (!opens ·)) :: chapters opens rest else chapters opens rest

variable {opens : α → Bool}

/-- Every opener has one chapter. -/
theorem map_fst_chapters (xs : List α) : (chapters opens xs).map (·.1) = xs.filter opens := by
  induction xs with
  | nil => rfl
  | cons a rest ih =>
    rw [chapters, List.filter_cons]
    split
    · rw [List.map_cons, ih]
    · exact ih

theorem chapters_eq_nil_iff {xs : List α} : chapters opens xs = [] ↔ ∀ a ∈ xs, opens a = false := by
  rw [← List.map_eq_nil_iff (f := Prod.fst), map_fst_chapters]
  simp [List.filter_eq_nil_iff]

/-- A chapter has one opener. -/
theorem opens_of_mem_chapters {xs : List α} {c : α × List α} (hc : c ∈ chapters opens xs) :
    opens c.1 = true ∧ ∀ a ∈ c.2, opens a = false := by
  induction xs with
  | nil => cases hc
  | cons a rest ih =>
    rw [chapters] at hc
    split at hc
    · next hopens =>
      rcases List.mem_cons.mp hc with rfl | hc
      · exact ⟨hopens, fun b hb => by simpa using List.mem_takeWhile_imp hb⟩
      · exact ih hc
    · exact ih hc

/-- Nothing behind the first opener is lost, and nothing is in two chapters. -/
theorem flatMap_chapters (xs : List α) :
    (chapters opens xs).flatMap (fun c => c.1 :: c.2) = xs.dropWhile (!opens ·) := by
  induction xs with
  | nil => rfl
  | cons a rest ih =>
    rw [chapters, List.dropWhile_cons]
    split
    · next hopens =>
      rw [List.flatMap_cons, ih, List.cons_append, List.takeWhile_append_dropWhile]
      simp [hopens]
    · next hopens => simpa [hopens] using ih

@[simp] theorem modifyLast_nil (f : α → α) : Survey.modifyLast f [] = [] := rfl

@[simp] theorem modifyLast_concat (f : α → α) (xs : List α) (a : α) :
    Survey.modifyLast f (xs ++ [a]) = xs ++ [f a] := by
  simp [Survey.modifyLast]

theorem modifyLast_cons (f : α → α) (a : α) {xs : List α} (h : xs ≠ []) :
    Survey.modifyLast f (a :: xs) = a :: Survey.modifyLast f xs := by
  obtain ⟨front, last, rfl⟩ := List.eq_nil_or_concat' xs |>.resolve_left h
  rw [← List.cons_append, modifyLast_concat, modifyLast_concat, List.cons_append]

/-- A change of the last element that shows as another one. -/
theorem map_modifyLast {f : α → α} {g : β → β} {h : α → β} (comm : ∀ a, h (f a) = g (h a))
    (xs : List α) : (Survey.modifyLast f xs).map h = Survey.modifyLast g (xs.map h) := by
  rcases List.eq_nil_or_concat' xs with rfl | ⟨front, last, rfl⟩
  · rfl
  · simp [comm]

/-- A change of the last element that does not show. -/
theorem map_modifyLast_of_same {f : α → α} {h : α → β} (same : ∀ a, h (f a) = h a) (xs : List α) :
    (Survey.modifyLast f xs).map h = xs.map h := by
  rcases List.eq_nil_or_concat' xs with rfl | ⟨front, last, rfl⟩
  · rfl
  · simp [same]

/-- One more opener. -/
theorem chapters_concat_opener {a : α} (ha : opens a = true) (xs : List α) :
    chapters opens (xs ++ [a]) = chapters opens xs ++ [(a, [])] := by
  induction xs with
  | nil => simp [chapters, ha]
  | cons x rest ih =>
    have hsame : (rest ++ [a]).takeWhile (!opens ·) = rest.takeWhile (!opens ·) := by
      rw [List.takeWhile_append]
      split
      · next hall =>
        rw [(List.takeWhile_prefix _).eq_of_length hall]
        simp [ha]
      · rfl
    rw [List.cons_append, chapters, chapters, ih, hsame]
    split <;> rfl

/-- Anything else goes into the last chapter. -/
theorem chapters_concat_other {a : α} (ha : opens a = false) (xs : List α) :
    chapters opens (xs ++ [a]) =
      Survey.modifyLast (fun c => (c.1, c.2 ++ [a])) (chapters opens xs) := by
  induction xs with
  | nil => simp [chapters, ha]
  | cons x rest ih =>
    rw [List.cons_append, chapters, chapters, ih]
    split
    · -- The chapter of `x` is the last one if no other follows it.
      by_cases hlast : chapters opens rest = []
      · have hall : rest.takeWhile (!opens ·) = rest :=
          List.takeWhile_eq_self_iff.mpr fun b hb => by
            simp [chapters_eq_nil_iff.mp hlast b hb]
        have hmore : (rest ++ [a]).takeWhile (!opens ·) = rest ++ [a] :=
          List.takeWhile_eq_self_iff.mpr fun b hb => by
            rcases List.mem_append.mp hb with hb | hb
            · simp [chapters_eq_nil_iff.mp hlast b hb]
            · simp [List.mem_singleton.mp hb, ha]
        rw [hlast, hall, hmore]
        rfl
      · have hsame : (rest ++ [a]).takeWhile (!opens ·) = rest.takeWhile (!opens ·) := by
          rw [List.takeWhile_append, if_neg]
          intro hall
          refine hlast (chapters_eq_nil_iff.mpr fun b hb => ?_)
          rw [← (List.takeWhile_prefix _).eq_of_length hall] at hb
          simpa using List.mem_takeWhile_imp hb
        rw [hsame, modifyLast_cons _ _ hlast]
    · rfl

end Chapters

/-! ### Entries by themselves

The fields of an entry, whatever its length: behind the end all bytes are 0. -/

namespace Entry

variable (e : Entry)

def byte (i : Nat) : UInt8 := e.bytes[i]?.getD 0

/-- The `n` bytes at `i`. -/
def part (i n : Nat) : Bytes := (e.bytes.drop i).take n

def word (i : Nat) : UInt16 := .ofNat (Bytes.value (e.part i 2))

def long (i : Nat) : UInt32 := .ofNat (Bytes.value (e.part i 4))

def sixteen (i : Nat) : Guid := .ofFn fun j => e.byte (i + j)

/-! What entries of a control interface declare. -/

def inputTerminal : InputTerminal where
  id := e.byte 3
  terminalType := e.word 4
  controls := if e.word 4 = cameraTerminalType then e.part 15 (e.count 14) else []

def outputTerminal : OutputTerminal := ⟨e.byte 3, e.word 4, e.byte 7⟩

def selectorUnit : SelectorUnit := ⟨e.byte 3, e.part 5 (e.count 4)⟩

def processingUnit : ProcessingUnit := ⟨e.byte 3, e.byte 4, e.part 8 (e.count 7)⟩

def extensionUnit : ExtensionUnit where
  id := e.byte 3
  guid := e.sixteen 4
  numControls := e.byte 20
  sources := e.part 22 (e.count 21)
  controls := e.part (23 + e.count 21) (e.count (22 + e.count 21))

/-! What entries of a streaming interface declare. -/

def endpoint : Endpoint := ⟨e.byte 2, .ofAttributes (e.byte 3), e.word 4, e.byte 6⟩

/-- The format of an entry and these frames. -/
def format (frames : List FrameDescriptor) : FormatDescriptor :=
  if e.subtype? = some StreamingSubtype.uncompressedFormat then
    ⟨e.byte 3, .ofGuid (e.sixteen 5), e.byte 21, e.byte 22, frames⟩
  else if e.subtype? = some StreamingSubtype.frameBasedFormat then
    ⟨e.byte 3, .frameBased (e.sixteen 5), e.byte 21, e.byte 22, frames⟩
  else ⟨e.byte 3, .mjpeg, 0, e.byte 6, frames⟩

/-- Frames of frame-based formats have no size field, and the fields behind it stand earlier. -/
def IsFrameBased : Prop := e.subtype? = some StreamingSubtype.frameBasedFrame

instance : Decidable e.IsFrameBased := inferInstanceAs (Decidable (_ = _))

/-- The number of intervals a frame entry declares. -/
def intervalCount : Nat := e.count (if e.IsFrameBased then 21 else 25)

/-- As many intervals as are declared, or a range if there are none. -/
def intervals : FrameIntervals :=
  if e.intervalCount = 0 then .continuous (e.long 26) (e.long 30) (e.long 34)
  else .discrete ((List.range e.intervalCount).map fun i => e.long (26 + i * 4))

def frame : FrameDescriptor where
  index := e.byte 3
  width := e.word 5
  height := e.word 7
  maxFrameSize := if e.IsFrameBased then 0 else e.long 17
  defaultInterval := if e.IsFrameBased then e.long 17 else e.long 21
  intervals := e.intervals

/-- The number of the streaming interface that an entry is an alternate setting of. -/
def streams? : Option UInt8 :=
  if e.kind = DescriptorType.interface then
    match e.opens with
    | .streaming n => some n
    | _ => none
  else none

end Entry

/-! ### Entries together -/

/-- The interface entries of a block, each with the entries up to the next. -/
def sections (entries : List Entry) : List (Entry × List Entry) :=
  chapters (·.kind == DescriptorType.interface) entries

/-- The sections that stand in this context. -/
def sectionsOf (context : DescriptorContext) (entries : List Entry) : List (Entry × List Entry) :=
  (sections entries).filter (·.1.opens = context)

/-- All class-specific entries that stand in this context. -/
def classEntries (context : DescriptorContext) (entries : List Entry) : List Entry :=
  (sectionsOf context entries).flatMap fun s => s.2.filter (·.kind = DescriptorType.classInterface)

/-- The entries of one subtype. -/
def ofSubtype (subtype : UInt8) (entries : List Entry) : List Entry :=
  entries.filter (·.subtype? = some subtype)

/-- Of several endpoints, the last towards the host; if none is, the first. -/
def settled (endpoints : List Endpoint) : Option Endpoint :=
  (endpoints.filter (·.isIn)).getLast?.or endpoints.head?

/-- The alternate setting of a section. -/
def altSetting (s : Entry × List Entry) : AltSetting where
  number := s.1.byte 3
  endpoint := settled ((s.2.filter (·.kind = DescriptorType.endpoint)).map Entry.endpoint)

/-- The formats of a streaming interface that declares these entries, each with what follows it up to
the next. -/
def formatChapters (declared : List Entry) : List (Entry × List Entry) :=
  chapters (·.IsFormat) declared

/-- The format of a chapter, with its frames. -/
def formatOf (c : Entry × List Entry) : FormatDescriptor :=
  c.1.format ((c.2.filter (·.IsFrame)).map Entry.frame)

/-- The numbers of streaming interfaces, one for each alternate setting. -/
def streamNumbers (entries : List Entry) : List UInt8 := entries.filterMap Entry.streams?

/-- The catalog lists what the entries of a block announce: everything once, in the order of the
block. -/
structure Announces (entries : List Entry) (catalog : Catalog) : Prop where
  /-- The streaming interfaces are in the order of their first appearance. -/
  numbers : catalog.streaming.map (·.number) = (streamNumbers entries).eraseDups
  distinct : (catalog.streaming.map (·.number)).Nodup
  /-- One alternate setting for each interface entry of this number. -/
  altSettings : ∀ s ∈ catalog.streaming,
    s.altSettings = (sectionsOf (.streaming s.number) entries).map altSetting
  /-- One format for each format entry of the interface, with the frames up to the next one. -/
  formats : ∀ s ∈ catalog.streaming,
    s.formats = (formatChapters (classEntries (.streaming s.number) entries)).map formatOf
  /-- No format and no frame of the interface is left out. -/
  whole : ∀ s ∈ catalog.streaming,
    (formatChapters (classEntries (.streaming s.number) entries)).flatMap
        (fun c => c.1 :: c.2.filter (·.IsFrame)) =
      (classEntries (.streaming s.number) entries).filter fun e => e.IsFormat ∨ e.IsFrame
  /-- Every format has a frame. -/
  full : ∀ s ∈ catalog.streaming, ∀ f ∈ s.formats, f.frames ≠ []
  /-- A list of intervals is as long as its entry declares, which is not empty. -/
  intervals : ∀ s ∈ catalog.streaming, ∀ f ∈ s.formats, ∀ frame ∈ f.frames, ∀ list,
    frame.intervals = .discrete list →
      ∃ e ∈ classEntries (.streaming s.number) entries,
        frame = e.frame ∧ list.length = e.intervalCount ∧ list ≠ []
  inputTerminals : catalog.control.inputTerminals =
    (ofSubtype ControlSubtype.inputTerminal (classEntries .control entries)).map Entry.inputTerminal
  outputTerminals : catalog.control.outputTerminals =
    (ofSubtype ControlSubtype.outputTerminal (classEntries .control entries)).map
      Entry.outputTerminal
  selectorUnits : catalog.control.selectorUnits =
    (ofSubtype ControlSubtype.selectorUnit (classEntries .control entries)).map Entry.selectorUnit
  processingUnits : catalog.control.processingUnits =
    (ofSubtype ControlSubtype.processingUnit (classEntries .control entries)).map
      Entry.processingUnit
  extensionUnits : catalog.control.extensionUnits =
    (ofSubtype ControlSubtype.extensionUnit (classEntries .control entries)).map Entry.extensionUnit

end UsbVideo
