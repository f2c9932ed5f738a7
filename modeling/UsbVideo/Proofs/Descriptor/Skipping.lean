import UsbVideo.Proofs.Descriptor.Bounds

/-!
# Entries that are passed over

An entry may mean nothing where it stands (`Entry.Skippable`). A block is then read as if it was not
there:

    front ++ inserted ++ rest ──▶ outcome
    front       ++       rest ──▶ outcome, its errors at the insertion or behind moved

Two things come together. Reading what is passed over leaves the survey as it is
(`Survey.Behind.read_skippable`), and reading the rest further on in the block has the same outcome but
for the place of an error, for which every reader is gone through once (`Moved`).
-/

namespace UsbVideo

/-! ### Further on in a block -/

/-- The error, `n` bytes further on. -/
def DescriptorError.moved (n : Nat) (e : DescriptorError) : DescriptorError :=
  { e with offset := e.offset + n }

/-- The error in a block into which `n` bytes were inserted at `start`. -/
def DescriptorError.movedFrom (start n : Nat) (e : DescriptorError) : DescriptorError :=
  if start ≤ e.offset then e.moved n else e

/-- The entry, `n` bytes further on. -/
def Entry.moved (n : Nat) (e : Entry) : Entry := { e with offset := e.offset + n }

/-- The second outcome is the first, with an error `n` bytes further on. -/
def Moved {α : Type} (n : Nat) (x y : Except DescriptorError α) : Prop :=
  y = x.mapError (·.moved n)

namespace Moved

variable {α β : Type} {n : Nat} {x y x' y' : Except DescriptorError α} {e : Entry}

protected theorem ok (a : α) : Moved n (.ok a : Except DescriptorError α) (.ok a) := rfl

protected theorem error (e : DescriptorError) :
    Moved n (.error e : Except DescriptorError α) (.error (e.moved n)) := rfl

theorem refuse (e : Entry) (flaw : DescriptorFlaw) :
    Moved n (e.refuse flaw : Except DescriptorError α) ((e.moved n).refuse flaw) := rfl

theorem ite {p : Prop} [Decidable p] (h : p → Moved n x y) (h' : ¬ p → Moved n x' y') :
    Moved n (if p then x else x') (if p then y else y') := by
  split
  · next hp => exact h hp
  · next hp => exact h' hp

theorem needs {needed : Nat} {part : DescriptorPart} {go : needed ≤ e.size → Except DescriptorError α}
    {go' : needed ≤ (e.moved n).size → Except DescriptorError α}
    (h : ∀ hlong, Moved n (go hlong) (go' hlong)) :
    Moved n (e.needs needed part go) ((e.moved n).needs needed part go') := by
  by_cases hlong : needed ≤ e.size
  · have hlong' : needed ≤ (e.moved n).size := hlong
    rw [Entry.needs, Entry.needs, dif_pos hlong, dif_pos hlong']
    exact h hlong
  · have hshort' : ¬ needed ≤ (e.moved n).size := hlong
    rw [Entry.needs, Entry.needs, dif_neg hlong, dif_neg hshort']
    exact .refuse e _

theorem bind {f f' : α → Except DescriptorError β} (h : Moved n x y)
    (hf : ∀ a, Moved n (f a) (f' a)) : Moved n (x >>= f) (y >>= f') := by
  rw [Moved] at h
  subst h
  cases x with
  | error e => exact .error e
  | ok a => exact hf a

/-- A result made from an outcome. -/
theorem map (h : Moved n x y) (f : α → β) :
    Moved n (x >>= fun a => pure (f a)) (y >>= fun a => pure (f a)) :=
  h.bind fun a => .ok (f a)

end Moved

section Readers

variable (n : Nat) (e : Entry)

theorem moved_inputTerminal (c : ControlInterface) :
    Moved n (c.readInputTerminal e) (c.readInputTerminal (e.moved n)) := by
  refine .needs fun _ => .ite (fun _ => ?_) fun _ => .ok _
  exact .needs fun _ => .needs fun _ => .ok _

theorem moved_outputTerminal (c : ControlInterface) :
    Moved n (c.readOutputTerminal e) (c.readOutputTerminal (e.moved n)) :=
  .needs fun _ => .ok _

theorem moved_selectorUnit (c : ControlInterface) :
    Moved n (c.readSelectorUnit e) (c.readSelectorUnit (e.moved n)) :=
  .needs fun _ => .needs fun _ => .ok _

theorem moved_processingUnit (c : ControlInterface) :
    Moved n (c.readProcessingUnit e) (c.readProcessingUnit (e.moved n)) :=
  .needs fun _ => .needs fun _ => .ok _

theorem moved_extensionUnit (c : ControlInterface) :
    Moved n (c.readExtensionUnit e) (c.readExtensionUnit (e.moved n)) :=
  .needs fun _ => .needs fun _ => .needs fun _ => .ok _

theorem moved_controlEntry (version : UInt16) (c : ControlInterface) :
    Moved n (readControlEntry version c e) (readControlEntry version c (e.moved n)) := by
  have hsubtype : (e.moved n).subtype? = e.subtype? := rfl
  rw [readControlEntry, readControlEntry, hsubtype]
  cases e.subtype? with
  | none => exact .refuse e _
  | some subtype =>
    refine .ite (fun _ => .needs fun _ => .ok _) fun _ => ?_
    refine .ite (fun _ => (moved_inputTerminal n e c).map _) fun _ => ?_
    refine .ite (fun _ => (moved_outputTerminal n e c).map _) fun _ => ?_
    refine .ite (fun _ => (moved_selectorUnit n e c).map _) fun _ => ?_
    refine .ite (fun _ => (moved_processingUnit n e c).map _) fun _ => ?_
    exact .ite (fun _ => (moved_extensionUnit n e c).map _) fun _ => .ok _

theorem moved_intervals (count : Nat) :
    Moved n (readIntervals e count) (readIntervals (e.moved n) count) :=
  .ite (fun _ => .needs fun _ => .ok _) fun _ => .needs fun _ => .ok _

theorem moved_frame (frameBased : Bool) :
    Moved n (readFrame e frameBased) (readFrame (e.moved n) frameBased) :=
  .needs fun _ => (moved_intervals n e _).map _

theorem moved_addFormat (s : StreamingInterface) (format : FormatDescriptor) :
    Moved n (s.addFormat e format) (s.addFormat (e.moved n) format) := by
  rw [StreamingInterface.addFormat, StreamingInterface.addFormat]
  cases s.formats.getLast? with
  | none => exact .ok _
  | some previous => exact .ite (fun _ => .refuse e _) fun _ => .ok _

theorem moved_frameEntry (s : StreamingInterface) (subtype : UInt8) :
    Moved n (s.readFrameEntry e subtype) (s.readFrameEntry (e.moved n) subtype) := by
  rw [StreamingInterface.readFrameEntry, StreamingInterface.readFrameEntry]
  cases s.formats.getLast? with
  | none => exact .refuse e _
  | some format => exact .ite (fun _ => (moved_frame n e _).map _) fun _ => .refuse e _

theorem moved_streamingEntry (s : StreamingInterface) :
    Moved n (readStreamingEntry s e) (readStreamingEntry s (e.moved n)) := by
  have hsubtype : (e.moved n).subtype? = e.subtype? := rfl
  rw [readStreamingEntry, readStreamingEntry, hsubtype]
  cases e.subtype? with
  | none => exact .refuse e _
  | some subtype =>
    refine .ite (fun _ => .needs fun _ => .ok _) fun _ => ?_
    refine .ite (fun _ => .needs fun _ => moved_addFormat n e s _) fun _ => ?_
    refine .ite (fun _ => .needs fun _ => moved_addFormat n e s _) fun _ => ?_
    refine .ite (fun _ => .needs fun _ => moved_addFormat n e s _) fun _ => ?_
    exact .ite (fun _ => moved_frameEntry n e s subtype) fun _ => .ok _

theorem moved_interface (v : Survey) :
    Moved n (v.readInterface e) (v.readInterface (e.moved n)) :=
  .needs fun _ => .ite (fun _ => .ok _) fun _ => .ite (fun _ => .ok _) fun _ => .ok _

theorem moved_endpoint (v : Survey) :
    Moved n (v.readEndpoint e) (v.readEndpoint (e.moved n)) := by
  refine .needs fun _ => ?_
  cases v.context <;> exact .ok _

theorem moved_classEntry (v : Survey) :
    Moved n (v.readClassEntry e) (v.readClassEntry (e.moved n)) := by
  rw [Survey.readClassEntry, Survey.readClassEntry]
  cases v.context with
  | unset => exact .ok v
  | other => exact .ok v
  | control => exact (moved_controlEntry n e _ _).map _
  | streaming number =>
    dsimp only
    cases v.interface? number with
    | none => exact .ok v
    | some s => exact (moved_streamingEntry n e s).map _

/-- An entry further on is read as it was. -/
theorem moved_read (v : Survey) : Moved n (v.read e) (v.read (e.moved n)) := by
  have hkind : (e.moved n).kind = e.kind := rfl
  rw [Survey.read, Survey.read, hkind]
  refine .ite (fun _ => .needs fun _ => .ok v) fun _ => ?_
  refine .ite (fun _ => moved_interface n e v) fun _ => ?_
  refine .ite (fun _ => moved_endpoint n e v) fun _ => ?_
  exact .ite (fun _ => moved_classEntry n e v) fun _ => .ok v

end Readers

theorem moved_conclude (n : Nat) (v : Survey) (total : Nat) :
    Moved n (v.conclude total) (v.conclude (total + n)) := by
  rw [Survey.conclude, Survey.conclude]
  cases v.control with
  | none => exact .error _
  | some control =>
    refine .ite (fun _ => .error _) fun _ => ?_
    cases v.emptyFormat? with
    | none => exact .ok _
    | some found => exact .error _

/-- A block further on consists of the same entries, further on. -/
theorem tile_moved (n offset : Nat) (block : Bytes) :
    tile (offset + n) block =
      ((tile offset block).1.map (·.moved n), (tile offset block).2.map (·.moved n)) := by
  induction hlength : block.length using Nat.strongRecOn generalizing offset block with
  | _ size ih =>
  match block with
  | [] =>
    rw [tile, tile]
    rfl
  | [_] =>
    rw [tile, tile]
    rfl
  | length :: kind :: rest =>
    rw [tile, tile]
    by_cases hshort : length.toNat < 2
    · rw [dif_pos hshort, dif_pos hshort]
      rfl
    rw [dif_neg hshort, dif_neg hshort]
    dsimp only
    split
    · rfl
    · have hsmaller : ((length :: kind :: rest).drop length.toNat).length < size := by
        rw [← hlength, List.length_drop, List.length_cons]
        omega
      rw [Nat.add_right_comm, ih _ hsmaller (offset + length.toNat) _ rfl]
      rfl

/-- The rest of a block is read further on as it was. -/
theorem moved_finish (n : Nat) (v : Survey) (total offset : Nat) (block : Bytes) :
    Moved n (v.finish total (tile offset block))
      (v.finish (total + n) (tile (offset + n) block)) := by
  rw [tile_moved]
  obtain ⟨entries, flaw⟩ := tile offset block
  induction entries generalizing v with
  | nil =>
    cases flaw with
    | none => exact moved_conclude n v total
    | some e => exact .error e
  | cons e entries ih =>
    rw [List.map_cons, Survey.finish_cons, Survey.finish_cons]
    exact (moved_read n e v).bind ih

/-! ### Entries in front -/

/-- What is known after the entries `before` were read. -/
structure Survey.Behind (before : List Entry) (v : Survey) : Prop where
  surveyed : Surveyed before v
  located : ∃ place, Indexed.Located place v

theorem Indexed.Located.read {place : Indexed.Place} {v v' : Survey} {e : Entry}
    (h : Indexed.Located place v) (hread : v.read e = .ok v') :
    ∃ place, Indexed.Located place v' := by
  have htracks := Indexed.read_tracks h (e := e)
  rw [hread] at htracks
  generalize (Indexed.draft place v).read (Indexed.extent e) = read at htracks
  cases htracks with
  | ok h' => exact ⟨_, h'⟩

/-- The entries in front of a block are all read, or one of them is refused. What comes behind them
makes no difference. -/
theorem Survey.Behind.front {before entries : List Entry} {v : Survey} {offset : Nat} {front : Bytes}
    (h : v.Behind before) (htiles : Tiles offset front entries)
    (hfirst : before = [] → ∀ e ∈ entries.head?, e.kind = DescriptorType.configuration) :
    (∃ v' : Survey, v'.Behind (entries.reverse ++ before) ∧ ∀ rest total,
      v.finish total (tile offset (front ++ rest)) =
        v'.finish total (tile (offset + front.length) rest)) ∨
    (∃ e : DescriptorError, e.offset < offset + front.length ∧ ∀ rest total,
      v.finish total (tile offset (front ++ rest)) = .error e) := by
  induction htiles generalizing before v with
  | nil offset => exact .inl ⟨v, h, fun _ _ => rfl⟩
  | @cons offset bytes front entries hbytes _ ih =>
    have hlength : offset + (bytes ++ front).length = offset + bytes.length + front.length := by
      rw [List.length_append, Nat.add_assoc]
    have hsplit (rest : Bytes) (total : Nat) := by
      simpa only [← List.append_assoc, Survey.finish_cons] using
        congrArg (v.finish total) (tile_append hbytes offset (front ++ rest))
    rw [List.reverse_cons, List.append_assoc, List.singleton_append, hlength]
    obtain ⟨-, next, hread, hnext⟩ | ⟨-, flaw, hread⟩ :=
      settles_read h.surveyed fun hnil => hfirst hnil _ rfl
    · have hbehind : next.Behind (⟨offset, bytes, hbytes.two_le⟩ :: before) :=
        ⟨hnext, h.located.elim fun place hplace => hplace.read hread⟩
      rcases ih hbehind (by simp) with ⟨v', hv', hrest⟩ | ⟨e, hlt, hrest⟩
      · refine .inl ⟨v', hv', fun rest total => ?_⟩
        rw [hsplit, hread]
        exact hrest rest total
      · refine .inr ⟨e, hlt, fun rest total => ?_⟩
        rw [hsplit, hread]
        exact hrest rest total
    · have := hbytes.two_le
      refine .inr ⟨⟨offset, flaw⟩, by dsimp only; omega, fun rest total => ?_⟩
      rw [hsplit, hread]
      rfl

/-! ### Passed over -/

/-- The subtypes of class-specific entries that mean something in a context. -/
def DescriptorContext.subtypes : DescriptorContext → List UInt8
  | .control =>
    [ControlSubtype.header, ControlSubtype.inputTerminal, ControlSubtype.outputTerminal,
      ControlSubtype.selectorUnit, ControlSubtype.processingUnit, ControlSubtype.extensionUnit]
  | .streaming _ =>
    [StreamingSubtype.inputHeader, StreamingSubtype.uncompressedFormat,
      StreamingSubtype.frameBasedFormat, StreamingSubtype.mjpegFormat,
      StreamingSubtype.uncompressedFrame, StreamingSubtype.mjpegFrame,
      StreamingSubtype.frameBasedFrame]
  | .unset | .other => []

/-- The interface is one of the video class. -/
def DescriptorContext.IsVideo : DescriptorContext → Prop
  | .control | .streaming _ => True
  | .unset | .other => False

/-- The entry means nothing in this context. -/
inductive Entry.Skippable (context : DescriptorContext) (e : Entry) : Prop where
  /-- Entries of this type are not read. -/
  | type (hkind : e.kind ∉ [DescriptorType.configuration, DescriptorType.interface,
      DescriptorType.endpoint, DescriptorType.classInterface])
  /-- The class is another one. -/
  | foreign (hkind : e.kind = DescriptorType.classInterface) (hcontext : ¬ context.IsVideo)
  | unknown {subtype : UInt8} (hkind : e.kind = DescriptorType.classInterface)
      (hsubtype : e.subtype? = some subtype) (hunknown : subtype ∉ context.subtypes)

section Skipping

variable {before : List Entry} {v : Survey} {e : Entry}

theorem readControlEntry_of_unknown {subtype : UInt8} (version : UInt16) (c : ControlInterface)
    (hsubtype : e.subtype? = some subtype) (h : subtype ∉ DescriptorContext.control.subtypes) :
    readControlEntry version c e = .ok (version, c) := by
  simp only [DescriptorContext.subtypes, List.mem_cons, List.not_mem_nil, or_false, not_or] at h
  simp only [readControlEntry, hsubtype, h, if_false]
  rfl

theorem readStreamingEntry_of_unknown {subtype number : UInt8} (s : StreamingInterface)
    (hsubtype : e.subtype? = some subtype)
    (h : subtype ∉ (DescriptorContext.streaming number).subtypes) :
    readStreamingEntry s e = .ok s := by
  simp only [DescriptorContext.subtypes, List.mem_cons, List.not_mem_nil, or_false, not_or] at h
  simp only [readStreamingEntry, hsubtype, h, if_false, or_self]

theorem Survey.read_classEntry (hkind : e.kind = DescriptorType.classInterface) :
    v.read e = v.readClassEntry e := by
  rw [Survey.read, hkind]
  rfl

/-- To change an interface into itself is to change nothing. -/
theorem Indexed.Located.modifyInterface_self {place : Indexed.Place} (h : Indexed.Located place v)
    {number : UInt8} {s : StreamingInterface} (hfound : v.interface? number = some s) :
    v.modifyInterface number (fun _ => s) = v := by
  obtain ⟨hs, rfl⟩ := Survey.mem_of_interface? hfound
  obtain ⟨i, hi, hget⟩ := List.mem_iff_getElem.mp hs
  have hplace : v.streaming[i]? = some s := by rw [List.getElem?_eq_getElem hi, hget]
  have hstreaming := Indexed.streaming_modifyInterface h.distinct hplace fun _ => s
  have hset : v.streaming.set i s = v.streaming := by rw [← hget, List.set_getElem_self]
  rw [hset] at hstreaming
  exact congrArg (fun streaming => { v with streaming }) hstreaming

/-- What is passed over leaves everything as it is. -/
theorem Survey.Behind.read_skippable (h : v.Behind before)
    (hskip : e.Skippable (contextBehind before)) : v.read e = .ok v := by
  rw [← h.surveyed.context] at hskip
  cases hskip with
  | type hkind =>
    simp only [List.mem_cons, List.not_mem_nil, or_false, not_or] at hkind
    rw [Survey.read, if_neg hkind.1, if_neg hkind.2.1, if_neg hkind.2.2.1, if_neg hkind.2.2.2]
  | foreign hkind hcontext =>
    rw [Survey.read_classEntry hkind, Survey.readClassEntry]
    cases hother : v.context with
    | unset => rfl
    | other => rfl
    | control => exact absurd (hother ▸ trivial) hcontext
    | streaming number => exact absurd (hother ▸ trivial) hcontext
  | unknown hkind hsubtype hunknown =>
    rw [Survey.read_classEntry hkind, Survey.readClassEntry]
    cases hvideo : v.context with
    | unset => rfl
    | other => rfl
    | control =>
      -- The control interface that opened the context is still there.
      obtain ⟨c, hc⟩ : ∃ c, v.control = some c := by
        refine Option.isSome_iff_exists.mp (h.surveyed.control.mpr ?_)
        exact exists_opens (h.surveyed.context.symm.trans hvideo) (by simp)
      rw [hvideo] at hunknown
      dsimp only
      rw [readControlEntry_of_unknown _ _ hsubtype hunknown, hc]
      show Except.ok { v with context := .control, control := some c } = _
      rw [← hvideo, ← hc]
    | streaming number =>
      rw [hvideo] at hunknown
      dsimp only
      cases hfound : v.interface? number with
      | none => rfl
      | some s =>
        obtain ⟨place, hplace⟩ := h.located
        dsimp only
        rw [readStreamingEntry_of_unknown s hsubtype hunknown]
        exact congrArg Except.ok (hplace.modifyInterface_self hfound)

/-- What is passed over in front of a block leaves the reading of the block as it is. -/
theorem Survey.Behind.finish_skipped (h : v.Behind before) {offset : Nat} {inserted : Bytes}
    {skipped : List Entry} (htiles : Tiles offset inserted skipped)
    (hskip : ∀ e ∈ skipped, e.Skippable (contextBehind before)) (rest : Bytes) (total : Nat) :
    v.finish total (tile offset (inserted ++ rest)) =
      v.finish total (tile (offset + inserted.length) rest) := by
  induction htiles with
  | nil offset => rfl
  | @cons offset bytes inserted skipped hbytes _ ih =>
    rw [List.append_assoc, tile_append hbytes, Survey.finish_cons,
      h.read_skippable (hskip _ List.mem_cons_self), List.length_append, ← Nat.add_assoc]
    exact ih fun e he => hskip e (List.mem_cons_of_mem _ he)

end Skipping

/-! ### A whole block -/

/-- Behind `n` bytes a block is read as one of its own, with errors so much further on. -/
theorem finish_behind (v : Survey) (n : Nat) (rest : Bytes) :
    v.finish (n + rest.length) (tile n rest) =
      (v.finish rest.length (tile 0 rest)).mapError (·.moved n) := by
  have hmoved := moved_finish n v rest.length 0 rest
  rwa [Nat.zero_add, Nat.add_comm rest.length, Moved] at hmoved

theorem DescriptorError.movedFrom_moved (start n : Nat) (e : DescriptorError) :
    (e.moved start).movedFrom start n = e.moved (start + n) := by
  have hbehind : start ≤ (e.moved start).offset := Nat.le_add_left ..
  rw [movedFrom, if_pos hbehind, moved, moved, moved, Nat.add_assoc]

theorem DescriptorError.movedFrom_of_lt {start : Nat} (n : Nat) {e : DescriptorError}
    (h : e.offset < start) : e.movedFrom start n = e := by
  rw [movedFrom, if_neg (Nat.not_le.mpr h)]

/-- The first entry of a block is checked whatever comes behind. -/
theorem Tiles.checkFirst_eq {front : Bytes} {entries : List Entry} (h : Tiles 0 front entries)
    (hne : front ≠ []) (rest : Bytes) :
    UsbVideo.checkFirst (tile 0 (front ++ rest)).1 = UsbVideo.checkFirst entries := by
  cases h with
  | nil => exact absurd rfl hne
  | @cons _ bytes front entries hbytes _ =>
    rw [List.append_assoc, tile_append hbytes]
    rfl

theorem checkFirst_cases (entries : List Entry) :
    (checkFirst entries = .ok () ∧ ∀ e ∈ entries.head?, e.kind = DescriptorType.configuration) ∨
    (∃ flaw, checkFirst entries = .error ⟨0, flaw⟩) := by
  cases entries with
  | nil => exact .inl ⟨rfl, by simp⟩
  | cons e entries =>
    by_cases hkind : e.kind = DescriptorType.configuration
    · exact .inl ⟨if_pos hkind, by simpa using hkind⟩
    · exact .inr ⟨_, if_neg hkind⟩

/-- Entries that mean nothing where they stand make no difference: behind the first entry of a block they
may be inserted at every boundary between entries. What was accepted is accepted with the same catalog.
What was refused is refused for the same reason, and at the same place if that is before the insertion
and so many bytes further on if it is not. -/
theorem parseConfiguration_insert {front inserted rest : Bytes} {entries skipped : List Entry}
    (hfront : Tiles 0 front entries) (hne : front ≠ [])
    (hinserted : Tiles front.length inserted skipped)
    (hskip : ∀ e ∈ skipped, e.Skippable (contextBehind entries.reverse)) :
    parseConfiguration (front ++ inserted ++ rest) =
      (parseConfiguration (front ++ rest)).mapError
        (·.movedFrom front.length inserted.length) := by
  have hstart : 0 < front.length := List.length_pos_iff.mpr hne
  rw [parseConfiguration_eq, parseConfiguration_eq, List.append_assoc, hfront.checkFirst_eq hne,
    hfront.checkFirst_eq hne]
  rcases checkFirst_cases entries with ⟨hok, hfirst⟩ | ⟨flaw, herror⟩
  · have hnothing : ({} : Survey).Behind [] := ⟨surveyed_nil, .unset, List.nodup_nil, .unset⟩
    rw [hok]
    show Survey.finish {} _ _ = (Survey.finish {} _ _).mapError _
    rcases hnothing.front hfront fun _ => hfirst with ⟨v, hv, hrest⟩ | ⟨e, hlt, hrest⟩
    · -- Either way the survey goes on with the rest of the block.
      rw [List.append_nil] at hv
      have hwith : (front ++ (inserted ++ rest)).length =
          front.length + inserted.length + rest.length := by
        rw [List.length_append, List.length_append, Nat.add_assoc]
      rw [hrest, hrest, Nat.zero_add, hv.finish_skipped hinserted hskip, hwith, List.length_append,
        finish_behind, finish_behind]
      cases v.finish rest.length (tile 0 rest) with
      | ok catalog => rfl
      | error e => exact congrArg Except.error (e.movedFrom_moved _ _).symm
    · rw [hrest, hrest]
      rw [Nat.zero_add] at hlt
      exact congrArg Except.error (e.movedFrom_of_lt _ hlt).symm
  · rw [herror]
    exact congrArg Except.error (DescriptorError.movedFrom_of_lt _ hstart).symm

/-- Between a format and its frames there may be an entry of another type and a colour matching entry. -/
theorem parseConfiguration_insert_behindFormat :
    let front : Bytes := [9, 0x02, 0, 0, 2, 1, 0, 0x80, 50] ++ ([9, 0x04, 0, 0, 0, 0x0E, 1, 0, 0] ++
      ([9, 0x04, 1, 0, 0, 0x0E, 2, 0, 0] ++ ([11, 0x24, 0x06, 1, 1, 1, 1, 0, 0, 0, 0] ++ [])))
    let inserted : Bytes := [2, 0x41] ++ ([6, 0x24, 0x0D, 1, 1, 4] ++ [])
    let frame (subtype : UInt8) : Bytes :=
      [30, 0x24, subtype, 1, 0, 64, 0, 48, 0, 0, 0, 0, 0, 0, 0, 0, 0, 0, 1, 0, 0, 0x15, 0x16, 5, 0, 1,
        0x15, 0x16, 5, 0]
    front ≠ [] ∧
    (∃ entries skipped, Tiles 0 front entries ∧ Tiles front.length inserted skipped ∧
      ∀ e ∈ skipped, e.Skippable (contextBehind entries.reverse)) ∧
    parseConfiguration (front ++ inserted ++ frame 0x07) = .ok
      { uvcVersion := 0
        control := {}
        streaming := [{
          number := 1
          altSettings := [⟨0, none⟩]
          formats := [⟨1, .mjpeg, 0, 1, [⟨1, 64, 48, 256, 333333, .discrete [333333]⟩]⟩] }] } ∧
    parseConfiguration (front ++ frame 0x05) = .error ⟨38, .frameOfOtherFormat 0x05 .mjpeg 0x07⟩ ∧
    parseConfiguration (front ++ inserted ++ frame 0x05) =
      .error ⟨46, .frameOfOtherFormat 0x05 .mjpeg 0x07⟩ := by
  intro front inserted frame
  have hfront : Tiles 0 front _ :=
    .cons ⟨by decide, by decide⟩ <| .cons ⟨by decide, by decide⟩ <|
    .cons ⟨by decide, by decide⟩ <| .cons ⟨by decide, by decide⟩ <| .nil _
  have hinserted : Tiles front.length inserted _ :=
    .cons ⟨by decide, by decide⟩ <| .cons ⟨by decide, by decide⟩ <| .nil _
  have hskip : ∀ e ∈ [Entry.mk 38 [2, 0x41] (by decide), ⟨40, [6, 0x24, 0x0D, 1, 1, 4], by decide⟩],
      e.Skippable (.streaming 1) := by
    simp only [List.mem_cons, List.not_mem_nil, or_false, forall_eq_or_imp, forall_eq]
    exact ⟨.type (by decide), .unknown rfl rfl (by decide)⟩
  have hrefused : parseConfiguration (front ++ frame 0x05) =
      .error ⟨38, .frameOfOtherFormat 0x05 .mjpeg 0x07⟩ := by decide +kernel
  refine ⟨by decide, ⟨_, _, hfront, hinserted, hskip⟩, ?_, hrefused, ?_⟩
  · rw [parseConfiguration_insert hfront (by decide) hinserted hskip]
    decide +kernel
  · rw [parseConfiguration_insert hfront (by decide) hinserted hskip, hrefused]
    rfl

end UsbVideo
