import UsbVideo.Proofs.Descriptor.Readers

/-!
# Reading decides the grammar

What a survey knows of the entries behind it is that it is `Surveyed`. One entry read keeps this, so
lawful entries in a row do, and the survey concludes exactly if they are complete.

    entries before ──Surveyed──▶ survey
          │ one that obeys         │ read
          ▼                        ▼
    entries before ──Surveyed──▶ survey

A block is grammatical, or it is incomplete at its end, or it breaks a rule somewhere
(`grammatical_or`), and the parser answers accordingly.
-/

namespace UsbVideo

/-! ### Surveys -/

/-- What a survey knows of the entries behind it. -/
structure Surveyed (before : List Entry) (v : Survey) : Prop where
  context : v.context = contextBehind before
  control : v.control.isSome ↔ ∃ e ∈ before, e.Opens .control
  known : ∀ n, (∃ s ∈ v.streaming, s.number = n) ↔ ∃ e ∈ before, e.Opens (.streaming n)
  mirrors : ∀ s ∈ v.streaming, Mirrors s (declared s.number before)

theorem surveyed_nil : Surveyed [] {} where
  context := rfl
  control := by simp
  known := by simp
  mirrors := by simp

/-- The context is one that an entry before opened. -/
theorem exists_opens {before : List Entry} {context : DescriptorContext}
    (h : contextBehind before = context) (hset : context ≠ .unset) :
    ∃ e ∈ before, e.Opens context := by
  induction before with
  | nil => exact absurd h.symm hset
  | cons e before ih =>
    rw [contextBehind] at h
    split at h
    · next hkind => exact ⟨e, List.mem_cons_self, hkind, h⟩
    · obtain ⟨e', he', hopens⟩ := ih h
      exact ⟨e', List.mem_cons_of_mem e he', hopens⟩

/-- An interface that no entry opened has declared nothing. -/
theorem declared_eq_nil {before : List Entry} {n : UInt8}
    (h : ¬ ∃ e ∈ before, e.Opens (.streaming n)) : declared n before = [] := by
  induction before with
  | nil => rfl
  | cons e before ih =>
    have hbefore : ¬ ∃ e ∈ before, e.Opens (.streaming n) := fun ⟨e', he', hopens⟩ =>
      h ⟨e', List.mem_cons_of_mem e he', hopens⟩
    rw [declared, if_neg, ih hbefore]
    exact fun hdeclares => hbefore (exists_opens hdeclares.1.2 (by simp))

namespace Survey

theorem mem_modifyInterface {v : Survey} {n : UInt8}
    {f : StreamingInterface → StreamingInterface} {t : StreamingInterface} :
    t ∈ (v.modifyInterface n f).streaming ↔
      ∃ s ∈ v.streaming, (if s.number = n then f s else s) = t := by
  rw [modifyInterface, List.mem_map]

theorem mem_of_interface? {v : Survey} {n : UInt8} {s : StreamingInterface}
    (h : v.interface? n = some s) : s ∈ v.streaming ∧ s.number = n :=
  ⟨List.mem_of_find?_eq_some h, by simpa using List.find?_some h⟩

/-- Changing an interface keeps which ones there are. -/
theorem exists_number_modifyInterface {v : Survey} {n : UInt8}
    {f : StreamingInterface → StreamingInterface} (hf : ∀ s, s.number = n → (f s).number = n)
    (m : UInt8) : (∃ t ∈ (v.modifyInterface n f).streaming, t.number = m) ↔
      ∃ s ∈ v.streaming, s.number = m := by
  have hnumber (s : StreamingInterface) : (if s.number = n then f s else s).number = s.number := by
    split
    · next hs => rw [hf s hs, hs]
    · rfl
  simp only [mem_modifyInterface]
  constructor
  · rintro ⟨_, ⟨s, hs, rfl⟩, hm⟩
    exact ⟨s, hs, (hnumber s).symm.trans hm⟩
  · rintro ⟨s, hs, hm⟩
    exact ⟨_, ⟨s, hs, rfl⟩, (hnumber s).trans hm⟩

end Survey

section Step

variable {before : List Entry} {v : Survey} {e : Entry}

/-- An entry that is neither an interface nor a part of a streaming interface leaves everything as it
is. -/
theorem Surveyed.pass (h : Surveyed before v) (hkind : e.kind ≠ DescriptorType.interface)
    (hother : ∀ n, ¬ (BelongsTo n before e ∧ (e.IsFormat ∨ e.IsFrame))) :
    Surveyed (e :: before) v where
  context := by rw [contextBehind, if_neg hkind, h.context]
  control := by simp [Entry.Opens, hkind, h.control]
  known n := by simp [Entry.Opens, hkind, h.known]
  mirrors s hs := by
    rw [declared, if_neg (hother _)]
    exact h.mirrors s hs

/-- Changes of an interface that its formats do not show. -/
theorem Surveyed.modifyInterface (h : Surveyed before v) {n : UInt8}
    {f : StreamingInterface → StreamingInterface}
    (hf : ∀ s, (f s).number = s.number ∧ (f s).formats = s.formats) :
    Surveyed before (v.modifyInterface n f) where
  context := h.context
  control := h.control
  known m := by
    rw [Survey.exists_number_modifyInterface (fun s hs => (hf s).1.trans hs)]
    exact h.known m
  mirrors t ht := by
    obtain ⟨s, hs, rfl⟩ := Survey.mem_modifyInterface.mp ht
    split
    · rw [(hf s).1]
      exact (h.mirrors s hs).of_formats (hf s).2
    · exact h.mirrors s hs

/-- What an interface entry sets the context to. -/
theorem Entry.opens_eq (e : Entry) (h : 6 < e.size) :
    e.opens =
      if e.u8 5 = VideoClass.code ∧ e.u8 6 = VideoClass.control then .control
      else if e.u8 5 = VideoClass.code ∧ e.u8 6 = VideoClass.streaming then .streaming (e.u8 2)
      else .other := by
  have hnumber : e.bytes[2]?.getD 0 = e.u8 2 := by
    rw [List.getElem?_eq_getElem (by rw [size] at h; omega)]
    rfl
  simp only [opens, ← UInt8.toNat_inj, e.toNat_u8, hnumber]

/-- A survey that enters an interface. -/
theorem Surveyed.enter {v' : Survey} (h : Surveyed before v)
    (hkind : e.kind = DescriptorType.interface) (hcontext : v'.context = e.opens)
    (hcontrol : v'.control.isSome ↔ v.control.isSome ∨ e.opens = .control)
    (hknown : ∀ n, (∃ s ∈ v'.streaming, s.number = n) ↔
      (∃ s ∈ v.streaming, s.number = n) ∨ e.opens = .streaming n)
    (hmirrors : ∀ s ∈ v'.streaming, Mirrors s (declared s.number before)) :
    Surveyed (e :: before) v' where
  context := by rw [contextBehind, if_pos hkind, hcontext]
  control := by simp [Entry.Opens, hkind, hcontrol, h.control, or_comm]
  known n := by simp [Entry.Opens, hkind, hknown n, h.known, or_comm]
  mirrors s hs := by
    have hother : ¬ BelongsTo s.number before e := fun hbelongs => by
      have := hkind.symm.trans hbelongs.1
      revert this
      decide
    rw [declared, if_neg (fun hdeclares => hother hdeclares.1)]
    exact hmirrors s hs

theorem Surveyed.enterStreaming (h : Surveyed before v) {alt : UInt8}
    (hkind : e.kind = DescriptorType.interface) {n : UInt8} (hopens : e.opens = .streaming n) :
    Surveyed (e :: before) (v.enterStreaming n alt) := by
  -- The interface is known, or it is new and has declared nothing.
  have hadded : ∃ known : Survey, (∀ m, (∃ s ∈ known.streaming, s.number = m) ↔
        (∃ s ∈ v.streaming, s.number = m) ∨ n = m) ∧
      (∀ s ∈ known.streaming, Mirrors s (declared s.number before)) ∧
      known.control = v.control ∧
      v.enterStreaming n alt = { known.modifyInterface n fun s =>
        { s with altSettings := s.altSettings ++ [⟨alt, none⟩] } with context := .streaming n } := by
    cases hfound : v.interface? n with
    | some s =>
      obtain ⟨hs, hn⟩ := Survey.mem_of_interface? hfound
      refine ⟨v, fun m => ⟨.inl, ?_⟩, h.mirrors, rfl, by simp [Survey.enterStreaming, hfound]⟩
      rintro (hm | rfl)
      · exact hm
      · exact ⟨s, hs, hn⟩
    | none =>
      have hunknown : ¬ ∃ s ∈ v.streaming, s.number = n := by
        simpa [Survey.interface?] using hfound
      refine ⟨{ v with streaming := v.streaming ++ [{ number := n }] }, fun m => ?_, ?_, rfl,
        by simp [Survey.enterStreaming, hfound]⟩
      · simp [or_and_right, exists_or]
      · intro s hs
        rcases List.mem_append.mp hs with hs | hs
        · exact h.mirrors s hs
        · rw [List.mem_singleton.mp hs, declared_eq_nil (mt (h.known n).mpr hunknown)]
          exact .nothing rfl rfl (by simp [LeftEmpty])
  obtain ⟨known, hnumbers, hmirrors, hcontrol, heq⟩ := hadded
  rw [heq]
  refine h.enter hkind hopens.symm ?_ (fun m => ?_) ?_
  · simp [Survey.modifyInterface, hcontrol, hopens]
  · rw [hopens, DescriptorContext.streaming.injEq, ← hnumbers m]
    exact Survey.exists_number_modifyInterface (v := known) (n := n)
      (f := fun s => { s with altSettings := s.altSettings ++ [⟨alt, none⟩] }) (fun _ hs => hs) m
  · intro t ht
    obtain ⟨s, hs, rfl⟩ := Survey.mem_modifyInterface.mp ht
    split
    · exact (hmirrors s hs).of_formats rfl
    · exact hmirrors s hs

theorem settles_interface (h : Surveyed before v) (hkind : e.kind = DescriptorType.interface) :
    Settles (v.readInterface e) e.offset (9 ≤ e.size) (Surveyed (e :: before)) := by
  refine .needs id fun hlong => ?_
  have hopens := e.opens_eq (by omega)
  split
  case isTrue hcontrol =>
    rw [if_pos hcontrol] at hopens
    refine .ok hlong (h.enter hkind hopens.symm ?_ ?_ h.mirrors)
    · simp [Survey.enterControl, hopens]
    · simp [Survey.enterControl, hopens]
  case isFalse hcontrol =>
    rw [if_neg hcontrol] at hopens
    split
    case isTrue hstreaming =>
      rw [if_pos hstreaming] at hopens
      exact .ok hlong (h.enterStreaming hkind hopens)
    case isFalse hstreaming =>
      rw [if_neg hstreaming] at hopens
      exact .ok hlong (h.enter hkind hopens.symm (by simp [hopens]) (by simp [hopens]) h.mirrors)

theorem settles_endpoint (h : Surveyed before v) (hkind : e.kind = DescriptorType.endpoint) :
    Settles (v.readEndpoint e) e.offset (7 ≤ e.size) (Surveyed (e :: before)) := by
  have hpass : Surveyed (e :: before) v := by
    refine h.pass (by rw [hkind]; decide) fun n hdeclares => ?_
    have := hkind.symm.trans hdeclares.1.1
    revert this
    decide
  refine .needs id fun hlong => ?_
  split
  · exact .ok hlong (hpass.modifyInterface fun s => ⟨rfl, rfl⟩)
  · exact .ok hlong hpass

theorem Entry.required_classEntry (hkind : e.kind = DescriptorType.classInterface)
    (context : DescriptorContext) :
    e.required context =
      match context with
      | .control => e.controlLength
      | .streaming _ => e.streamingLength
      | _ => 2 := by
  unfold required
  rw [hkind]
  rfl

theorem settles_classEntry (h : Surveyed before v)
    (hkind : e.kind = DescriptorType.classInterface) :
    Settles (v.readClassEntry e) e.offset
      (e.required (contextBehind before) ≤ e.size ∧
        ∀ n, BelongsTo n before e → Suits (declared n before) e)
      (Surveyed (e :: before)) := by
  have hinterface : e.kind ≠ DescriptorType.interface := by
    rw [hkind]
    decide
  rw [Entry.required_classEntry hkind, Survey.readClassEntry, h.context]
  cases hcontext : contextBehind before with
  | streaming n =>
    have hbelongs (m : UInt8) : BelongsTo m before e ↔ m = n := by
      simp [BelongsTo, hkind, hcontext, eq_comm]
    obtain ⟨s, hfound⟩ : ∃ s, v.interface? n = some s := by
      obtain ⟨s, hs, hn⟩ := (h.known n).mpr (exists_opens hcontext (by simp))
      exact Option.isSome_iff_exists.mp (List.find?_isSome.mpr ⟨s, hs, by simpa using hn⟩)
    obtain ⟨hs, hn⟩ := Survey.mem_of_interface? hfound
    have hmirrors : Mirrors s (declared n before) := hn ▸ h.mirrors s hs
    dsimp only
    rw [hfound]
    refine Settles.congr (.map (settles_streamingEntry hmirrors e) fun s' hs' => ?_)
      (by simp [hbelongs])
    have hnumber : s'.number = n := hs'.2.trans hn
    exact {
      context := by rw [contextBehind, if_neg hinterface, ← h.context]; rfl
      control := by simp [Entry.Opens, hinterface, Survey.modifyInterface, h.control]
      known := fun m => by
        rw [Survey.exists_number_modifyInterface (fun _ _ => hnumber)]
        simpa [Entry.Opens, hinterface] using h.known m
      mirrors := fun t ht => by
        obtain ⟨t', ht', rfl⟩ := Survey.mem_modifyInterface.mp ht
        split
        · next hn' =>
          rw [hnumber, declared]
          simpa [hbelongs] using hs'.1
        · next hne =>
          rw [declared, if_neg fun hdeclares => hne ((hbelongs _).mp hdeclares.1)]
          exact h.mirrors t' ht' }
  | control =>
    have hother (n : UInt8) : ¬ BelongsTo n before e := by simp [BelongsTo, hcontext]
    have hpass := h.pass hinterface fun n hdeclares => hother n hdeclares.1
    refine Settles.congr (.map (settles_controlEntry _ e _) fun read _ => ?_) (by simp [hother])
    exact {
      context := (h.context.trans hcontext).symm.trans hpass.context
      control := by
        obtain ⟨opener, hmem, hopens⟩ := exists_opens hcontext (by simp)
        exact iff_of_true rfl ⟨opener, List.mem_cons_of_mem e hmem, hopens⟩
      known := hpass.known
      mirrors := hpass.mirrors }
  | unset =>
    have hother (n : UInt8) : ¬ BelongsTo n before e := by simp [BelongsTo, hcontext]
    exact .ok ⟨e.two_le, fun n hbelongs => absurd hbelongs (hother n)⟩
      (h.pass hinterface fun n hdeclares => hother n hdeclares.1)
  | other =>
    have hother (n : UInt8) : ¬ BelongsTo n before e := by simp [BelongsTo, hcontext]
    exact .ok ⟨e.two_le, fun n hbelongs => absurd hbelongs (hother n)⟩
      (h.pass hinterface fun n hdeclares => hother n hdeclares.1)

/-- An entry is accepted if it obeys, and the survey then knows of it. -/
theorem settles_read (h : Surveyed before v)
    (hfirst : before = [] → e.kind = DescriptorType.configuration) :
    Settles (v.read e) e.offset (Obeys before e) (Surveyed (e :: before)) := by
  have hrules : Obeys before e ↔ e.required (contextBehind before) ≤ e.size ∧
      ∀ n, BelongsTo n before e → Suits (declared n before) e :=
    ⟨fun hobeys => ⟨hobeys.long, hobeys.suits⟩, fun hrules => ⟨hfirst, hrules.1, hrules.2⟩⟩
  rw [hrules, Survey.read]
  by_cases hclass : e.kind = DescriptorType.classInterface
  · simpa +decide [hclass] using settles_classEntry h hclass
  have hother (n : UInt8) : ¬ BelongsTo n before e := fun hbelongs => hclass hbelongs.1
  simp only [hother, false_imp_iff, implies_true, and_true, Entry.required]
  have hpass (hkind : e.kind ≠ DescriptorType.interface) : Surveyed (e :: before) v :=
    h.pass hkind fun n hdeclares => hother n hdeclares.1
  split
  case isTrue hkind => exact .needs id fun hlong => .ok hlong (hpass (by rw [hkind]; decide))
  split
  case isTrue hkind => exact settles_interface h hkind
  split
  case isTrue hkind => exact settles_endpoint h hkind
  case isFalse.isFalse.isFalse hkind _ => exact .ok e.two_le (hpass hkind)

/-! ### The end of a block -/

/-- An interface has a format without a frame only in the last place. -/
theorem Mirrors.full_iff {s : StreamingInterface} {declared : List Entry}
    (h : Mirrors s declared) : (∀ f ∈ s.formats, f.frames ≠ []) ↔ ¬ LeftEmpty declared := by
  cases h with
  | nothing hformats _ hhead => simp [hformats, hhead]
  | formats front last _ hformats hfull _ _ hempty =>
    rw [← hempty, hformats, List.forall_mem_append]
    simpa using fun _ => hfull

/-- A survey concludes if the entries are complete. -/
theorem settles_conclude (h : Surveyed before v) (total : Nat) :
    Settles (v.conclude total) total (Complete before) fun _ => True := by
  have hstreaming : v.streaming = [] ↔ ¬ ∃ n, ∃ e ∈ before, e.Opens (.streaming n) := by
    simp only [← h.known]
    cases v.streaming <;> simp
  have hfull : v.emptyFormat? = none ↔ ∀ n, ¬ LeftEmpty (declared n before) := by
    have hall : v.emptyFormat? = none ↔ ∀ s ∈ v.streaming, ∀ f ∈ s.formats, f.frames ≠ [] := by
      simp [Survey.emptyFormat?]
    rw [hall]
    constructor
    · intro hframes n
      by_cases hknown : ∃ s ∈ v.streaming, s.number = n
      · obtain ⟨s, hs, rfl⟩ := hknown
        exact (h.mirrors s hs).full_iff.mp (hframes s hs)
      · rw [declared_eq_nil (mt (h.known n).mpr hknown)]
        simp [LeftEmpty]
    · exact fun hnone s hs => (h.mirrors s hs).full_iff.mpr (hnone s.number)
  rw [Survey.conclude]
  cases hcontrol : v.control with
  | none =>
    have hno : ¬ ∃ e ∈ before, e.Opens .control := by simp [← h.control, hcontrol]
    exact .inr ⟨fun hcomplete => hno hcomplete.control, _, rfl⟩
  | some control =>
    have hyes : ∃ e ∈ before, e.Opens .control := by simp [← h.control, hcontrol]
    dsimp only
    split
    case isTrue hnone =>
      exact .inr ⟨fun hcomplete =>
        hstreaming.mp (List.isEmpty_iff.mp hnone) hcomplete.streaming, _, rfl⟩
    case isFalse hsome =>
      have hsome : ∃ n, ∃ e ∈ before, e.Opens (.streaming n) :=
        Classical.not_not.mp (mt hstreaming.mpr (by simpa using hsome))
      split
      case h_1 hempty =>
        exact .inr ⟨fun hcomplete => by simp [hfull.mpr hcomplete.full] at hempty, _, rfl⟩
      case h_2 hempty => exact .ok ⟨hyes, hsome, hfull.mp hempty⟩ trivial

end Step

/-! ### A whole block -/

theorem Lawful.of_append {later before : List Entry} (h : Lawful (later ++ before)) :
    Lawful before := by
  induction later with
  | nil => exact h
  | cons e later ih => exact ih h.2

/-- Read the rest of a block that was cut into entries. -/
def Survey.finish (v : Survey) (total : Nat) (tiles : List Entry × Option DescriptorError) :
    Except DescriptorError Catalog := do
  let survey ← tiles.1.foldlM Survey.read v
  match tiles.2 with
  | some e => .error e
  | none => survey.conclude total

theorem parseConfiguration_eq (block : Bytes) :
    parseConfiguration block =
      checkFirst (tile 0 block).1 >>= fun _ => Survey.finish {} block.length (tile 0 block) := rfl

theorem Survey.finish_cons (v : Survey) (total : Nat) (e : Entry) (entries : List Entry)
    (flaw : Option DescriptorError) :
    v.finish total (e :: entries, flaw) = v.read e >>= fun v' => v'.finish total (entries, flaw) := by
  simp only [finish, List.foldlM_cons, bind_assoc]

/-- Lawful entries in front of a block are read one after the other. -/
theorem Surveyed.finish_append {before entries : List Entry} {v : Survey} {offset : Nat}
    {front : Bytes} (h : Surveyed before v) (htiles : Tiles offset front entries)
    (hlawful : Lawful (entries.reverse ++ before)) :
    ∃ v', Surveyed (entries.reverse ++ before) v' ∧ ∀ rest total,
      v.finish total (tile offset (front ++ rest)) =
        v'.finish total (tile (offset + front.length) rest) := by
  induction htiles generalizing before v with
  | nil offset => exact ⟨v, h, fun rest total => rfl⟩
  | @cons offset bytes front entries hbytes _ ih =>
    rw [List.reverse_cons, List.append_assoc, List.singleton_append] at hlawful ⊢
    have hobeys : Obeys before ⟨offset, bytes, hbytes.two_le⟩ := hlawful.of_append.1
    obtain ⟨-, next, hread, hnext⟩ | ⟨hno, -⟩ := settles_read h hobeys.first
    · obtain ⟨v', hv', hrest⟩ := ih hnext hlawful
      refine ⟨v', hv', fun rest total => ?_⟩
      rw [List.append_assoc, tile_append hbytes, Survey.finish_cons, hread, List.length_append,
        ← Nat.add_assoc]
      exact hrest rest total
    · exact absurd hobeys hno

/-- The first entry of a block is let pass if it is a configuration, or if there is none. -/
theorem checkFirst_tile {block : Bytes}
    (h : ∀ bytes rest, block = bytes ++ rest → ∀ hbytes : Measured bytes,
      Entry.kind ⟨0, bytes, hbytes.two_le⟩ = DescriptorType.configuration) :
    checkFirst (tile 0 block).1 = .ok () := by
  by_cases hempty : block = []
  · rw [hempty, tile]
    rfl
  by_cases hsome : ∃ bytes rest, block = bytes ++ rest ∧ Measured bytes
  · obtain ⟨bytes, rest, rfl, hbytes⟩ := hsome
    rw [tile_append hbytes, checkFirst, if_pos (h bytes rest rfl hbytes)]
  · obtain ⟨flaw, hstuck⟩ := tile_stuck hempty
      (fun bytes rest heq hbytes => hsome ⟨bytes, rest, heq, hbytes⟩) 0
    rw [hstuck]
    rfl

theorem Tiles.checkFirst {front : Bytes} {entries : List Entry} (htiles : Tiles 0 front entries)
    (hlawful : Lawful entries.reverse) (hne : front ≠ []) (rest : Bytes) :
    checkFirst (tile 0 (front ++ rest)).1 = .ok () := by
  cases htiles with
  | nil => exact absurd rfl hne
  | @cons _ bytes front entries hbytes _ =>
    rw [List.reverse_cons] at hlawful
    refine checkFirst_tile fun bytes' rest' heq hbytes' => ?_
    rw [List.append_assoc] at heq
    obtain ⟨rfl, -⟩ := hbytes.unique hbytes' heq
    exact hlawful.of_append.1.first rfl

/-- A block of lawful entries is accepted if it is complete, and refused at its end if it is not. -/
theorem settles_lawful {block : Bytes} {entries : List Entry} (htiles : Tiles 0 block entries)
    (hlawful : Lawful entries.reverse) :
    Settles (parseConfiguration block) block.length (Complete entries.reverse) fun _ => True := by
  have hfirst : checkFirst (tile 0 block).1 = .ok () := by
    by_cases hne : block = []
    · rw [hne, tile]
      rfl
    · simpa using htiles.checkFirst hlawful hne []
  obtain ⟨v, hv, hfinish⟩ := surveyed_nil.finish_append htiles (by simpa using hlawful)
  rw [List.append_nil] at hv
  have hrest := hfinish [] block.length
  rw [List.append_nil, tile] at hrest
  rw [parseConfiguration_eq, hfirst]
  exact hrest ▸ settles_conclude hv block.length

/-- A block is refused where it breaks a rule. -/
theorem parseConfiguration_breaks {block : Bytes} {offset : Nat} (h : Breaks block offset) :
    ∃ flaw, parseConfiguration block = .error ⟨offset, flaw⟩ := by
  obtain ⟨front, rest, entries, rfl, rfl, hne, htiles, hlawful, hbreaks⟩ := h
  obtain ⟨v, hv, hfinish⟩ := surveyed_nil.finish_append htiles (by simpa using hlawful)
  rw [List.append_nil] at hv
  have hrest := hfinish rest (front ++ rest).length
  rw [Nat.zero_add] at hrest
  rw [parseConfiguration_eq]
  by_cases hstart : ∃ bytes more, rest = bytes ++ more ∧ Measured bytes
  · obtain ⟨bytes, more, rfl, hbytes⟩ := hstart
    have hno := hbreaks bytes more rfl hbytes
    rw [tile_append hbytes, Survey.finish_cons] at hrest
    by_cases hconfiguration : entries.reverse = [] →
        Entry.kind ⟨front.length, bytes, hbytes.two_le⟩ = DescriptorType.configuration
    · -- The entry is refused behind those before it.
      have hfirst : checkFirst (tile 0 (front ++ (bytes ++ more))).1 = .ok () := by
        by_cases hfront : front = []
        · subst hfront
          refine checkFirst_tile fun bytes' rest' heq hbytes' => ?_
          obtain ⟨rfl, -⟩ := hbytes.unique hbytes' heq
          exact hconfiguration (List.reverse_eq_nil_iff.mpr (htiles.eq_nil_iff.mpr rfl))
        · exact htiles.checkFirst hlawful hfront _
      obtain ⟨hobeys, -⟩ | ⟨-, flaw, hread⟩ := settles_read hv hconfiguration
      · exact absurd hobeys hno
      · refine ⟨flaw, ?_⟩
        rw [hfirst]
        refine hrest.trans ?_
        rw [hread]
        rfl
    · -- The very first entry is not the configuration.
      obtain ⟨hentries, hkind⟩ := Classical.not_imp.mp hconfiguration
      obtain rfl := htiles.eq_nil_iff.mp (List.reverse_eq_nil_iff.mp hentries)
      rw [List.length_nil] at hkind
      refine ⟨.notAConfiguration (Entry.kind ⟨0, bytes, hbytes.two_le⟩), ?_⟩
      rw [List.nil_append, tile_append hbytes, checkFirst, if_neg hkind]
      rfl
  · -- Nothing there is an entry.
    have hnone : ∀ bytes more, rest = bytes ++ more → ¬ Measured bytes :=
      fun bytes more heq hbytes => hstart ⟨bytes, more, heq, hbytes⟩
    have hfirst : checkFirst (tile 0 (front ++ rest)).1 = .ok () := by
      by_cases hfront : front = []
      · subst hfront
        exact checkFirst_tile fun bytes more heq hbytes => absurd hbytes (hnone bytes more heq)
      · exact htiles.checkFirst hlawful hfront _
    obtain ⟨flaw, hstuck⟩ := tile_stuck hne hnone front.length
    refine ⟨flaw, ?_⟩
    rw [hfirst]
    refine hrest.trans ?_
    rw [hstuck]
    rfl

/-- Behind lawful entries a block goes on to its end, or to a place where it breaks a rule. -/
theorem lawful_or_breaks (rest : Bytes) {front : Bytes} {entries : List Entry}
    (htiles : Tiles 0 front entries) (hlawful : Lawful entries.reverse) :
    (∃ entries, Tiles 0 (front ++ rest) entries ∧ Lawful entries.reverse) ∨
      ∃ offset, Breaks (front ++ rest) offset := by
  induction hlength : rest.length using Nat.strongRecOn generalizing rest front entries with
  | _ length ih =>
    by_cases hempty : rest = []
    · subst hempty
      rw [List.append_nil]
      exact .inl ⟨_, htiles, hlawful⟩
    by_cases hnext : ∃ bytes more, rest = bytes ++ more ∧
        ∃ h : Measured bytes, Obeys entries.reverse ⟨front.length, bytes, h.two_le⟩
    · obtain ⟨bytes, more, rfl, hbytes, hobeys⟩ := hnext
      have hfront : Tiles 0 (front ++ bytes) (entries ++ [⟨front.length, bytes, hbytes.two_le⟩]) := by
        have hlast : Tiles front.length (bytes ++ []) [⟨front.length, bytes, hbytes.two_le⟩] :=
          .cons hbytes (.nil _)
        refine htiles.append ?_
        simpa using hlast
      have hentries : Lawful (entries ++ [Entry.mk front.length bytes hbytes.two_le]).reverse := by
        rw [List.reverse_append]
        exact ⟨hobeys, hlawful⟩
      rw [← List.append_assoc]
      refine ih more.length ?_ more hfront hentries rfl
      have := hbytes.two_le
      rw [← hlength, List.length_append]
      omega
    · refine .inr ⟨_, front, rest, entries, rfl, rfl, hempty, htiles, hlawful, ?_⟩
      exact fun bytes more heq hbytes hobeys => hnext ⟨bytes, more, heq, hbytes, hobeys⟩

theorem grammatical_or (block : Bytes) :
    Grammatical block ∨ Incomplete block ∨ ∃ offset, Breaks block offset := by
  obtain ⟨entries, htiles, hlawful⟩ | hbreaks := lawful_or_breaks block (.nil 0) trivial
  · by_cases hcomplete : Complete entries.reverse
    · exact .inl ⟨entries, htiles, hlawful, hcomplete⟩
    · exact .inr (.inl ⟨entries, htiles, hlawful, hcomplete⟩)
  · exact .inr (.inr hbreaks)

theorem parseConfiguration_grammatical {block : Bytes} (h : Grammatical block) :
    ∃ catalog, parseConfiguration block = .ok catalog := by
  obtain ⟨entries, htiles, hlawful, hcomplete⟩ := h
  obtain ⟨-, catalog, hok, -⟩ | ⟨hno, -⟩ := settles_lawful htiles hlawful
  · exact ⟨catalog, hok⟩
  · exact absurd hcomplete hno

/-- A block in which something is missing is refused at its end. -/
theorem parseConfiguration_incomplete {block : Bytes} (h : Incomplete block) :
    ∃ flaw, parseConfiguration block = .error ⟨block.length, flaw⟩ := by
  obtain ⟨entries, htiles, hlawful, hincomplete⟩ := h
  obtain ⟨hcomplete, -⟩ | ⟨-, herror⟩ := settles_lawful htiles hlawful
  · exact absurd hcomplete hincomplete
  · exact herror

end UsbVideo
