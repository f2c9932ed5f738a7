import UsbVideo.Proofs.Descriptor.Announced

/-!
# Catalogs are faithful

A block that is accepted has been read entry by entry, so its catalog is that of all its entries:

    {} = ofEntries [] ──read──▶ … ──read──▶ ofEntries entries ──conclude──▶ catalog

What is left to see is that no frame stands in front of the first format of its interface (`Headed`),
where no chapter would take it in, and that a catalog with an empty format is not concluded.
-/

namespace UsbVideo

/-! ### No frame is left out -/

/-- No frame stands in front of the first format. -/
def Headed (declared : List Entry) : Prop :=
  ∀ e ∈ declared.takeWhile (!·.IsFormat), ¬ e.IsFrame

theorem headed_nil : Headed [] := nofun

theorem Headed.concat {declared : List Entry} (h : Headed declared) {e : Entry}
    (he : e.IsFrame → ∃ f ∈ declared, f.IsFormat) : Headed (declared ++ [e]) := by
  intro x hx
  rw [List.takeWhile_append] at hx
  split at hx
  · next hall =>
    have hnone : ∀ f ∈ declared, ¬ f.IsFormat := fun f hf => by
      rw [← (List.takeWhile_prefix _).eq_of_length hall] at hf
      simpa using List.mem_takeWhile_imp hf
    rcases List.mem_append.mp hx with hx | hx
    · rw [← (List.takeWhile_prefix _).eq_of_length hall] at hx
      exact h x hx
    · obtain rfl := List.mem_singleton.mp ((List.takeWhile_prefix _).subset hx)
      exact fun hframe => (he hframe).elim fun f hf => hnone f hf.1 hf.2
  · exact h x hx

/-- The chapters of the formats have all formats and all frames. -/
theorem Headed.flatMap_formatChapters {declared : List Entry} (h : Headed declared) :
    (formatChapters declared).flatMap (fun c => c.1 :: c.2.filter (·.IsFrame)) =
      declared.filter fun e => e.IsFormat ∨ e.IsFrame := by
  have hchapter : ∀ c ∈ formatChapters declared,
      c.1 :: c.2.filter (·.IsFrame) = (c.1 :: c.2).filter fun e => e.IsFormat ∨ e.IsFrame := by
    intro c hc
    obtain ⟨hopens, hrest⟩ := opens_of_mem_chapters hc
    have hformat : c.1.IsFormat := by simpa using hopens
    rw [List.filter_cons, if_pos (by simp [hformat])]
    refine congrArg _ (List.filter_congr fun e he => ?_)
    have hother : ¬ e.IsFormat := by simpa using hrest e he
    simp [hother]
  have hfront : (declared.takeWhile (!·.IsFormat)).filter (fun e => e.IsFormat ∨ e.IsFrame) = [] :=
    List.filter_eq_nil_iff.mpr fun e he => by
      have hother : ¬ e.IsFormat := by simpa using List.mem_takeWhile_imp he
      simpa [hother] using h e he
  calc (formatChapters declared).flatMap (fun c => c.1 :: c.2.filter (·.IsFrame))
      = ((formatChapters declared).flatMap fun c => c.1 :: c.2).filter
          fun e => e.IsFormat ∨ e.IsFrame := by
        rw [List.filter_flatMap]
        exact List.flatMap_congr hchapter
    _ = (declared.dropWhile (!·.IsFormat)).filter fun e => e.IsFormat ∨ e.IsFrame := by
        rw [formatChapters, flatMap_chapters]
    _ = declared.filter fun e => e.IsFormat ∨ e.IsFrame := by
        rw [← List.takeWhile_append_dropWhile (p := (!·.IsFormat)) (l := declared),
          List.filter_append, hfront, List.nil_append]
        simp

theorem headed_concat {entries : List Entry} {e : Entry} (hpreceded : Preceded entries e) {n : UInt8}
    (h : Headed (classEntries (.streaming n) entries)) :
    Headed (classEntries (.streaming n) (entries ++ [e])) := by
  by_cases hkind : e.kind = DescriptorType.interface
  · rwa [classEntries_concat_interface hkind]
  by_cases hbelongs : BelongsTo n entries.reverse e
  · rw [classEntries_concat_self hbelongs.1 hbelongs.2 nofun]
    exact h.concat (hpreceded n hbelongs)
  · rwa [classEntries_concat_other hkind fun hcontext hclass => hbelongs ⟨hclass, hcontext⟩]

/-! ### A whole block -/

theorem accepts_foldlM (entries front : List Entry)
    (h : ∀ n, Headed (classEntries (.streaming n) front)) :
    Accepts (entries.foldlM Survey.read (.ofEntries front)) fun v =>
      v = .ofEntries (front ++ entries) ∧
        ∀ n, Headed (classEntries (.streaming n) (front ++ entries)) := by
  induction entries generalizing front with
  | nil => exact .ok (by simpa using h)
  | cons e entries ih =>
    rw [List.foldlM_cons]
    refine (accepts_read front e).bind fun v hread => ?_
    rw [hread.1, List.append_cons front e entries]
    exact ih _ fun n => headed_concat hread.2 (h n)

/-- What is concluded has its interfaces from the survey, and no format is empty. -/
theorem accepts_conclude (v : Survey) (total : Nat) :
    Accepts (v.conclude total) fun catalog =>
      v.control = some catalog.control ∧ catalog.streaming = v.streaming ∧
        ∀ s ∈ v.streaming, ∀ f ∈ s.formats, f.frames ≠ [] := by
  rw [Survey.conclude]
  split
  · exact .error _
  · next control hcontrol =>
    split
    · exact .error _
    · split
      · exact .error _
      · next hfull =>
        refine .ok ⟨hcontrol, rfl, ?_⟩
        simpa [Survey.emptyFormat?] using hfull

theorem Entry.frames_format (e : Entry) (frames : List FrameDescriptor) :
    (e.format frames).frames = frames := by
  rw [format]
  split
  · rfl
  · split <;> rfl

/-- The frames of a chapter are entries there. -/
theorem mem_frames_formatOf {declared : List Entry} {c : Entry × List Entry}
    (hc : c ∈ formatChapters declared) {frame : FrameDescriptor} (hframe : frame ∈ (formatOf c).frames) :
    ∃ e ∈ declared, frame = e.frame := by
  rw [formatOf, Entry.frames_format] at hframe
  obtain ⟨e, he, rfl⟩ := List.mem_map.mp hframe
  have hmem : e ∈ (formatChapters declared).flatMap fun c => c.1 :: c.2 :=
    List.mem_flatMap.mpr ⟨c, hc, List.mem_cons_of_mem _ (List.mem_filter.mp he).1⟩
  rw [formatChapters, flatMap_chapters] at hmem
  exact ⟨e, (List.dropWhile_suffix _).subset hmem, rfl⟩

/-- A list of intervals has as many as the entry says. -/
theorem Entry.length_of_intervals_eq {e : Entry} {list : List UInt32}
    (h : e.intervals = .discrete list) : list.length = e.intervalCount ∧ list ≠ [] := by
  rw [intervals] at h
  split at h
  · cases h
  · next hcount =>
    obtain rfl := FrameIntervals.discrete.inj h
    refine ⟨by simp, ?_⟩
    simpa using hcount

theorem announces_ofEntries {entries : List Entry} {catalog : Catalog}
    (hcontrol : (Survey.ofEntries entries).control = some catalog.control)
    (hstreaming : catalog.streaming = (Survey.ofEntries entries).streaming)
    (hheaded : ∀ n, Headed (classEntries (.streaming n) entries))
    (hfull : ∀ s ∈ catalog.streaming, ∀ f ∈ s.formats, f.frames ≠ []) :
    Announces entries catalog := by
  have hnumbers : catalog.streaming.map (·.number) = (streamNumbers entries).eraseDups := by
    rw [hstreaming, Survey.ofEntries, List.map_map]
    exact List.map_id _
  have hinterfaces (s) (hs : s ∈ catalog.streaming) : s = streamOf entries s.number := by
    rw [hstreaming] at hs
    obtain ⟨n, -, rfl⟩ := List.mem_map.mp hs
    rfl
  obtain ⟨opener, -, hdeclared⟩ := Option.map_eq_some_iff.mp hcontrol
  constructor
  case numbers => exact hnumbers
  case distinct =>
    rw [hnumbers]
    exact nodup_eraseDups _
  case altSettings => exact fun s hs => congrArg StreamingInterface.altSettings (hinterfaces s hs)
  case formats => exact fun s hs => congrArg StreamingInterface.formats (hinterfaces s hs)
  case whole => exact fun s _ => (hheaded s.number).flatMap_formatChapters
  case full => exact hfull
  case intervals =>
    intro s hs f hf frame hframe list hlist
    rw [hinterfaces s hs] at hf
    obtain ⟨c, hc, rfl⟩ := List.mem_map.mp hf
    obtain ⟨e, he, rfl⟩ := mem_frames_formatOf hc hframe
    exact ⟨e, he, rfl, e.length_of_intervals_eq hlist⟩
  all_goals rw [← hdeclared]; rfl

/-- The catalog of every block that is accepted lists what the entries of the block announce: each
interface, alternate setting, format, frame, terminal and unit once and in the order of the block, an
alternate setting with the endpoint that its own entries settle on, and a frame with the latest format
of its own interface, however the entries of several interfaces are mixed. -/
theorem parseConfiguration_announces {block : Bytes} {catalog : Catalog}
    (h : parseConfiguration block = .ok catalog) :
    ∃ entries, Tiles 0 block entries ∧ Announces entries catalog := by
  obtain ⟨entries, htiles⟩ : ∃ entries, Tiles 0 block entries := by
    rcases grammatical_or block with ⟨entries, htiles, -⟩ | hincomplete | ⟨offset, hbreaks⟩
    · exact ⟨entries, htiles⟩
    · obtain ⟨flaw, herror⟩ := parseConfiguration_incomplete hincomplete
      exact nomatch h.symm.trans herror
    · obtain ⟨flaw, herror⟩ := parseConfiguration_breaks hbreaks
      exact nomatch h.symm.trans herror
  refine ⟨entries, htiles, ?_⟩
  -- The fold starts with the survey of no entries, and goes on with that of those read so far.
  have hread : Accepts (Survey.finish {} block.length (entries, none)) (Announces entries) := by
    refine (accepts_foldlM entries [] fun n => headed_nil).bind fun v hv => ?_
    refine fun catalog hcatalog => ?_
    obtain ⟨hcontrol, hstreaming, hfull⟩ := accepts_conclude v _ catalog hcatalog
    rw [← hstreaming] at hfull
    rw [hv.1] at hcontrol hstreaming
    exact announces_ofEntries hcontrol hstreaming hv.2 hfull
  rw [parseConfiguration_eq, htiles.tile_eq] at h
  exact Accepts.bind (P := fun _ => True) (fun _ _ => trivial) (fun _ _ => hread) catalog h

/-- The first streaming interface comes back behind the second one, with a frame and four endpoints. -/
theorem parseConfiguration_announces_mixed :
    let frame : Bytes := [30, 0x24, 0x07, 1, 0, 64, 0, 48, 0, 0, 0, 0, 0, 0, 0, 0, 0, 0, 1, 0, 0, 0x15,
      0x16, 5, 0, 1, 0x15, 0x16, 5, 0]
    let block : Bytes := [9, 0x02, 0, 0, 3, 1, 0, 0x80, 50] ++ [9, 0x04, 0, 0, 0, 0x0E, 1, 0, 0] ++
      [7, 0x24, 0x04, 5, 1, 1, 0] ++ [9, 0x24, 0x03, 3, 1, 1, 0, 5, 0] ++
      [9, 0x04, 1, 0, 0, 0x0E, 2, 0, 0] ++ [11, 0x24, 0x06, 1, 1, 1, 1, 0, 0, 0, 0] ++
      [9, 0x04, 2, 0, 0, 0x0E, 2, 0, 0] ++ [11, 0x24, 0x06, 2, 1, 1, 1, 0, 0, 0, 0] ++ frame ++
      [9, 0x04, 1, 1, 4, 0x0E, 2, 0, 0] ++ [7, 0x05, 0x01, 2, 0, 2, 0] ++ [7, 0x05, 0x82, 2, 0, 2, 0] ++
      [7, 0x05, 0x83, 2, 0, 2, 0] ++ [7, 0x05, 0x04, 2, 0, 2, 0] ++ frame
    let announced : FrameDescriptor := ⟨1, 64, 48, 256, 333333, .discrete [333333]⟩
    let catalog : Catalog := {
      uvcVersion := 0
      control := { outputTerminals := [⟨3, 0x0101, 5⟩], selectorUnits := [⟨5, [1]⟩] }
      streaming := [
        { number := 1
          altSettings := [⟨0, none⟩, ⟨1, some ⟨0x83, .bulk, 512, 0⟩⟩]
          formats := [⟨1, .mjpeg, 0, 1, [announced]⟩] },
        { number := 2
          altSettings := [⟨0, none⟩]
          formats := [⟨2, .mjpeg, 0, 1, [announced]⟩] }] }
    parseConfiguration block = .ok catalog ∧
      ∃ entries, Tiles 0 block entries ∧ Announces entries catalog := by
  intro frame block announced catalog
  have hok : parseConfiguration block = .ok catalog := by decide +kernel
  exact ⟨hok, parseConfiguration_announces hok⟩

end UsbVideo
