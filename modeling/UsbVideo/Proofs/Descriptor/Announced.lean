import Mathlib.Data.List.Induction
import UsbVideo.Proofs.Descriptor.Declared

/-!
# Reading takes in what is announced

Behind any entries of a block the survey is `Survey.ofEntries`, which is said of the entries without
reading them. One more entry opens a section or goes into the last one, and the survey is changed in the
same way (`accepts_read`).
-/

namespace UsbVideo

/-! ### One more entry of a block -/

section Concat

variable {entries : List Entry} {e : Entry} {context : DescriptorContext}

theorem contextBehind_concat :
    contextBehind (entries ++ [e]).reverse =
      if e.kind = DescriptorType.interface then e.opens else contextBehind entries.reverse := by
  simp [contextBehind]

theorem sections_concat_interface (h : e.kind = DescriptorType.interface) :
    sections (entries ++ [e]) = sections entries ++ [(e, [])] :=
  chapters_concat_opener (by simpa using h) entries

theorem sections_concat_other (h : e.kind ≠ DescriptorType.interface) :
    sections (entries ++ [e]) =
      Survey.modifyLast (fun s => (s.1, s.2 ++ [e])) (sections entries) :=
  chapters_concat_other (by simpa using h) entries

/-- The context is that of the last section. -/
theorem contextBehind_eq (entries : List Entry) :
    contextBehind entries.reverse =
      ((sections entries).getLast?.map (·.1.opens)).getD .unset := by
  induction entries using List.reverseRecOn with
  | nil => rfl
  | append_singleton entries e ih =>
    rw [contextBehind_concat]
    by_cases hkind : e.kind = DescriptorType.interface
    · rw [if_pos hkind, sections_concat_interface hkind]
      simp
    · rw [if_neg hkind, sections_concat_other hkind, ih]
      rcases List.eq_nil_or_concat' (sections entries) with hnil | ⟨front, last, hlast⟩
      · rw [hnil]
        rfl
      · simp [hlast]

theorem sectionsOf_concat_interface (h : e.kind = DescriptorType.interface) :
    sectionsOf context (entries ++ [e]) =
      sectionsOf context entries ++ if e.opens = context then [(e, [])] else [] := by
  simp [sectionsOf, sections_concat_interface h, List.filter_append, List.filter_cons]

theorem sectionsOf_concat_other (h : e.kind ≠ DescriptorType.interface) :
    sectionsOf context (entries ++ [e]) =
      if contextBehind entries.reverse = context then
        Survey.modifyLast (fun s => (s.1, s.2 ++ [e])) (sectionsOf context entries)
      else sectionsOf context entries := by
  rw [sectionsOf, sectionsOf, sections_concat_other h, contextBehind_eq]
  rcases List.eq_nil_or_concat' (sections entries) with hnil | ⟨front, last, hlast⟩
  · simp [hnil]
  · by_cases hopens : last.1.opens = context <;> simp [hlast, List.filter_append, hopens]

/-- A context that is set has a section. -/
theorem exists_sectionsOf (h : contextBehind entries.reverse = context) (hset : context ≠ .unset) :
    ∃ front last, sectionsOf context entries = front ++ [last] := by
  rcases List.eq_nil_or_concat' (sections entries) with hnil | ⟨front, last, hlast⟩
  · rw [contextBehind_eq, hnil] at h
    exact absurd h.symm hset
  · have hopens : last.1.opens = context := by simpa [contextBehind_eq, hlast] using h
    exact ⟨front.filter (·.1.opens = context), last, by simp [sectionsOf, hlast, hopens]⟩

theorem classEntries_concat_interface (h : e.kind = DescriptorType.interface) :
    classEntries context (entries ++ [e]) = classEntries context entries := by
  rw [classEntries, classEntries, sectionsOf_concat_interface h]
  split <;> simp

/-- A class-specific entry is one more in its context. -/
theorem classEntries_concat_self (h : e.kind = DescriptorType.classInterface)
    (hcontext : contextBehind entries.reverse = context) (hset : context ≠ .unset) :
    classEntries context (entries ++ [e]) = classEntries context entries ++ [e] := by
  obtain ⟨front, last, hlast⟩ := exists_sectionsOf hcontext hset
  have hkind : e.kind ≠ DescriptorType.interface := by
    rw [h]
    decide
  rw [classEntries, classEntries, sectionsOf_concat_other hkind, if_pos hcontext, hlast]
  simp [List.filter_append, h]

theorem classEntries_concat_other (hkind : e.kind ≠ DescriptorType.interface)
    (h : contextBehind entries.reverse = context → e.kind ≠ DescriptorType.classInterface) :
    classEntries context (entries ++ [e]) = classEntries context entries := by
  rw [classEntries, classEntries, sectionsOf_concat_other hkind]
  split
  · next hcontext =>
    rcases List.eq_nil_or_concat' (sectionsOf context entries) with hnil | ⟨front, last, hlast⟩
    · simp [hnil]
    · simp [hlast, List.filter_append, h hcontext]
  · rfl

/-- The last endpoint towards the host stays, whatever comes behind it. -/
theorem settled_concat (endpoints : List Endpoint) (endpoint : Endpoint) :
    settled (endpoints ++ [endpoint]) =
      if (settled endpoints).isNone || endpoint.isIn then some endpoint else settled endpoints := by
  cases hin : endpoint.isIn with
  | true => simp [settled, hin]
  | false => cases endpoints <;> simp [settled, hin]

theorem altSettings_concat_endpoint (h : e.kind = DescriptorType.endpoint)
    (hcontext : contextBehind entries.reverse = context) :
    (sectionsOf context (entries ++ [e])).map altSetting =
      Survey.modifyLast (Survey.settleEndpoint e.endpoint)
        ((sectionsOf context entries).map altSetting) := by
  have hkind : e.kind ≠ DescriptorType.interface := by
    rw [h]
    decide
  rw [sectionsOf_concat_other hkind, if_pos hcontext]
  refine map_modifyLast (fun s => ?_) _
  have hendpoints : (s.2 ++ [e]).filter (·.kind = DescriptorType.endpoint) =
      s.2.filter (·.kind = DescriptorType.endpoint) ++ [e] := by
    simp [h]
  rw [altSetting, hendpoints, List.map_append, List.map_singleton, settled_concat,
    Survey.settleEndpoint]
  split
  · next hsettles => exact (if_pos hsettles).symm
  · next hkeeps => exact (if_neg hkeeps).symm

theorem altSettings_concat_other (hkind : e.kind ≠ DescriptorType.interface)
    (h : contextBehind entries.reverse = context → e.kind ≠ DescriptorType.endpoint) :
    (sectionsOf context (entries ++ [e])).map altSetting =
      (sectionsOf context entries).map altSetting := by
  rw [sectionsOf_concat_other hkind]
  split
  · next hcontext =>
    refine map_modifyLast_of_same (fun s => ?_) _
    simp [altSetting, List.filter_append, h hcontext]
  · rfl

end Concat

/-! ### The survey of a block -/

/-- The last interface entry that opens this context. -/
def openerOf (context : DescriptorContext) (entries : List Entry) : Option Entry :=
  (sectionsOf context entries).getLast?.map (·.1)

/-- The streaming interface of this number. -/
def streamOf (entries : List Entry) (n : UInt8) : StreamingInterface :=
  .ofEntries n ((sectionsOf (.streaming n) entries).map altSetting)
    (classEntries (.streaming n) entries)

/-- What is known behind these entries. -/
def Survey.ofEntries (entries : List Entry) : Survey where
  context := contextBehind entries.reverse
  control := (openerOf .control entries).map fun opener =>
    .ofEntries (opener.byte 2) (classEntries .control entries)
  uvcVersion := headerVersion (classEntries .control entries)
  streaming := (streamNumbers entries).eraseDups.map (streamOf entries)

section Step

variable {entries : List Entry} {e : Entry}

theorem streamNumbers_concat :
    streamNumbers (entries ++ [e]) = streamNumbers entries ++ e.streams?.toList := by
  rw [streamNumbers, List.filterMap_append, streamNumbers]
  cases h : e.streams? <;> simp [h]

/-- A number that is there adds nothing, and a new one comes last. -/
theorem eraseDups_concat (numbers : List UInt8) (n : UInt8) :
    (numbers ++ [n]).eraseDups =
      if n ∈ numbers then numbers.eraseDups else numbers.eraseDups ++ [n] := by
  rw [List.eraseDups_append, List.removeAll]
  split
  · next h => simp [h]
  · next h => simp [h, List.eraseDups_cons]

theorem nodup_eraseDups (numbers : List UInt8) : numbers.eraseDups.Nodup := by
  induction numbers using List.reverseRecOn with
  | nil => exact List.nodup_nil
  | append_singleton numbers n ih =>
    rw [eraseDups_concat]
    split
    · exact ih
    · next h =>
      refine List.nodup_append.mpr ⟨ih, by simp, ?_⟩
      simpa using fun m hm => ne_of_mem_of_not_mem hm h

theorem streams?_eq_some_iff {n : UInt8} :
    e.streams? = some n ↔ e.Opens (.streaming n) := by
  rw [Entry.streams?, Entry.Opens]
  by_cases hkind : e.kind = DescriptorType.interface
  · rw [if_pos hkind]
    cases e.opens <;> simp [hkind]
  · simp [hkind]

/-- An interface has a section for each of its alternate settings. -/
theorem mem_streamNumbers {n : UInt8} :
    n ∈ streamNumbers entries ↔ sectionsOf (.streaming n) entries ≠ [] := by
  have hopeners (e : Entry) : e ∈ (sections entries).map (·.1) ↔
      e ∈ entries ∧ e.kind = DescriptorType.interface := by
    rw [sections, map_fst_chapters]
    simp
  constructor
  · intro h
    obtain ⟨e, he, hn⟩ := List.mem_filterMap.mp h
    obtain ⟨hkind, hopens⟩ := streams?_eq_some_iff.mp hn
    obtain ⟨s, hs, rfl⟩ := List.mem_map.mp ((hopeners e).mpr ⟨he, hkind⟩)
    exact List.ne_nil_of_mem (List.mem_filter.mpr ⟨hs, by simpa using hopens⟩)
  · intro h
    obtain ⟨s, hs⟩ := List.exists_mem_of_ne_nil _ h
    obtain ⟨hmem, hopens⟩ := List.mem_filter.mp hs
    obtain ⟨he, hkind⟩ := (hopeners s.1).mp (List.mem_map_of_mem hmem)
    exact List.mem_filterMap.mpr
      ⟨s.1, he, streams?_eq_some_iff.mpr ⟨hkind, by simpa using hopens⟩⟩

/-- An interface that nothing was said of. -/
theorem classEntries_of_nil {context : DescriptorContext} (h : sectionsOf context entries = []) :
    classEntries context entries = [] := by
  rw [classEntries, h]
  rfl

theorem streamOf_of_not_mem {n : UInt8} (h : n ∉ streamNumbers entries) :
    streamOf entries n = { number := n } := by
  have hnil : sectionsOf (.streaming n) entries = [] :=
    Classical.not_not.mp (mt mem_streamNumbers.mpr h)
  rw [streamOf, hnil, classEntries_of_nil hnil]
  rfl

theorem interface?_ofEntries {n : UInt8} (h : n ∈ streamNumbers entries) :
    (Survey.ofEntries entries).interface? n = some (streamOf entries n) := by
  have hmem : n ∈ (streamNumbers entries).eraseDups := List.mem_eraseDups.mpr h
  rw [Survey.interface?, Survey.ofEntries, List.find?_map]
  have hsame : (fun s : StreamingInterface => s.number == n) ∘ streamOf entries = (· == n) := rfl
  rw [hsame]
  obtain ⟨m, hm⟩ := Option.isSome_iff_exists.mp
    (List.find?_isSome.mpr ⟨n, hmem, by simp⟩ : (List.find? (· == n) _).isSome)
  obtain rfl : m = n := by simpa using List.find?_some hm
  rw [hm]
  rfl

/-- To change the interface of a number changes it among those there are. -/
theorem map_streamOf {numbers : List UInt8} {n : UInt8} {f : StreamingInterface → StreamingInterface}
    (hself : f (streamOf entries n) = streamOf (entries ++ [e]) n)
    (hother : ∀ m, m ≠ n → streamOf (entries ++ [e]) m = streamOf entries m) :
    ((numbers.map (streamOf entries)).map fun s => if s.number = n then f s else s) =
      numbers.map (streamOf (entries ++ [e])) := by
  rw [List.map_map]
  refine List.map_congr_left fun m _ => ?_
  have hnumber : (streamOf entries m).number = m := rfl
  rw [Function.comp_apply, hnumber]
  split
  · next h => rw [h, hself]
  · next h => rw [hother m h]

theorem Survey.eq_ofEntries {v : Survey} (context : v.context = contextBehind entries.reverse)
    (control : v.control = (openerOf .control entries).map fun opener =>
      .ofEntries (opener.byte 2) (classEntries .control entries))
    (version : v.uvcVersion = headerVersion (classEntries .control entries))
    (streaming : v.streaming = (streamNumbers entries).eraseDups.map (streamOf entries)) :
    v = .ofEntries entries := by
  obtain ⟨_, _, _, _⟩ := v
  simp only at context control version streaming
  subst context control version streaming
  rfl

/-- Where no interface is opened and none changes, all are what they were. -/
theorem streams_concat_same (hnone : ∀ n, ¬ e.Opens (.streaming n))
    (hsame : ∀ n, streamOf (entries ++ [e]) n = streamOf entries n) :
    (streamNumbers entries).eraseDups.map (streamOf entries) =
      (streamNumbers (entries ++ [e])).eraseDups.map (streamOf (entries ++ [e])) := by
  have hstreams : e.streams? = none :=
    Option.eq_none_iff_forall_ne_some.mpr fun n hn => hnone n (streams?_eq_some_iff.mp hn)
  rw [streamNumbers_concat, hstreams, Option.toList_none, List.append_nil]
  exact List.map_congr_left fun n _ => (hsame n).symm

/-! Interface entries. -/

theorem openerOf_concat_interface {context : DescriptorContext}
    (h : e.kind = DescriptorType.interface) :
    openerOf context (entries ++ [e]) =
      if e.opens = context then some e else openerOf context entries := by
  rw [openerOf, sectionsOf_concat_interface h]
  split
  · rw [List.getLast?_concat]
    rfl
  · rw [List.append_nil, openerOf]

/-- Another interface is what it was. -/
theorem streamOf_concat_interface {n : UInt8} (h : e.kind = DescriptorType.interface)
    (hne : e.opens ≠ .streaming n) : streamOf (entries ++ [e]) n = streamOf entries n := by
  rw [streamOf, sectionsOf_concat_interface h, classEntries_concat_interface h, if_neg hne,
    List.append_nil]
  rfl

/-- One more alternate setting. -/
theorem streamOf_concat_opener {n : UInt8} (h : e.Opens (.streaming n)) :
    streamOf (entries ++ [e]) n =
      { streamOf entries n with
        altSettings := (streamOf entries n).altSettings ++ [⟨e.byte 3, none⟩] } := by
  rw [streamOf, sectionsOf_concat_interface h.1, classEntries_concat_interface h.1, if_pos h.2,
    List.map_append]
  rfl

theorem enterControl_ofEntries (h : e.Opens .control) :
    (Survey.ofEntries entries).enterControl (e.byte 2) = .ofEntries (entries ++ [e]) := by
  have hother (n : UInt8) : e.opens ≠ .streaming n := by
    rw [h.2]
    exact nofun
  refine Survey.eq_ofEntries ?_ ?_ ?_ ?_
  · rw [contextBehind_concat, if_pos h.1, h.2]
    rfl
  · rw [openerOf_concat_interface h.1, if_pos h.2, classEntries_concat_interface h.1,
      Survey.enterControl, Survey.ofEntries, openerOf]
    -- The first control interface has nothing yet.
    rcases List.eq_nil_or_concat' (sectionsOf .control entries) with hnil | ⟨front, last, hlast⟩
    · rw [hnil, classEntries_of_nil hnil]
      rfl
    · rw [hlast, List.getLast?_concat]
      rfl
  · rw [classEntries_concat_interface h.1]
    rfl
  · exact streams_concat_same (fun n hn => hother n hn.2) fun n =>
      streamOf_concat_interface h.1 (hother n)

theorem enterStreaming_ofEntries {n : UInt8} (h : e.Opens (.streaming n)) :
    (Survey.ofEntries entries).enterStreaming n (e.byte 3) = .ofEntries (entries ++ [e]) := by
  refine Survey.eq_ofEntries ?_ ?_ ?_ ?_
  · rw [contextBehind_concat, if_pos h.1, h.2]
    rfl
  · rw [openerOf_concat_interface h.1, if_neg (by rw [h.2]; exact nofun),
      classEntries_concat_interface h.1, Survey.enterStreaming]
    dsimp only [Survey.modifyInterface]
    split <;> rfl
  · rw [classEntries_concat_interface h.1, Survey.enterStreaming]
    dsimp only [Survey.modifyInterface]
    split <;> rfl
  · -- The interface is known, or it comes last.
    have hknown : (if ((Survey.ofEntries entries).interface? n).isSome then Survey.ofEntries entries
        else { Survey.ofEntries entries with
          streaming := (Survey.ofEntries entries).streaming ++ [{ number := n }] }).streaming =
        (streamNumbers (entries ++ [e])).eraseDups.map (streamOf entries) := by
      have hfound : ((Survey.ofEntries entries).interface? n).isSome ↔
          n ∈ streamNumbers entries := by
        simp [Survey.interface?, Survey.ofEntries, streamOf, StreamingInterface.ofEntries]
      rw [streamNumbers_concat, streams?_eq_some_iff.mpr h, Option.toList_some, eraseDups_concat]
      by_cases hmem : n ∈ streamNumbers entries
      · rw [if_pos (hfound.mpr hmem), if_pos hmem]
        rfl
      · rw [if_neg (mt hfound.mp hmem), if_neg hmem, List.map_append, List.map_singleton,
          streamOf_of_not_mem hmem]
        rfl
    rw [Survey.enterStreaming]
    dsimp only [Survey.modifyInterface]
    rw [hknown]
    exact map_streamOf (streamOf_concat_opener h).symm fun m hm =>
      streamOf_concat_interface h.1 (by rw [h.2]; simpa using hm.symm)

theorem accepts_interface (h : e.kind = DescriptorType.interface) :
    Accepts ((Survey.ofEntries entries).readInterface e) (· = .ofEntries (entries ++ [e])) := by
  refine .needs fun hlong => ?_
  have hopens := e.opens_eq (by omega)
  rw [e.u8_eq, e.u8_eq, e.u8_eq, e.u8_eq] at *
  split
  case isTrue hcontrol =>
    rw [if_pos hcontrol] at hopens
    exact .ok (enterControl_ofEntries ⟨h, hopens⟩)
  case isFalse hcontrol =>
  rw [if_neg hcontrol] at hopens
  split
  case isTrue hstreaming =>
    rw [if_pos hstreaming] at hopens
    exact .ok (enterStreaming_ofEntries ⟨h, hopens⟩)
  case isFalse hstreaming =>
  rw [if_neg hstreaming] at hopens
  have hother (n : UInt8) : e.opens ≠ .streaming n := by simp [hopens]
  refine .ok (Survey.eq_ofEntries ?_ ?_ ?_ ?_)
  · rw [contextBehind_concat, if_pos h, hopens]
  · rw [openerOf_concat_interface h, if_neg (by simp [hopens]), classEntries_concat_interface h]
    rfl
  · rw [classEntries_concat_interface h]
    rfl
  · exact streams_concat_same (fun n hn => hother n hn.2) fun n =>
      streamOf_concat_interface h (hother n)

/-! Entries that go into the last section. -/

theorem not_opens (hkind : e.kind ≠ DescriptorType.interface) (context : DescriptorContext) :
    ¬ e.Opens context :=
  fun hopens => hkind hopens.1

theorem openerOf_concat_other {context : DescriptorContext}
    (hkind : e.kind ≠ DescriptorType.interface) :
    openerOf context (entries ++ [e]) = openerOf context entries := by
  rw [openerOf, ← List.getLast?_map, openerOf, ← List.getLast?_map,
    sectionsOf_concat_other hkind]
  split
  · rw [map_modifyLast_of_same (h := fun s : Entry × List Entry => s.1) fun s => by rfl]
  · rfl

/-- What is no endpoint and no entry of an interface leaves it as it is. -/
theorem streamOf_concat_other {n : UInt8} (hkind : e.kind ≠ DescriptorType.interface)
    (h : contextBehind entries.reverse = .streaming n →
      e.kind ≠ DescriptorType.endpoint ∧ e.kind ≠ DescriptorType.classInterface) :
    streamOf (entries ++ [e]) n = streamOf entries n := by
  rw [streamOf, altSettings_concat_other hkind fun hc => (h hc).1,
    classEntries_concat_other hkind fun hc => (h hc).2]
  rfl

/-- A survey that changes nothing but its streaming interfaces. -/
theorem eq_ofEntries_concat {streaming : List StreamingInterface}
    (hkind : e.kind ≠ DescriptorType.interface)
    (hcontrol : contextBehind entries.reverse = .control → e.kind ≠ DescriptorType.classInterface)
    (hstreaming : streaming =
      (streamNumbers (entries ++ [e])).eraseDups.map (streamOf (entries ++ [e]))) :
    { Survey.ofEntries entries with streaming } = Survey.ofEntries (entries ++ [e]) := by
  refine Survey.eq_ofEntries ?_ ?_ ?_ hstreaming
  · rw [contextBehind_concat, if_neg hkind]
    rfl
  · rw [openerOf_concat_other hkind, classEntries_concat_other hkind hcontrol]
    rfl
  · rw [classEntries_concat_other hkind hcontrol]
    rfl

/-- The interface of the context changes, and the others do not. -/
theorem modifyInterface_ofEntries {n : UInt8} {f : StreamingInterface → StreamingInterface}
    (hkind : e.kind ≠ DescriptorType.interface)
    (hcontext : contextBehind entries.reverse = .streaming n)
    (hself : f (streamOf entries n) = streamOf (entries ++ [e]) n) :
    (Survey.ofEntries entries).modifyInterface n f = Survey.ofEntries (entries ++ [e]) := by
  have hnone : e.streams? = none :=
    Option.eq_none_iff_forall_ne_some.mpr fun n hn =>
      not_opens hkind _ (streams?_eq_some_iff.mp hn)
  refine eq_ofEntries_concat hkind (by rw [hcontext]; exact nofun) ?_
  rw [streamNumbers_concat, hnone, Option.toList_none, List.append_nil]
  refine map_streamOf hself fun m hm => streamOf_concat_other hkind fun hother => ?_
  rw [hcontext] at hother
  cases hother
  exact absurd rfl hm

/-- Entries that mean nothing where they stand. -/
theorem ofEntries_concat_pass (hkind : e.kind ≠ DescriptorType.interface)
    (hendpoint : ∀ n, contextBehind entries.reverse = .streaming n →
      e.kind ≠ DescriptorType.endpoint)
    (hclass : contextBehind entries.reverse = .unset ∨ contextBehind entries.reverse = .other ∨
      e.kind ≠ DescriptorType.classInterface) :
    Survey.ofEntries entries = Survey.ofEntries (entries ++ [e]) := by
  refine eq_ofEntries_concat hkind (fun hcontext => ?_) ?_
  · simpa [hcontext] using hclass
  · refine streams_concat_same (fun n => not_opens hkind _) fun n =>
      streamOf_concat_other hkind fun hcontext => ⟨hendpoint n hcontext, ?_⟩
    simpa [hcontext] using hclass

theorem accepts_endpoint (h : e.kind = DescriptorType.endpoint) :
    Accepts ((Survey.ofEntries entries).readEndpoint e) (· = .ofEntries (entries ++ [e])) := by
  have hkind : e.kind ≠ DescriptorType.interface := by
    rw [h]
    decide
  have hclass : e.kind ≠ DescriptorType.classInterface := by
    rw [h]
    decide
  refine .needs fun hlong => ?_
  split
  · next n hcontext =>
    have hcontext : contextBehind entries.reverse = .streaming n := hcontext
    refine .ok (modifyInterface_ofEntries hkind hcontext ?_)
    rw [e.u8_eq, e.u8_eq, e.u16_eq, e.u8_eq, streamOf, streamOf,
      altSettings_concat_endpoint h hcontext,
      classEntries_concat_other hkind fun _ => hclass]
    rfl
  · next hother =>
    exact .ok (ofEntries_concat_pass hkind (fun n hn => absurd hn (hother n)) (.inr (.inr hclass)))

/-- Whatever is accepted, a frame has a format of its interface in front of it. -/
def Preceded (entries : List Entry) (e : Entry) : Prop :=
  ∀ n, BelongsTo n entries.reverse e → e.IsFrame →
    ∃ f ∈ classEntries (.streaming n) entries, f.IsFormat

theorem preceded_of_not_streaming (h : ∀ n, contextBehind entries.reverse ≠ .streaming n) :
    Preceded entries e :=
  fun n hbelongs => absurd hbelongs.2 (h n)

theorem accepts_classEntry (h : e.kind = DescriptorType.classInterface) :
    Accepts ((Survey.ofEntries entries).readClassEntry e)
      fun v => v = .ofEntries (entries ++ [e]) ∧ Preceded entries e := by
  have hkind : e.kind ≠ DescriptorType.interface := by
    rw [h]
    decide
  have hendpoint : e.kind ≠ DescriptorType.endpoint := by
    rw [h]
    decide
  rw [Survey.readClassEntry]
  have hcontext : (Survey.ofEntries entries).context = contextBehind entries.reverse := rfl
  rw [hcontext]
  cases hbehind : contextBehind entries.reverse with
  | control =>
    have hpreceded : Preceded entries e := preceded_of_not_streaming (by simp [hbehind])
    -- The context has been set by an entry, so there is a control interface to read on.
    have hset : DescriptorContext.control ≠ .unset := by decide
    obtain ⟨front, last, hlast⟩ := exists_sectionsOf hbehind hset
    have hopener : openerOf .control entries = some last.1 := by
      rw [openerOf, hlast, List.getLast?_concat]
      rfl
    have hcontrol : (Survey.ofEntries entries).control.getD {} =
        .ofEntries (last.1.byte 2) (classEntries .control entries) := by
      rw [Survey.ofEntries, hopener]
      rfl
    dsimp only
    rw [hcontrol]
    refine (accepts_controlEntry e _ _).map fun read hread => ⟨Survey.eq_ofEntries ?_ ?_ ?_ ?_, hpreceded⟩
    · rw [contextBehind_concat, if_neg hkind, hbehind]
    · rw [openerOf_concat_other hkind, hopener, classEntries_concat_self h hbehind hset, hread]
      rfl
    · rw [classEntries_concat_self h hbehind hset, hread]
    · refine streams_concat_same (fun n => not_opens hkind _) fun n =>
        streamOf_concat_other hkind fun hother => ?_
      rw [hbehind] at hother
      cases hother
  | streaming n =>
    dsimp only
    have hset : DescriptorContext.streaming n ≠ .unset := by simp
    obtain ⟨front, last, hlast⟩ := exists_sectionsOf hbehind hset
    rw [interface?_ofEntries (mem_streamNumbers.mpr (by simp [hlast]))]
    refine (accepts_streamingEntry n _ _ e).map fun s hs => ⟨?_, ?_⟩
    · refine modifyInterface_ofEntries hkind hbehind ?_
      rw [hs.1, streamOf, altSettings_concat_other hkind fun _ => hendpoint,
        classEntries_concat_self h hbehind hset]
    · intro m hbelongs hframe
      obtain rfl : n = m := by simpa [hbehind] using hbelongs.2
      exact hs.2 hframe
  | unset =>
    exact .ok ⟨ofEntries_concat_pass hkind (fun _ _ => hendpoint) (.inl hbehind),
      preceded_of_not_streaming (by simp [hbehind])⟩
  | other =>
    exact .ok ⟨ofEntries_concat_pass hkind (fun _ _ => hendpoint) (.inr (.inl hbehind)),
      preceded_of_not_streaming (by simp [hbehind])⟩

theorem accepts_read (entries : List Entry) (e : Entry) :
    Accepts ((Survey.ofEntries entries).read e)
      fun v => v = .ofEntries (entries ++ [e]) ∧ Preceded entries e := by
  rw [Survey.read]
  by_cases hclass : e.kind = DescriptorType.classInterface
  · simpa +decide [hclass] using accepts_classEntry hclass
  have hpreceded : Preceded entries e := fun n hbelongs => absurd hbelongs.1 hclass
  split
  case isTrue h =>
    refine .needs fun _ => .ok ⟨ofEntries_concat_pass ?_ (fun _ _ => ?_) (.inr (.inr hclass)), hpreceded⟩
    · rw [h]
      decide
    · rw [h]
      decide
  split
  case isTrue h => exact fun v hv => ⟨accepts_interface h v hv, hpreceded⟩
  split
  case isTrue h => exact fun v hv => ⟨accepts_endpoint h v hv, hpreceded⟩
  case isFalse hinterface hendpoint =>
    exact .ok ⟨ofEntries_concat_pass hinterface (fun _ _ => hendpoint) (.inr (.inr hclass)), hpreceded⟩

end Step

end UsbVideo
