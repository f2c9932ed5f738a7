import Mathlib.Data.List.Nodup
import UsbVideo.Proofs.Descriptor.Conformance
import UsbVideo.Proofs.Descriptor.Indexed

/-!
# The parser accepts its grammar and reads nothing else

    block ──tile──▶ entries ──read──▶ survey      parseConfiguration
      │                                 │
    block ──────────scan────────────▶ draft       Indexed.parse

A draft is a survey whose context is a place in its list of interfaces (`Located`). The places stay
valid, so the parser by index never leaves a list and has the outcome of the other (`Indexed.parse_eq`).
With what is known of that outcome this is `parseConfiguration_decides`.
-/

namespace UsbVideo

namespace Indexed

/-! ### Drafts and surveys -/

/-- A place in a list of interfaces and the context that names it. -/
inductive Points (streaming : List StreamingInterface) : Place → DescriptorContext → Prop where
  | unset : Points streaming .unset .unset
  | control : Points streaming .control .control
  | other : Points streaming .other .other
  /-- The alternate setting is the latest of its interface. -/
  | streaming {stream alt : Nat} {s : StreamingInterface} (hs : streaming[stream]? = some s)
      (halt : s.altSettings.length = alt + 1) :
      Points streaming (.streaming stream alt) (.streaming s.number)

/-- A survey with a place for its context. -/
def draft (place : Place) (v : Survey) : Draft := ⟨place, v.control, v.uvcVersion, v.streaming⟩

/-- The place is that of the context, and interfaces are told apart by their numbers. -/
structure Located (place : Place) (v : Survey) : Prop where
  distinct : (v.streaming.map (·.number)).Nodup
  points : Points v.streaming place v.context

/-- Outcomes that agree. -/
inductive Tracks : Reading Draft → Except DescriptorError Survey → Prop where
  | ok {place : Place} {v : Survey} (h : Located place v) : Tracks (pure (draft place v)) (.ok v)
  | error (flaw : DescriptorError) : Tracks (.of (.error flaw)) (.error flaw)

section Drafts

variable {place : Place} {v : Survey} {e : Entry}

theorem Tracks.require {needed : Nat} {part : DescriptorPart} {next : Unit → Reading Draft}
    {go : needed ≤ e.size → Except DescriptorError Survey} (h : ∀ hlong, Tracks (next ()) (go hlong)) :
    Tracks ((extent e).require needed part >>= next) (e.needs needed part go) := by
  have hsize : (extent e).bytes.length = e.size := rfl
  rw [Extent.require, Entry.needs, hsize]
  by_cases hlong : needed ≤ e.size
  · rw [if_neg (Nat.not_lt.mpr hlong), dif_pos hlong, pure_bind]
    exact h hlong
  · rw [if_pos (Nat.lt_of_not_le hlong), dif_neg hlong]
    exact .error _

/-- An outcome, and drafts made from it. -/
theorem Tracks.bind {α : Type} {a : Reading α} {x : Except DescriptorError α} {f : α → Reading Draft}
    {g : α → Except DescriptorError Survey} (h : a = .of x)
    (hf : ∀ r, x = .ok r → Tracks (f r) (g r)) : Tracks (a >>= f) (x >>= g) := by
  rw [h]
  cases x with
  | error flaw => exact .error flaw
  | ok r => exact hf r rfl

/-- An interface is the only one of its number. -/
theorem number_ne {streaming : List StreamingInterface} (h : (streaming.map (·.number)).Nodup)
    {i j : Nat} {s t : StreamingInterface} (hs : streaming[i]? = some s) (ht : streaming[j]? = some t)
    (hij : i ≠ j) : t.number ≠ s.number := by
  obtain ⟨hi, rfl⟩ := List.getElem?_eq_some_iff.mp hs
  obtain ⟨hj, rfl⟩ := List.getElem?_eq_some_iff.mp ht
  intro heq
  have hget : (streaming.map (·.number)).get ⟨i, by simpa⟩ =
      (streaming.map (·.number)).get ⟨j, by simpa⟩ := by simpa using heq.symm
  exact hij (h.getElem_inj_iff.mp hget)

/-- To change an interface by its number is to change it at its place. -/
theorem streaming_modifyInterface (h : (v.streaming.map (·.number)).Nodup) {i : Nat}
    {s : StreamingInterface} (hs : v.streaming[i]? = some s)
    (f : StreamingInterface → StreamingInterface) :
    (v.modifyInterface s.number f).streaming = v.streaming.set i (f s) := by
  rw [Survey.modifyInterface]
  refine List.ext_getElem? fun j => ?_
  rw [List.getElem?_map, List.getElem?_set]
  split
  · next hij =>
    subst hij
    obtain ⟨hi, hget⟩ := List.getElem?_eq_some_iff.mp hs
    simp [hi, hget]
  · next hij =>
    cases ht : v.streaming[j]? with
    | none => rfl
    | some t => rw [Option.map_some, if_neg (number_ne h hs ht hij)]

theorem interface?_eq (h : (v.streaming.map (·.number)).Nodup) {i : Nat} {s : StreamingInterface}
    (hs : v.streaming[i]? = some s) : v.interface? s.number = some s := by
  obtain ⟨hi, hget⟩ := List.getElem?_eq_some_iff.mp hs
  rw [Survey.interface?, List.find?_eq_some_iff_getElem]
  refine ⟨by simp, i, hi, hget, fun j hj => ?_⟩
  have ht : v.streaming[j]? = some v.streaming[j] := List.getElem?_eq_getElem _
  simpa using number_ne h hs ht (by omega)

/-- An interface changed at its place, with its number kept. -/
theorem Located.set (h : Located place v) {stream : Nat} {s : StreamingInterface}
    (hs : v.streaming[stream]? = some s) {f : StreamingInterface → StreamingInterface}
    (hf : ∀ t, t.number = s.number → (f t).number = s.number) {alt : Nat}
    (halt : (f s).altSettings.length = alt + 1) :
    Tracks (pure ⟨.streaming stream alt, v.control, v.uvcVersion, v.streaming.set stream (f s)⟩)
      (.ok { v.modifyInterface s.number f with context := .streaming s.number }) := by
  have hset := streaming_modifyInterface h.distinct hs f
  have hnumbers : (v.modifyInterface s.number f).streaming.map (·.number) =
      v.streaming.map (·.number) := by
    rw [Survey.modifyInterface, List.map_map]
    refine List.map_congr_left fun t _ => ?_
    rw [Function.comp_apply]
    split
    · next ht => rw [hf t ht, ht]
    · rfl
  rw [← hset]
  refine .ok (v := { v.modifyInterface s.number f with context := .streaming s.number })
    ⟨hnumbers ▸ h.distinct, ?_⟩
  obtain ⟨hi, -⟩ := List.getElem?_eq_some_iff.mp hs
  have hfs : (v.modifyInterface s.number f).streaming[stream]? = some (f s) := by
    rw [hset]
    exact List.getElem?_set_self hi
  have hpoints := Points.streaming hfs halt
  rwa [hf s rfl] at hpoints

/-- One more alternate setting of an interface in its place. -/
theorem Located.addAlt (h : Located place v) {stream : Nat} {s : StreamingInterface}
    (hs : v.streaming[stream]? = some s) (alt : UInt8) :
    Tracks
      (fetch v.streaming stream >>= fun s =>
        pure ⟨.streaming stream s.altSettings.length, v.control, v.uvcVersion,
          v.streaming.set stream { s with altSettings := s.altSettings ++ [⟨alt, none⟩] }⟩)
      (.ok { v.modifyInterface s.number fun s =>
          { s with altSettings := s.altSettings ++ [⟨alt, none⟩] }
        with context := .streaming s.number }) := by
  rw [fetch_some hs, pure_bind]
  exact h.set hs (f := fun s => { s with altSettings := s.altSettings ++ [⟨alt, none⟩] })
    (fun _ ht => ht) (List.length_append ..)

/-- The interface an entry enters is in its place, be it known or new. -/
theorem Located.enterStreaming (h : Located place v) (number alt : UInt8) :
    Tracks ((draft place v).enterStreaming number alt) (.ok (v.enterStreaming number alt)) := by
  rw [Draft.enterStreaming, draft, Survey.enterStreaming]
  cases hfound : v.streaming.findIdx? (·.number == number) with
  | some stream =>
    obtain ⟨hi, hn, -⟩ := List.findIdx?_eq_some_iff_getElem.mp hfound
    have hs : v.streaming[stream]? = some v.streaming[stream] := List.getElem?_eq_getElem hi
    obtain rfl : v.streaming[stream].number = number := by simpa using hn
    rw [if_pos (by rw [interface?_eq h.distinct hs]; rfl)]
    exact h.addAlt hs alt
  | none =>
    have hnew : ∀ s ∈ v.streaming, s.number ≠ number := by simpa using hfound
    have hnone : v.interface? number = none := by simpa [Survey.interface?] using hnew
    rw [if_neg (by simp [hnone])]
    have hlocated : Located .other
        { v with streaming := v.streaming ++ [{ number }], context := .other } := by
      refine ⟨?_, .other⟩
      rw [List.map_append]
      refine List.nodup_append.mpr ⟨h.distinct, by simp, ?_⟩
      simpa using hnew
    have hs : (v.streaming ++ [{ number : StreamingInterface }])[v.streaming.length]? =
        some { number } := by simp
    exact hlocated.addAlt hs alt

theorem readInterface_tracks (h : Located place v) :
    Tracks ((draft place v).readInterface (extent e)) (v.readInterface e) := by
  refine .require fun hlong => ?_
  rw [fetch_bind e (by omega), fetch_bind e (by omega), fetch_bind e (by omega),
    fetch_bind e (by omega)]
  split
  · exact .ok (v := v.enterControl (e.u8 2)) ⟨h.distinct, .control⟩
  split
  · exact h.enterStreaming _ _
  · exact .ok (v := { v with context := .other }) ⟨h.distinct, .other⟩

theorem modifyLast_eq_set {α : Type} {xs : List α} {i : Nat} {a : α} (hlength : xs.length = i + 1)
    (ha : xs[i]? = some a) (f : α → α) : Survey.modifyLast f xs = xs.set i (f a) := by
  rcases List.eq_nil_or_concat' xs with rfl | ⟨front, last, rfl⟩
  · simp at hlength
  · have hi : front.length = i := by simpa using hlength
    subst hi
    have hlast : last = a := by simpa using ha
    rw [Survey.modifyLast, List.getLast?_concat, hlast]
    simp

theorem readEndpoint_tracks (h : Located place v) :
    Tracks ((draft place v).readEndpoint (extent e)) (v.readEndpoint e) := by
  refine .require fun hlong => ?_
  have hpoints := h.points
  generalize hcontext : v.context = context at hpoints
  cases hpoints with
  | @streaming stream alt s hs halt =>
    obtain ⟨a, ha⟩ : ∃ a, s.altSettings[alt]? = some a := ⟨_, List.getElem?_eq_getElem (by omega)⟩
    let settle := Survey.settleEndpoint ⟨e.u8 2, .ofAttributes (e.u8 3), e.u16 4, e.u8 6⟩
    have hlatest := modifyLast_eq_set halt ha settle
    have hlength : (Survey.modifyLast settle s.altSettings).length = alt + 1 := by
      rw [hlatest, List.length_set, halt]
    have hset := h.set hs
      (f := fun s => { s with altSettings := Survey.modifyLast settle s.altSettings })
      (fun _ ht => ht) hlength
    dsimp only [draft]
    rw [fetch_bind e (by omega), fetch_bind e (by omega), u16_bind e (by omega),
      fetch_bind e (by omega), fetch_some hs, pure_bind, fetch_some ha, pure_bind, ← hlatest]
    rw [← hcontext] at hset
    exact hset
  | unset => exact .ok h
  | control => exact .ok h
  | other => exact .ok h

/-- What a reader accepts, it may rely on. -/
theorem needs_ok {α : Type} {needed : Nat} {part : DescriptorPart}
    {go : needed ≤ e.size → Except DescriptorError α} {a : α}
    (h : e.needs needed part go = .ok a) : ∃ hlong, go hlong = .ok a := by
  rw [Entry.needs] at h
  split at h
  · next hlong => exact ⟨hlong, h⟩
  · cases h

/-- Formats and frames leave the settings of an interface alone. -/
theorem altSettings_readStreamingEntry {s s' : StreamingInterface}
    (h : UsbVideo.readStreamingEntry s e = .ok s') :
    s'.number = s.number ∧ s'.altSettings = s.altSettings := by
  have haddFormat {format : FormatDescriptor} (h : s.addFormat e format = .ok s') :
      s'.number = s.number ∧ s'.altSettings = s.altSettings := by
    rw [StreamingInterface.addFormat] at h
    split at h
    · split at h
      · cases h
      · cases h
        exact ⟨rfl, rfl⟩
    · cases h
      exact ⟨rfl, rfl⟩
  rw [UsbVideo.readStreamingEntry] at h
  split at h
  · cases h
  split at h
  · obtain ⟨_, h⟩ := needs_ok h
    cases h
    exact ⟨rfl, rfl⟩
  split at h
  · obtain ⟨_, h⟩ := needs_ok h
    exact haddFormat h
  split at h
  · obtain ⟨_, h⟩ := needs_ok h
    exact haddFormat h
  split at h
  · obtain ⟨_, h⟩ := needs_ok h
    exact haddFormat h
  split at h
  · rw [StreamingInterface.readFrameEntry] at h
    split at h
    · cases h
    · split at h
      · next format _ _ =>
        cases hframe : UsbVideo.readFrame e _ with
        | error flaw =>
          rw [hframe] at h
          cases h
        | ok frame =>
          rw [hframe] at h
          cases h
          exact ⟨rfl, rfl⟩
      · cases h
  · cases h
    exact ⟨rfl, rfl⟩

theorem readClassEntry_tracks (h : Located place v) :
    Tracks ((draft place v).readClassEntry (extent e)) (v.readClassEntry e) := by
  have hpoints := h.points
  rw [Survey.readClassEntry]
  generalize hcontext : v.context = context at hpoints
  cases hpoints with
  | @streaming stream alt s hs halt =>
    dsimp only [draft, Draft.readClassEntry]
    rw [fetch_some hs, pure_bind, interface?_eq h.distinct hs]
    refine .bind (readStreamingEntry_eq s e) fun s' hs' => ?_
    obtain ⟨hnumber, halts⟩ := altSettings_readStreamingEntry hs'
    have hset := h.set hs (f := fun _ => s') (fun _ _ => hnumber) (halts ▸ halt)
    rw [← hcontext] at hset
    exact hset
  | control =>
    dsimp only [draft, Draft.readClassEntry]
    refine .bind (readControlEntry_eq _ e _) fun read _ => ?_
    exact .ok (v := { v with context := .control, uvcVersion := read.1, control := some read.2 })
      ⟨h.distinct, .control⟩
  | unset => exact .ok h
  | other => exact .ok h

theorem read_tracks (h : Located place v) :
    Tracks ((draft place v).read (extent e)) (v.read e) := by
  have hkind : e.u8 1 e.two_le = e.kind := rfl
  rw [Draft.read, fetch_bind e e.two_le, hkind, Survey.read]
  split
  · refine .require fun hlong => ?_
    rw [fetch_bind e (by omega), fetch_bind e (by omega)]
    exact .ok h
  split
  · exact readInterface_tracks h
  split
  · exact readEndpoint_tracks h
  split
  · exact readClassEntry_tracks h
  · exact .ok h

end Drafts

/-! ### A whole block -/

/-- From any entry on, all reads stay in the block. -/
theorem scan_eq {place : Place} {v : Survey} (block : Bytes) (offset : Nat) (h : Located place v) :
    scan block offset (draft place v) =
      .of ((if offset = 0 then checkFirst (tile offset (block.drop offset)).1 else .ok ()) >>=
        fun _ => v.finish block.length (tile offset (block.drop offset))) := by
  rw [scan]
  split
  case isFalse hend =>
    rw [List.drop_eq_nil_of_le (Nat.le_of_not_lt hend), tile]
    split <;> rfl
  case isTrue hoffset =>
  have hlength : (block.drop offset).length = block.length - offset := List.length_drop
  rcases hrest : block.drop offset with _ | ⟨length, _ | ⟨kind, more⟩⟩
  case nil =>
    rw [hrest, List.length_nil] at hlength
    omega
  case cons.nil =>
    rw [hrest, List.length_singleton] at hlength
    rw [if_pos (by omega), tile]
    split <;> rfl
  case cons.cons =>
    rw [hrest, List.length_cons, List.length_cons] at hlength
    have hbyte : block[offset]? = some length := by
      have := congrArg (·[0]?) hrest
      simpa using this
    dsimp only
    rw [← hlength, if_neg (by omega), fetch_some hbyte, pure_bind]
    by_cases hshort : length.toNat < 2
    · rw [dif_pos hshort, tile, dif_pos hshort]
      split <;> rfl
    rw [dif_neg hshort]
    let front := (length :: kind :: more).take length.toNat
    have hfront : front.length = min length.toNat (more.length + 1 + 1) := List.length_take
    by_cases hlong : more.length + 1 + 1 < length.toNat
    · rw [if_pos hlong, tile, dif_neg hshort]
      dsimp only
      rw [dif_pos (show front.length < length.toNat by omega)]
      split <;> rfl
    -- Here an entry stands in front of the rest.
    have hmeasured : Measured front := by
      refine ⟨by omega, ?_⟩
      rw [List.head?_take, if_neg (by omega), hfront]
      show some length.toNat = _
      congr 1
      omega
    let e : Entry := ⟨offset, front, hmeasured.two_le⟩
    have hslice : slice block offset length.toNat = pure front := by
      rw [slice, if_pos (by omega), hrest]
    have htile := tile_append hmeasured offset ((length :: kind :: more).drop length.toNat)
    rw [List.take_append_drop] at htile
    have hnext : (length :: kind :: more).drop length.toNat = block.drop (offset + length.toNat) := by
      rw [← hrest, List.drop_drop]
    have hsize : front.length = length.toNat := by omega
    have hkind : fetch front 1 = pure e.kind := fetch_eq e e.two_le
    rw [if_neg hlong, hslice, pure_bind, hkind, pure_bind, htile, Survey.finish_cons, checkFirst,
      hsize, hnext]
    by_cases hno : offset = 0 ∧ e.kind ≠ DescriptorType.configuration
    · rw [if_pos hno, if_pos hno.1, if_neg hno.2]
      rfl
    have hyes : (if offset = 0 then
        if e.kind = DescriptorType.configuration then .ok ()
        else .error ⟨0, .notAConfiguration e.kind⟩
      else .ok () : Except DescriptorError Unit) = .ok () := by
      split
      · next hzero => exact if_pos (Decidable.not_not.mp fun hne => hno ⟨hzero, hne⟩)
      · rfl
    rw [if_neg hno, hyes]
    show (Draft.read (draft place v) (extent e) >>= scan block (offset + length.toNat)) =
      .of (v.read e >>= fun v' => v'.finish block.length (tile _ (block.drop _)))
    have htracks := read_tracks h (e := e)
    generalize (draft place v).read (extent e) = read, v.read e = read' at htracks
    cases htracks with
    | error flaw => rfl
    | ok h' =>
      refine (scan_eq block (offset + length.toNat) h').trans ?_
      rw [if_neg (by omega)]
      rfl
termination_by block.length - offset

/-- No read leaves the block or a list, whatever the bytes are. -/
theorem parse_eq (block : Bytes) : parse block = .of (parseConfiguration block) := by
  have hnothing : Located .unset {} := ⟨List.nodup_nil, .unset⟩
  exact scan_eq block 0 hnothing

end Indexed

/-- A block is accepted exactly if it is grammatical, and it is refused exactly where it breaks a rule
first, or at its end if it breaks none. No read leaves it on the way. -/
theorem parseConfiguration_decides (block : Bytes) :
    Indexed.parse block = some (parseConfiguration block) ∧
      ((∃ catalog, parseConfiguration block = .ok catalog) ↔ Grammatical block) ∧
      ∀ offset, (∃ flaw, parseConfiguration block = .error ⟨offset, flaw⟩) ↔
        Breaks block offset ∨ (offset = block.length ∧ Incomplete block) := by
  refine ⟨Indexed.parse_eq block, ⟨?_, parseConfiguration_grammatical⟩, fun offset => ⟨?_, ?_⟩⟩
  · rintro ⟨catalog, hok⟩
    rcases grammatical_or block with h | h | ⟨offset, h⟩
    · exact h
    · obtain ⟨flaw, herror⟩ := parseConfiguration_incomplete h
      cases hok.symm.trans herror
    · obtain ⟨flaw, herror⟩ := parseConfiguration_breaks h
      cases hok.symm.trans herror
  · rintro ⟨flaw, herror⟩
    rcases grammatical_or block with h | h | ⟨offset', h⟩
    · obtain ⟨catalog, hok⟩ := parseConfiguration_grammatical h
      cases hok.symm.trans herror
    · obtain ⟨flaw', herror'⟩ := parseConfiguration_incomplete h
      cases herror.symm.trans herror'
      exact .inr ⟨rfl, h⟩
    · obtain ⟨flaw', herror'⟩ := parseConfiguration_breaks h
      cases herror.symm.trans herror'
      exact .inl h
  · rintro (h | ⟨rfl, h⟩)
    · exact parseConfiguration_breaks h
    · exact parseConfiguration_incomplete h

end UsbVideo
