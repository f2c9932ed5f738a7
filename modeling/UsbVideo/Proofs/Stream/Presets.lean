import UsbVideo.Proofs.Stream.Adequate

/-!
# Presets spelled out

An empty request stands for a preset, and a request that says the same in all its fields does not stand
for one. Both are resolved by the same choice, and only then does it make a difference who asks: an
alternate setting that a host spells out has to be there, and one of a preset is a hint.

    spelled out  ──pick──▶  choice  ──checkAlt──▶  resolved
    empty        ──pick──▶  choice  ────────────▶  resolved, with a hint

So where a preset may be spelled out nothing is changed by it, up to the configuration of the stream
(`resolve_spelled_out`). For the hint is looked at only where the setting is not there (`finalize_hint`).
-/

namespace UsbVideo

namespace StreamRequest

variable {r : StreamRequest}

/-- An alternate setting of a preset is never refused. -/
theorem checkAlt_fromPreset (s : StreamingInterface) (bulk : Bool) :
    (r.checkAlt s bulk true).result = .ok () := by
  apply checkAlt_ok.mpr
  intro _ hhost
  cases hhost

/-- Nothing is refused here but the alternate setting. -/
theorem checkAlt_error {s : StreamingInterface} {bulk fromPreset : Bool} {e : StreamError}
    (h : (r.checkAlt s bulk fromPreset).result = .error e) :
    ∃ n ∈ r.altSetting, e = .unsupportedFormat (.altNotIsochronous n) := by
  unfold checkAlt at h
  cases halt : r.altSetting with
  | none =>
    rw [halt] at h
    cases h
  | some n =>
    rw [halt] at h
    dsimp only at h
    split at h
    · cases h
    · cases h
      exact ⟨n, rfl, rfl⟩

/-- The request of a preset is not empty, so it stands for itself. -/
theorem isEmpty_request (preset : Preset) : preset.request.isEmpty = false := by
  cases preset <;> decide

end StreamRequest

open StreamRequest

variable {catalog : Catalog} {settings : TransferSettings}

/-- The empty request is resolved by what is picked for its preset, and by nothing else. -/
theorem resolve_empty (preset : Option Preset) :
    (resolve {} preset catalog settings).result =
      ((preset.getD .standard).request.pick catalog).result >>= fun c =>
        .ok ((preset.getD .standard).request.fill catalog settings true c) := by
  have heffective : ({} : StreamRequest).effective preset = (preset.getD .standard).request := rfl
  have hempty : ({} : StreamRequest).isEmpty = true := rfl
  rw [resolve_result, heffective, hempty, Noted.result_bind]
  apply bind_congr
  intro c
  rw [Noted.result_bind, checkAlt_fromPreset]
  rfl

/-! ### Hints -/

namespace ResolvedRequest

variable {r : ResolvedRequest}

/-- A setting that is there is chosen, whether it is a hint or not. -/
theorem chooseAlt_hint {alts : List AltSetting} (hthere : ∀ n ∈ r.altSetting, ∃ b ∈ alts, b.number = n)
    (hint : Bool) (maxPayload : Nat) :
    { r with altIsHint := hint }.chooseAlt alts maxPayload = r.chooseAlt alts maxPayload := by
  unfold chooseAlt
  dsimp only
  cases halt : r.altSetting with
  | none => rfl
  | some n =>
    obtain ⟨b, hb, hnumber⟩ := hthere n halt
    have hsome : (alts.find? (·.number == n)).isSome = true := by
      apply List.find?_isSome.mpr
      exact ⟨b, hb, beq_iff_eq.mpr hnumber⟩
    obtain ⟨found, hfound⟩ := Option.isSome_iff_exists.mp hsome
    dsimp only
    rw [hfound]

/-- What is prepared without a hint comes to the same configuration with one, with the same lines in the
log. -/
theorem finalize_hint {s : StreamingInterface} (hprepared : r.Prepared s) (hhost : r.altIsHint = false)
    (hfound : catalog.interface? r.interface = some s) (hint : Bool) (answer : ProbeBlock) :
    { r with altIsHint := hint }.finalize catalog answer = r.finalize catalog answer := by
  unfold finalize
  dsimp only
  apply Noted.bind_congr
  intro t ht
  rw [foundOr_ok, hfound] at ht
  cases ht
  by_cases hbulk : r.bulk = true
  · rw [if_pos hbulk, if_pos hbulk]
    rfl
  · have hisochronous : { r with altIsHint := hint }.chooseIsochronous s
        answer.maxPayloadTransferSize.toNat =
          r.chooseIsochronous s answer.maxPayloadTransferSize.toNat := by
      unfold chooseIsochronous
      rw [chooseAlt_hint]
      intro n hn
      apply StreamingInterface.hasAlt_iff.mp
      exact hprepared.alt (Bool.eq_false_of_not_eq_true hbulk) hhost n hn
    rw [if_neg hbulk, if_neg hbulk, hisochronous]

end ResolvedRequest

/-! ### Spelling out -/

/-- **Spelling out a preset changes nothing.** What a preset is resolved to when it is spelled out is what
the empty request is resolved to, but for the hint, and both have the same configuration, whatever the
device answers. If the preset is refused when it is spelled out, and not for its alternate setting, the
empty request is refused for the same reason. -/
theorem resolve_spelled_out (preset other : Option Preset) (catalog : Catalog)
    (settings : TransferSettings) :
    let spelled := (preset.getD .standard).request
    (∀ r, (resolve spelled other catalog settings).result = .ok r →
      r.altIsHint = false ∧
      (resolve {} preset catalog settings).result = .ok { r with altIsHint := true } ∧
      ∀ answer, { r with altIsHint := true }.finalize catalog answer = r.finalize catalog answer) ∧
    ∀ e, (resolve spelled other catalog settings).result = .error e →
      (∀ n ∈ spelled.altSetting, e ≠ .unsupportedFormat (.altNotIsochronous n)) →
      (resolve {} preset catalog settings).result = .error e := by
  intro spelled
  have hempty : spelled.isEmpty = false := isEmpty_request _
  have heffective : spelled.effective other = spelled := effective_of_isEmpty_eq_false hempty
  constructor
  · intro r hr
    obtain ⟨c, hc, rfl⟩ := resolve_ok_iff.mp hr
    have hprepared : ((spelled.effective other).fill catalog settings spelled.isEmpty c).Prepared
        c.interface := hc.prepared
    rw [heffective, hempty] at hc hprepared ⊢
    have hfound := (selectInterface_ok.mp hc.interface).2.2
    refine ⟨rfl, ?_, ?_⟩
    · apply resolve_ok_iff.mpr
      exact ⟨c, { hc with alt := checkAlt_fromPreset c.interface c.bulk }, rfl⟩
    · intro answer
      exact ResolvedRequest.finalize_hint hprepared rfl hfound true answer
  · intro e he hother
    rw [resolve_result, heffective] at he
    rw [resolve_empty]
    rcases Noted.bind_error.mp he with hpick | ⟨c, -, he⟩
    · -- Nothing was picked, and that is the same for both.
      show (spelled.pick catalog).result >>= _ = _
      rw [hpick]
      rfl
    · -- Something was, and so it is the alternate setting that was refused.
      rcases Noted.bind_error.mp he with hcheck | ⟨_, -, he⟩
      · obtain ⟨n, hn, hrefused⟩ := checkAlt_error hcheck
        exact absurd hrefused (hother n hn)
      · cases he

/-- A camera with one size of pictures, which is that of one preset and not of the other. -/
theorem resolve_spelled_out_size :
    let frame : FrameDescriptor := ⟨1, 640, 480, 614400, 333333, .discrete [333333]⟩
    let format : FormatDescriptor := ⟨1, .mjpeg, 16, 1, [frame]⟩
    let camera : StreamingInterface :=
      { number := 1, formats := [format]
        altSettings := [⟨0, none⟩, ⟨4, some ⟨0x81, .isochronous, 1024, 1⟩⟩] }
    let catalog : Catalog := { uvcVersion := 0x0110, control := {}, streaming := [camera] }
    let reason : StreamError := .unsupportedFormat (.noFrameOfSize .mjpeg 800 600)
    (∃ r, (resolve Preset.brioStable.request none catalog {}).result = .ok r ∧ r.frame = frame ∧
      (resolve {} (some .brioStable) catalog {}).result = .ok { r with altIsHint := true } ∧
      { r with altIsHint := true }.finalize catalog r.probe = r.finalize catalog r.probe) ∧
    (resolve Preset.standard.request none catalog {}).result = .error reason ∧
    (resolve {} none catalog {}).result = .error reason := by
  intro frame format camera catalog reason
  have hover : Preset.brioStable.request.overBulk camera = false := by
    have hsome : camera.isochronousAlts.isEmpty = false :=
      StreamingInterface.isEmpty_isochronousAlts.mpr (by decide)
    show (camera.isochronousAlts.isEmpty && camera.bulkEndpoint?.isSome) = false
    rw [hsome]
    rfl
  have hchosen : Preset.brioStable.request.Chooses catalog false
      ⟨camera, format, frame, 333333, false⟩ := {
    interface := rfl
    format := rfl
    frame := rfl
    interval := rfl
    bulk := selectBulk_ok.mpr ⟨hover, nofun, nofun⟩
    alt := checkAlt_ok.mpr fun _ _ => by rintro _ ⟨⟩; decide }
  obtain ⟨haccepted, -⟩ := resolve_spelled_out (some .brioStable) none catalog {}
  obtain ⟨-, hrefused⟩ := resolve_spelled_out none none catalog {}
  have hresolved : (resolve Preset.brioStable.request none catalog {}).result = .ok _ :=
    resolve_of_chooses (isEmpty_request _) hchosen
  have hreason : (resolve Preset.standard.request none catalog {}).result = .error reason := rfl
  constructor
  · obtain ⟨-, hempty, hfinal⟩ := haccepted _ hresolved
    exact ⟨_, hresolved, rfl, hempty, hfinal _⟩
  · refine ⟨hreason, hrefused reason hreason ?_⟩
    intro n _
    simp [reason]

end UsbVideo
