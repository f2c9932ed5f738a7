import Mathlib.Order.Bounds.Basic
import UsbVideo.Proofs.Stream.Resolution
import UsbVideo.Stream.Config

/-!
# The transport is adequate

What is left open until the device has answered the probe is fixed so that the stream fits:

    bulk          packets enough for a whole payload, or as many as wanted
    isochronous   the alternate setting asked for, or the one that fits best (`smallestSufficient_best`)

The interface was chosen so that this works out: it fails only for a packet size of zero, or where there
is nothing to choose from (`finalize_adequate`).
-/

namespace UsbVideo

/-! ### The setting that fits best -/

/-- Of these settings, it has the least capacity that holds `need` bytes, or else the greatest. -/
structure AltSetting.FitsBest (alts : List AltSetting) (need : Nat) (alt : AltSetting) : Prop where
  mem : alt ∈ alts
  least : need ≤ alt.capacity → ∀ b ∈ alts, need ≤ b.capacity → alt.capacity ≤ b.capacity
  greatest : alt.capacity < need → ∀ b ∈ alts, b.capacity ≤ alt.capacity

/-- The order of the settings does not matter. -/
theorem AltSetting.FitsBest.of_mem_iff {alts others : List AltSetting} {need : Nat} {alt : AltSetting}
    (h : alt.FitsBest alts need) (hsame : ∀ b, b ∈ alts ↔ b ∈ others) : alt.FitsBest others need where
  mem := (hsame alt).mp h.mem
  least henough b hb := h.least henough b ((hsame b).mpr hb)
  greatest hless b hb := h.greatest hless b ((hsame b).mpr hb)

section

variable {alts : List AltSetting} {need : Nat} {alt : AltSetting}
  (hsorted : alts.Pairwise (·.capacity ≤ ·.capacity))

include hsorted

theorem AltSetting.least_of_find? (h : alts.find? (need ≤ ·.capacity) = some alt) :
    ∀ b ∈ alts, need ≤ b.capacity → alt.capacity ≤ b.capacity := by
  obtain ⟨-, before, after, rfl, hbefore⟩ := List.find?_eq_some_iff_append.mp h
  intro b hb hneed
  -- Those before are too small, and those after are no smaller.
  rcases List.mem_append.mp hb with hb | hb
  · simpa [hneed] using hbefore b hb
  · rcases List.mem_cons.mp hb with rfl | hb
    · exact Nat.le_refl _
    · exact (List.pairwise_cons.mp (List.pairwise_append.mp hsorted).2.1).1 b hb

theorem AltSetting.greatest_of_getLast? (h : alts.getLast? = some alt) :
    ∀ b ∈ alts, b.capacity ≤ alt.capacity := by
  obtain ⟨before, rfl⟩ := List.getLast?_eq_some_iff.mp h
  intro b hb
  rcases List.mem_append.mp hb with hb | hb
  · exact (List.pairwise_append.mp hsorted).2.2 b hb alt (List.mem_singleton.mpr rfl)
  · rw [List.mem_singleton.mp hb]

end

theorem AltSetting.capacity_eq {alt : AltSetting} {e : Endpoint} (h : alt.endpoint = some e) :
    alt.capacity = e.capacity := by
  rw [AltSetting.capacity, h]

theorem StreamingInterface.sorted_isochronousAlts (s : StreamingInterface) :
    s.isochronousAlts.Pairwise (·.capacity ≤ ·.capacity) := by
  refine (List.pairwise_mergeSort ?_ ?_ _).imp ?_
  · intro a b c hab hbc
    rw [decide_eq_true_iff] at hab hbc ⊢
    exact Nat.le_trans hab hbc
  · intro a b
    rw [Bool.or_eq_true, decide_eq_true_iff, decide_eq_true_iff]
    exact Nat.le_total _ _
  · intro a b hab
    exact decide_eq_true_iff.mp hab

namespace ResolvedRequest

open StreamRequest

theorem mem_of_smallestSufficient {alts : List AltSetting} {need : Nat} {alt : AltSetting}
    (h : smallestSufficient alts need = some alt) : alt ∈ alts := by
  rcases Option.or_eq_some_iff.mp h with hfirst | ⟨-, hlast⟩
  · exact List.mem_of_find?_eq_some hfirst
  · exact List.mem_of_getLast? hlast

/-- In ascending order, the first that is enough is the least, and the last is the greatest. -/
theorem smallestSufficient_best {alts : List AltSetting} {need : Nat} {alt : AltSetting}
    (hsorted : alts.Pairwise (·.capacity ≤ ·.capacity))
    (h : smallestSufficient alts need = some alt) : alt.FitsBest alts need := by
  have hmem := mem_of_smallestSufficient h
  rcases Option.or_eq_some_iff.mp h with hfirst | ⟨hnone, hlast⟩
  · have henough := List.find?_some hfirst
    rw [decide_eq_true_iff] at henough
    refine ⟨hmem, fun _ => AltSetting.least_of_find? hsorted hfirst, ?_⟩
    exact fun hless => absurd henough (Nat.not_le.mpr hless)
  · have hless : ¬ need ≤ alt.capacity := by
      simpa using List.find?_eq_none.mp hnone alt hmem
    exact ⟨hmem, fun henough => absurd henough hless, fun _ =>
      AltSetting.greatest_of_getLast? hsorted hlast⟩

theorem smallestSufficient_eq_none {alts : List AltSetting} {need : Nat} :
    smallestSufficient alts need = none ↔ alts = [] := by
  rw [smallestSufficient, Option.or_eq_none_iff, List.getLast?_eq_none_iff]
  constructor
  · exact And.right
  · rintro rfl
    exact ⟨rfl, rfl⟩

variable {r : ResolvedRequest} {alts : List AltSetting} {maxPayload : Nat}

/-- The setting is the one asked for, or else that one is not there and the setting is one that suits. -/
theorem chooseAlt_ok {alt : AltSetting} (h : (r.chooseAlt alts maxPayload).result = .ok alt) :
    alt ∈ alts ∧ (r.altSetting = some alt.number ∨
      (∀ n ∈ r.altSetting, ∀ b ∈ alts, b.number ≠ n) ∧
        smallestSufficient alts (r.maxPacketSize.getD maxPayload) = some alt) := by
  unfold chooseAlt at h
  dsimp only at h
  split at h
  · next n hasked =>
    split at h
    · next found hfound =>
      cases h
      have hnumber := List.find?_some hfound
      rw [beq_iff_eq] at hnumber
      exact ⟨List.mem_of_find?_eq_some hfound, .inl (hnumber ▸ hasked)⟩
    · next hnone =>
      -- What is only a preference gives way, and anything else is refused.
      split at h
      · obtain ⟨found, hfound, h⟩ := Noted.bind_ok.mp h
        cases h
        have hbest := foundOr_ok.mp hfound
        refine ⟨mem_of_smallestSufficient hbest, .inr ⟨?_, hbest⟩⟩
        intro m hm b hb hnumber
        cases hasked.symm.trans hm
        exact List.find?_eq_none.mp hnone b hb (beq_iff_eq.mpr hnumber)
      · cases h
  · next hopen =>
    obtain ⟨found, hfound, h⟩ := Noted.bind_ok.mp h
    cases h
    have hbest := foundOr_ok.mp hfound
    exact ⟨mem_of_smallestSufficient hbest, .inr ⟨by simp [hopen], hbest⟩⟩

/-- Among some settings there is always one to choose, unless one is insisted on that is not there. -/
theorem chooseAlt_exists (hsome : alts ≠ [])
    (hthere : r.altIsHint = false → ∀ n ∈ r.altSetting, ∃ b ∈ alts, b.number = n) :
    ∃ alt, (r.chooseAlt alts maxPayload).result = .ok alt := by
  have hbest : smallestSufficient alts (r.maxPacketSize.getD maxPayload) ≠ none :=
    fun hnone => hsome (smallestSufficient_eq_none.mp hnone)
  obtain ⟨best, hbest⟩ := Option.ne_none_iff_exists'.mp hbest
  unfold chooseAlt
  dsimp only
  split
  · next n hasked =>
    split
    · next found _ => exact ⟨found, rfl⟩
    · next hnone =>
      cases hhint : r.altIsHint with
      | true => exact ⟨best, Noted.bind_ok.mpr ⟨best, foundOr_ok.mpr hbest, rfl⟩⟩
      | false =>
        obtain ⟨b, hb, hnumber⟩ := hthere hhint n hasked
        exact absurd (beq_iff_eq.mpr hnumber) (List.find?_eq_none.mp hnone b hb)
  · exact ⟨best, Noted.bind_ok.mpr ⟨best, foundOr_ok.mpr hbest, rfl⟩⟩

/-! ### The transport as a whole -/

theorem chooseBulk_ok {s : StreamingInterface} {t : TransportChoice} :
    (r.chooseBulk s maxPayload).result = .ok t ↔
      ∃ e, s.bulkEndpoint? = some e ∧ r.maxPacketSize.getD e.capacity ≠ 0 ∧
        ⟨.bulk, 0, e.address, r.maxPacketSize.getD e.capacity,
          max r.packetsPerRequest (divCeil maxPayload (r.maxPacketSize.getD e.capacity))⟩ = t := by
  unfold chooseBulk
  simp only [Noted.bind_ok, foundOr_ok]
  refine exists_congr fun e => and_congr_right fun _ => ?_
  split
  · next hzero => exact ⟨nofun, fun h => absurd hzero h.1⟩
  · next hsize => simp [hsize]

theorem chooseIsochronous_ok {s : StreamingInterface} {t : TransportChoice} :
    (r.chooseIsochronous s maxPayload).result = .ok t ↔
      ∃ alt, (r.chooseAlt s.isochronousAlts maxPayload).result = .ok alt ∧
        ⟨.isochronous, alt.number, (alt.endpoint.map (·.address)).getD r.endpoint,
          r.maxPacketSize.getD alt.capacity, r.packetsPerRequest⟩ = t := by
  unfold chooseIsochronous
  rw [Noted.bind_ok]
  refine exists_congr fun alt => and_congr_right fun _ => ?_
  dsimp only
  split <;> exact ⟨fun h => by cases h; rfl, fun h => by cases h; rfl⟩

/-- The choice of a transport, whichever kind was resolved. -/
def chooseTransport (r : ResolvedRequest) (s : StreamingInterface) (maxPayload : Nat) :
    Selection TransportChoice :=
  if r.bulk then r.chooseBulk s maxPayload else r.chooseIsochronous s maxPayload

end ResolvedRequest

/-- The part of a configuration that waits for the answer to the probe. -/
def StreamConfig.transport (c : StreamConfig) : TransportChoice :=
  ⟨c.transfer, c.altSetting, c.endpoint, c.maxPacketSize, c.packetsPerRequest⟩

namespace ResolvedRequest

open StreamRequest

/-- Only the choice of a transport can fail, and the configuration is made with that. -/
theorem finalize_transport {r : ResolvedRequest} {catalog : Catalog} {s : StreamingInterface}
    (h : catalog.interface? r.interface = some s) (answer : ProbeBlock) :
    (r.finalize catalog answer).result.map StreamConfig.transport =
      (r.chooseTransport s answer.maxPayloadTransferSize.toNat).result := by
  -- What comes after the choice keeps it.
  have hkept (x : Selection TransportChoice) (rest : TransportChoice → Selection StreamConfig)
      (hrest : ∀ t, (rest t).result.map StreamConfig.transport = .ok t) :
      (x >>= rest).result.map StreamConfig.transport = x.result := by
    rw [Noted.result_bind]
    cases x.result with
    | error e => rfl
    | ok t => exact hrest t
  unfold finalize
  rw [h, Noted.result_bind, foundOr_ok.mpr rfl]
  show Except.map _ (Noted.result _) = _
  unfold chooseTransport
  split
  all_goals
    refine hkept _ _ fun t => ?_
    dsimp only
    split <;> rfl

/-- A stream has a configuration if there is a choice. -/
theorem finalize_failed_iff {r : ResolvedRequest} {catalog : Catalog} {s : StreamingInterface}
    (h : catalog.interface? r.interface = some s) (answer : ProbeBlock) :
    (∃ e, (r.finalize catalog answer).result = .error e) ↔
      ¬ ∃ t, (r.chooseTransport s answer.maxPayloadTransferSize.toNat).result = .ok t := by
  rw [← finalize_transport h answer]
  cases (r.finalize catalog answer).result <;> simp [Except.map]

end ResolvedRequest

/-! ### What is streamed -/

/-- What a configuration has from the request, whatever transport is chosen: it streams what was selected,
in its encoding and with its geometry. -/
structure StreamConfig.Streams (r : ResolvedRequest) (c : StreamConfig) : Prop where
  interface : c.interface = r.interface
  formatIndex : c.formatIndex = r.format.index
  frameIndex : c.frameIndex = r.frame.index
  encoding : c.encoding = r.format.encoding
  width : c.width = r.frame.width.toUInt32
  height : c.height = r.frame.height.toUInt32
  bitsPerPixel : c.bitsPerPixel = r.format.bitsPerPixel.toUInt32

namespace ResolvedRequest

open StreamRequest

theorem finalize_streams {r : ResolvedRequest} {catalog : Catalog} {answer : ProbeBlock}
    {c : StreamConfig} (h : (r.finalize catalog answer).result = .ok c) : c.Streams r := by
  unfold finalize at h
  obtain ⟨s, -, h⟩ := Noted.bind_ok.mp h
  dsimp only at h
  split at h
  all_goals
    obtain ⟨t, -, h⟩ := Noted.bind_ok.mp h
    split at h
    · obtain ⟨-, -, h⟩ := Noted.bind_ok.mp h
      cases h
      exact ⟨rfl, rfl, rfl, rfl, rfl, rfl, rfl⟩
    · cases h
      exact ⟨rfl, rfl, rfl, rfl, rfl, rfl, rfl⟩

/-- A configuration is one of an interface of the catalog. -/
theorem finalize_found {r : ResolvedRequest} {catalog : Catalog} {answer : ProbeBlock}
    {c : StreamConfig} (h : (r.finalize catalog answer).result = .ok c) :
    ∃ s, catalog.interface? r.interface = some s := by
  unfold finalize at h
  obtain ⟨s, hs, -⟩ := Noted.bind_ok.mp h
  exact ⟨s, foundOr_ok.mp hs⟩

end ResolvedRequest

/-! ### Adequate transports -/

/-- Over bulk: the endpoint of alternate setting 0, with the packet size asked for or else its own, and
packets enough for a whole payload. -/
structure StreamConfig.OverBulk (s : StreamingInterface) (explicit : Option Nat)
    (wanted maxPayload : Nat) (c : StreamConfig) : Prop where
  transfer : c.transfer = .bulk
  altSetting : c.altSetting = 0
  endpoint : ∃ e, s.bulkEndpoint? = some e ∧ c.endpoint = e.address ∧
    c.maxPacketSize = explicit.getD e.capacity
  packets : ∃ least, IsLeast {n | maxPayload ≤ c.maxPacketSize * n} least ∧
    c.packetsPerRequest = max wanted least

/-- Over isochronous transfers: a setting with its endpoint, which is the one asked for where that is
there, and else the best for the packet size asked for or the payloads of the device. -/
structure StreamConfig.OverIsochronous (s : StreamingInterface) (asked : Option UInt8)
    (explicit : Option Nat) (wanted maxPayload : Nat) (c : StreamConfig) : Prop where
  transfer : c.transfer = .isochronous
  setting : ∃ alt ∈ s.altSettings, ∃ e, alt.endpoint = some e ∧ e.kind = .isochronous ∧
    c.altSetting = alt.number ∧ c.endpoint = e.address ∧
    c.maxPacketSize = explicit.getD e.capacity ∧
    ((∃ n ∈ asked, s.HasAlt n) → asked = some alt.number) ∧
    ((∀ n ∈ asked, ¬ s.HasAlt n) →
      alt.FitsBest (s.altSettings.filter (·.carries .isochronous)) (explicit.getD maxPayload))
  packets : c.packetsPerRequest = wanted

namespace ResolvedRequest

variable {r : ResolvedRequest} {catalog : Catalog} {s : StreamingInterface} {answer : ProbeBlock}
  {c : StreamConfig}

theorem finalize_bulk (hfound : catalog.interface? r.interface = some s) (hbulk : r.bulk = true)
    (h : (r.finalize catalog answer).result = .ok c) :
    c.OverBulk s r.maxPacketSize r.packetsPerRequest answer.maxPayloadTransferSize.toNat := by
  have htransport := finalize_transport hfound answer
  rw [h, chooseTransport, if_pos hbulk] at htransport
  obtain ⟨e, hendpoint, hsize, hchoice⟩ := chooseBulk_ok.mp htransport.symm
  obtain ⟨htransfer, halt, haddress, hpacket, hcount⟩ := TransportChoice.mk.inj hchoice
  rw [hpacket] at hsize hcount
  have hpos : 0 < c.maxPacketSize := Nat.pos_of_ne_zero hsize
  refine ⟨htransfer.symm, halt.symm, ⟨e, hendpoint, haddress.symm, hpacket.symm⟩, _, ?_, hcount.symm⟩
  exact ⟨(divCeil_le_iff hpos).mp (Nat.le_refl _), fun n hn => (divCeil_le_iff hpos).mpr hn⟩

theorem finalize_isochronous (hfound : catalog.interface? r.interface = some s)
    (hbulk : r.bulk = false) (h : (r.finalize catalog answer).result = .ok c) :
    c.OverIsochronous s r.altSetting r.maxPacketSize r.packetsPerRequest
      answer.maxPayloadTransferSize.toNat := by
  have htransport := finalize_transport hfound answer
  rw [h, chooseTransport, hbulk] at htransport
  obtain ⟨alt, hchosen, hchoice⟩ := chooseIsochronous_ok.mp htransport.symm
  obtain ⟨htransfer, halt, haddress, hpacket, hcount⟩ := TransportChoice.mk.inj hchoice
  obtain ⟨hmem, hchosen⟩ := chooseAlt_ok hchosen
  obtain ⟨hdeclared, hcarries⟩ := StreamingInterface.mem_isochronousAlts.mp hmem
  obtain ⟨e, hendpoint, hkind⟩ := AltSetting.carries_iff.mp hcarries
  rw [hendpoint] at haddress
  rw [AltSetting.capacity_eq hendpoint] at hpacket
  refine ⟨htransfer.symm, ⟨alt, hdeclared, e, hendpoint, hkind, halt.symm, haddress.symm,
    hpacket.symm, ?_, ?_⟩, hcount.symm⟩
  -- Where the setting asked for is there it is the one, so there the other case cannot be.
  · rintro ⟨n, hn, hthere⟩
    obtain ⟨b, hb, hnumber⟩ := StreamingInterface.hasAlt_iff.mp hthere
    rcases hchosen with hasked | ⟨hmissing, -⟩
    · exact hasked
    · exact absurd hnumber (hmissing n hn b hb)
  · intro hmissing
    rcases hchosen with hasked | ⟨-, hbest⟩
    · exact absurd (StreamingInterface.hasAlt_iff.mpr ⟨alt, hmem, rfl⟩) (hmissing _ hasked)
    · apply (smallestSufficient_best s.sorted_isochronousAlts hbest).of_mem_iff
      -- The order of capacity and the order of declaration have the same settings.
      intro b
      rw [StreamingInterface.mem_isochronousAlts, List.mem_filter]

/-- What was resolved can be carried out: the bulk endpoint is there, and so is an alternate setting that
is more than a preference. -/
structure Prepared (s : StreamingInterface) (r : ResolvedRequest) : Prop where
  bulk : r.bulk = true → s.HasBulk
  alt : r.bulk = false → r.altIsHint = false → ∀ n ∈ r.altSetting, s.HasAlt n

theorem Prepared.exists_chooseBulk (h : r.Prepared s) (hbulk : r.bulk = true) {maxPayload : Nat} :
    (∃ t, (r.chooseBulk s maxPayload).result = .ok t) ↔
      ¬ ∃ e, s.bulkEndpoint? = some e ∧ r.maxPacketSize.getD e.capacity = 0 := by
  obtain ⟨e, hendpoint⟩ := Option.isSome_iff_exists.mp
    (StreamingInterface.isSome_bulkEndpoint?.mpr (h.bulk hbulk))
  simp [chooseBulk_ok, hendpoint]

theorem Prepared.exists_chooseIsochronous (h : r.Prepared s) (hbulk : r.bulk = false)
    {maxPayload : Nat} :
    (∃ t, (r.chooseIsochronous s maxPayload).result = .ok t) ↔ s.HasIsochronous := by
  constructor
  · rintro ⟨t, ht⟩
    obtain ⟨alt, halt, -⟩ := chooseIsochronous_ok.mp ht
    exact ⟨alt, StreamingInterface.mem_isochronousAlts.mp (chooseAlt_ok halt).1⟩
  · intro hsome
    have hne : s.isochronousAlts ≠ [] :=
      List.isEmpty_eq_false_iff.mp (StreamingInterface.isEmpty_isochronousAlts.mpr hsome)
    obtain ⟨alt, halt⟩ := chooseAlt_exists hne fun hhint n hn =>
      StreamingInterface.hasAlt_iff.mp (h.alt hbulk hhint n hn)
    exact ⟨_, chooseIsochronous_ok.mpr ⟨alt, halt, rfl⟩⟩

theorem Prepared.failed_iff (h : r.Prepared s) (hfound : catalog.interface? r.interface = some s) :
    (∃ e, (r.finalize catalog answer).result = .error e) ↔
      r.bulk = true ∧ (∃ e, s.bulkEndpoint? = some e ∧ r.maxPacketSize.getD e.capacity = 0) ∨
        r.bulk = false ∧ ¬ s.HasIsochronous := by
  rw [finalize_failed_iff hfound, chooseTransport]
  cases hbulk : r.bulk with
  | true =>
    rw [if_pos rfl, h.exists_chooseBulk hbulk, not_not]
    simp
  | false =>
    rw [if_neg Bool.false_ne_true, h.exists_chooseIsochronous hbulk]
    simp

end ResolvedRequest

theorem StreamRequest.Chooses.prepared {request : StreamRequest} {preset : Option Preset}
    {catalog : Catalog} {settings : TransferSettings} {c : StreamRequest.Choice}
    (h : (request.effective preset).Chooses catalog request.isEmpty c) :
    ((request.effective preset).fill catalog settings request.isEmpty c).Prepared c.interface where
  bulk := h.feasible.bulk
  alt := StreamRequest.checkAlt_ok.mp h.alt

/-- A resolved request has no configuration exactly if its bulk packets would be empty or there is no
isochronous setting, and its configuration is adequate. -/
theorem finalize_adequate (request : StreamRequest) (preset : Option Preset) (catalog : Catalog)
    (settings : TransferSettings) (r : ResolvedRequest) (answer : ProbeBlock)
    (h : (resolve request preset catalog settings).result = .ok r) :
    let asked := request.effective preset
    let explicit := asked.maxPacketSize.or settings.maxPacketSize
    let wanted := asked.packetsPerRequest.getD settings.packetsPerRequest
    let maxPayload := answer.maxPayloadTransferSize.toNat
    ∃ s, catalog.interface? r.interface = some s ∧
      ((∃ e, (r.finalize catalog answer).result = .error e) ↔
        r.bulk = true ∧ (∃ e, s.bulkEndpoint? = some e ∧ explicit.getD e.capacity = 0) ∨
          r.bulk = false ∧ ¬ s.HasIsochronous) ∧
      ∀ c, (r.finalize catalog answer).result = .ok c →
        (r.bulk = true → c.OverBulk s explicit wanted maxPayload) ∧
        (r.bulk = false → c.OverIsochronous s asked.altSetting explicit wanted maxPayload) := by
  intro asked explicit wanted maxPayload
  obtain ⟨choice, hc, rfl⟩ := resolve_ok_iff.mp h
  have hfound := (StreamRequest.selectInterface_ok.mp hc.interface).2.2
  have hprepared : (asked.fill catalog settings request.isEmpty choice).Prepared choice.interface :=
    hc.prepared
  refine ⟨choice.interface, hfound, hprepared.failed_iff hfound, fun c hc => ⟨?_, ?_⟩⟩
  · exact fun hbulk => ResolvedRequest.finalize_bulk hfound hbulk hc
  · exact fun hbulk => ResolvedRequest.finalize_isochronous hfound hbulk hc

/-- Of two settings declared from the larger one down, the smaller one is enough. -/
theorem finalize_adequate_smaller :
    let frame : FrameDescriptor := ⟨1, 640, 480, 614400, 333333, .discrete [333333]⟩
    let format : FormatDescriptor := ⟨1, .mjpeg, 16, 1, [frame]⟩
    let large : AltSetting := ⟨2, some ⟨0x82, .isochronous, 1024, 1⟩⟩
    let small : AltSetting := ⟨1, some ⟨0x81, .isochronous, 512, 1⟩⟩
    let camera : StreamingInterface :=
      { number := 1, formats := [format], altSettings := [⟨0, none⟩, large, small] }
    let catalog : Catalog := { uvcVersion := 0x0110, control := {}, streaming := [camera] }
    let request : StreamRequest := { encoding := some .mjpeg, bulk := some false }
    ∃ r, (resolve request none catalog {}).result = .ok r ∧
      ∃ c, (r.finalize catalog { r.probe with maxPayloadTransferSize := 400 }).result = .ok c ∧
        c.altSetting = 1 ∧ c.endpoint = 0x81 ∧ c.maxPacketSize = 512 := by
  intro frame format large small camera catalog request
  have hchosen : request.Chooses catalog false ⟨camera, format, frame, 333333, false⟩ :=
    ⟨rfl, rfl, rfl, rfl, StreamRequest.selectBulk_ok.mpr ⟨rfl, nofun, fun _ => by decide⟩, rfl⟩
  have hresolved : (resolve request none catalog {}).result = .ok _ :=
    resolve_of_chooses (by decide) hchosen
  let r := request.fill catalog {} false ⟨camera, format, frame, 333333, false⟩
  obtain ⟨s, hfound, hfailed, hadequate⟩ := finalize_adequate request none catalog {} r
    { r.probe with maxPayloadTransferSize := 400 } hresolved
  obtain rfl : camera = s := Option.some.inj hfound
  refine ⟨r, hresolved, ?_⟩
  cases hresult : (r.finalize catalog { r.probe with maxPayloadTransferSize := 400 }).result with
  | error e =>
    rcases hfailed.mp ⟨e, hresult⟩ with ⟨hbulk, -⟩ | ⟨-, hnone⟩
    · cases hbulk
    · exact absurd (by decide) hnone
  | ok c =>
    refine ⟨c, rfl, ?_⟩
    obtain ⟨alt, -, e, hendpoint, -, hnumber, haddress, hpacket, -, hbest⟩ :=
      ((hadequate c hresult).2 rfl).setting
    have hbest := hbest nofun
    -- The large setting is not the best, for the small one is enough.
    have hsmall : alt = small := by
      have hmem : alt ∈ [large, small] := hbest.mem
      rcases List.mem_cons.mp hmem with rfl | hmem
      · exact absurd (hbest.least (by decide) small (by decide) (by decide)) (by decide)
      · exact List.mem_singleton.mp hmem
    subst hsmall
    cases hendpoint
    exact ⟨hnumber, haddress, hpacket⟩

end UsbVideo
