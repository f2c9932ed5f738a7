import Mathlib.Data.List.TFAE
import UsbVideo.Decode.Codecs
import UsbVideo.Device.Loopback
import UsbVideo.Proofs.Engine.Calls
import UsbVideo.Proofs.Engine.Fair

/-!
# The life of a controller

What a host may rely on, read off the invariant. Between calls a controller is closed, streaming or
faulted, and everything that says so agrees: the state, the stream, the catalog, the configuration and
the claim on the device. When it is closed the bus stack has nothing of it, and it has no claim.

    closed ──open──▶ streaming ──▶ faulted
      ▲                  │            │
      └──────close───────┴────────────┘

A stream faults in the background only; it is brought back by a call to close, which ends nowhere but
in closed. All this holds at every moment of every run, and to open and to close are such runs.
-/

namespace UsbVideo

namespace Engine

variable {σ : Type} [Transport σ] {name : String}

/-! ### Claims and transfers of a controller -/

/-- A controller has a key: it is in the registry, and the controller itself claimed it or one of its
tasks did that goes on. -/
def Holds (e : Engine σ) (index : Nat) (key : ClaimKey) : Prop :=
  key ∈ e.world.claims.held ∧
    (e.holder = some index ∧ key = e.world.deviceClaim ∨
      ∃ t ∈ e.world.tasks, t.client = index ∧ t.task.isEnded = false ∧ t.claim = key)

namespace Ordered

variable {e : Engine σ} {i : Nat} {c : Controller}

omit [Transport σ] in
/-- A closed controller is not in the middle of a call, has no stream and no catalog. -/
theorem closed_shape (h : e.Ordered name) (there : e.world.clients[i]? = some c)
    (closed : c.state = .closed) : e.calls i = none ∧ c.stream = none ∧ c.catalog = none := by
  have hfits := h.roles.fits i c there
  cases hcall : e.calls i with
  | some u =>
    rw [hcall] at hfits
    exact absurd closed hfits.calling.1
  | none =>
    rw [hcall] at hfits
    rcases hfits with ⟨-, hstream, hcatalog⟩ | ⟨hopen | hopen, -⟩
    · exact ⟨rfl, hstream, hcatalog⟩
    · rw [closed] at hopen
      cases hopen
    · rw [closed] at hopen
      cases hopen

omit [Transport σ] in
/-- When a controller is closed all its tasks have ended. -/
theorem closed_ended (h : e.Ordered name) (there : e.world.clients[i]? = some c) (stays : i ∉ e.gone)
    (closed : c.state = .closed) :
    ∀ t ∈ e.world.tasks, t.client = i → t.task.isEnded = true := by
  obtain ⟨hcall, hstream, -⟩ := h.closed_shape there closed
  have hnone := h.roles.none_live there stays fun mailbox hserves => by
    rw [hcall, Controller.serves, hstream] at hserves
    cases hserves
  intro t ht hmine
  cases hended : t.task.isEnded with
  | true => rfl
  | false => exact absurd hmine (hnone t ht hended)

omit [Transport σ] in
/-- A closed controller does not hold the device. -/
theorem closed_holder (h : e.Ordered name) (there : e.world.clients[i]? = some c)
    (closed : c.state = .closed) : e.holder ≠ some i := by
  obtain ⟨hcall, hstream, -⟩ := h.closed_shape there closed
  intro hholder
  obtain ⟨c', there', hbusy⟩ := (h.roles.owner i).mp hholder
  rw [there] at there'
  cases there'
  rw [hcall, hstream] at hbusy
  exact hbusy.elim nofun nofun

/-- When a controller is closed it has no claim. -/
theorem closed_holds (h : e.Ordered name) (there : e.world.clients[i]? = some c) (stays : i ∉ e.gone)
    (closed : c.state = .closed) (key : ClaimKey) : ¬ e.Holds i key := by
  rintro ⟨-, ⟨hholder, -⟩ | ⟨t, ht, hmine, hgoes, -⟩⟩
  · exact h.closed_holder there closed hholder
  · rw [h.closed_ended there stays closed t ht hmine] at hgoes
    cases hgoes

end Ordered

namespace Sound

variable {e : Engine σ} {i : Nat} {c : Controller}

/-- The device is held by the holder and by nobody else. -/
theorem holds_device (h : e.Sound name) (contract : e.Contract name) :
    e.Holds i e.world.deviceClaim ↔ e.holder = some i := by
  constructor
  · rintro ⟨-, ⟨hholder, -⟩ | ⟨t, ht, -, -, hclaim⟩⟩
    · exact hholder
    · obtain ⟨address, hendpoint⟩ := h.endpoints t ht
      rw [hendpoint] at hclaim
      cases hclaim
  · intro hholder
    refine ⟨?_, .inl ⟨hholder, rfl⟩⟩
    rw [World.deviceClaim, contract.name, h.records.perm.mem_iff, keys, hholder]
    exact List.mem_cons_self

omit [Transport σ] in
/-- What has ended has nothing pending. -/
theorem ended_pending (h : e.Sound name) {t : RunningTask} (ht : t ∈ e.world.tasks)
    (hended : t.task.isEnded = true) : e.world.device.pending t.mailbox = [] := by
  have haccount := h.accounts.accounted t ht
  rwa [RunningTask.Accounted, if_pos hended] at haccount

/-- Everything that tells an open controller from a closed one agrees. -/
theorem idle_tfae (h : e.Sound name) (contract : e.Contract name) (idle : e.Idle i c) :
    List.TFAE [c.state ≠ .closed, c.stream.isSome, c.catalog.isSome, c.config.isSome,
      e.Holds i e.world.deviceClaim] := by
  have hfits := h.roles.fits i c idle.there
  rw [idle.free] at hfits
  have hholds : e.Holds i e.world.deviceClaim ↔ c.stream.isSome := by
    rw [h.holds_device contract, h.roles.owner i, idle.there, idle.free]
    simp
  have hconfig : c.config.isSome = c.stream.isSome := by simp [Controller.config]
  rw [hholds, hconfig]
  rcases hfits with ⟨hstate, hstream, hcatalog⟩ | ⟨hstate, hstream, hcatalog⟩
  · simp [hstate, hstream, hcatalog]
  · have hopen : c.state ≠ .closed := by
      rcases hstate with hstate | hstate
      · rw [hstate]
        exact nofun
      · rw [hstate]
        exact nofun
    simp [hopen, hstream, hcatalog]

end Sound

/-! ### A camera that is unplugged -/

/-- Whether the bus stack has kept its contract up to now. With one mailbox this can be looked up. -/
def lawful (e : Engine σ) (name : String) (mailbox : Mailbox) : Bool :=
  Transport.deviceId e.world.device == name &&
    e.world.device.posted.all (·.mailbox == mailbox) &&
      ((e.world.device.postedTo mailbox).map (·.transfer.id)).isSubperm
        (e.world.device.acceptedFor mailbox) &&
          e.world.tasks.all fun t =>
            match t.task.phase with
            | .draining deadline _ => e.world.now < deadline
            | _ => true

theorem Contract.of_lawful {e : Engine σ} (mailbox : Mailbox) (h : e.lawful name mailbox = true) :
    e.Contract name := by
  simp only [lawful, Bool.and_eq_true, beq_iff_eq, List.all_eq_true, List.isSubperm_iff] at h
  obtain ⟨⟨⟨hname, hmailbox⟩, hhonest⟩, hearly⟩ := h
  refine ⟨hname, fun other => ?_, fun t ht deadline fault hphase hover => ?_⟩
  · by_cases hother : other = mailbox
    · rw [hother]
      exact hhonest
    · -- Nothing was posted to anybody else.
      have hnothing : e.world.device.postedTo other = [] := by
        simp only [Ledger.postedTo, Post.completionsFor, List.map_eq_nil_iff, List.filter_eq_nil_iff]
        intro post hpost
        rw [hmailbox post hpost]
        simpa using Ne.symm hother
      rw [Ledger.Honest, hnothing]
      exact List.nil_subperm
  · have hlate := hearly t ht
    rw [hphase, decide_eq_true_iff] at hlate
    exact absurd hover (Nat.not_le.mpr hlate)

/-- Carry out the next part of a call, if it need not wait. -/
def carryOn (e : Engine σ) (index : Nat) : Engine σ :=
  match e.world.clients[index]?, e.calls index with
  | some c, some u => if u.awaits.all e.world.hasEnded then e.proceed index c u else e
  | _, _ => e

theorem carryOn_step (e : Engine σ) (index : Nat) :
    e.carryOn index = e ∨ Step e .other (e.carryOn index) := by
  unfold carryOn
  split
  · next c u there calling =>
    split
    · next hwaited =>
      refine .inr (.proceed e index c u there calling fun mailbox hawaits => ?_)
      simpa [hawaits] using hwaited
    · exact .inl rfl
  · exact .inl rfl

theorem Reachable.carryOn {e : Engine σ} (h : Reachable name e) (index : Nat)
    (contract : (e.carryOn index).Contract name) : Reachable name (e.carryOn index) := by
  rcases carryOn_step e index with hsame | hs
  · rwa [hsame]
  · exact h.step hs contract

/-- A camera of one format with one controller, which was never opened. -/
def plugged : Engine Loopback :=
  start
    { name := "camera"
      model := { formats := [⟨.mjpeg, [⟨640, 480, .discrete [333333]⟩]⟩] } }
    [{ settings := {}, codecs := .software }] 0 []

/-- The same, while it streams. -/
def opened : Engine Loopback :=
  let request : StreamRequest :=
    { formatIndex := some 1, frameIndex := some 1, frameInterval := some 333333 }
  (((plugged.claimed 0 request { held := [.device "camera"] }).carryOn 0).carryOn 0).carryOn 0

/-- The same, after the host has heard that it is gone. -/
def unplugged : Engine Loopback := { opened with world := opened.world.notifyDisconnect 0 }

/-- The contract is kept all the way. -/
theorem reachable_unplugged : Reachable "camera" unplugged := by
  have hplugged : Reachable "camera" plugged :=
    .start _ _ 0 [] rfl (by simp [Controller.closed]) List.nodup_nil
  have hopened : Reachable "camera" opened := by
    refine (((hplugged.step (.claim plugged 0 { settings := {}, codecs := .software } _ _ ?_ rfl ?_) ?_).carryOn
      0 ?_).carryOn 0 ?_).carryOn 0 ?_
    · exact ⟨rfl, List.not_mem_nil, rfl⟩
    · rfl
    all_goals exact .of_lawful 0 (by decide +kernel)
  have hidle : (opened.world.clients[0]?).isSome = true := by decide +kernel
  obtain ⟨c, there⟩ := Option.isSome_iff_exists.mp hidle
  refine hopened.step (.disconnect opened 0 c ⟨there, ?_, ?_⟩) ?_
  · decide +kernel
  · decide +kernel
  · exact .of_lawful 0 (by decide +kernel)

/-! ### The lifecycle -/

/-- A controller is in the middle of a call to close. -/
def Closing (e : Engine σ) (index : Nat) : Prop := ∃ u, e.calls index = some u ∧ u.closing = true

theorem Step.closes {a b : Engine σ} {i : Nat} (hs : Step a (.closes i) b) : b.Closing i := by
  cases hs with
  | close index c s idle stream => exact ⟨_, Function.update_self .., rfl⟩

/-- A call to close goes on until the controller is closed. -/
theorem Step.closing {a b : Engine σ} {event : Event} (hs : Step a event b) {i : Nat}
    (h : a.Closing i) : b.Closing i ∨ b.calls i = none ∧ b.state? i = some .closed := by
  obtain ⟨u, calling, hclosing⟩ := h
  rcases hs.calls calling with hsame | ⟨c, there, rfl⟩
  · exact .inl ⟨u, hsame, hclosing⟩
  cases hnext : (a.world.proceed i c u).2 with
  | none => exact .inr ⟨(calls_proceed ..).trans hnext, closed_proceed there hclosing hnext⟩
  | some v =>
    have hstill := ((a.world.proceeded i c u).nearer v hnext).2 hclosing
    exact .inl ⟨v, (calls_proceed ..).trans hnext, hstill⟩

/-- The life of a controller, on a bus stack that keeps its contract, whatever happens in which order:
what the host sees of it between calls agrees, and what it asks for then is a run; a closed one has
nothing pending and no claim; only a stream that runs can fault, and only the host brings it back;
closing ends, in closed. -/
theorem lifecycle {e : Engine σ} (h : Reachable name e) {i : Nat} {c : Controller}
    (there : e.world.clients[i]? = some c) (stays : i ∉ e.gone) :
    (e.calls i = none →
      (c.state = .closed ∨ c.state = .streaming ∨ c.state = .faulted) ∧
        List.TFAE [c.state ≠ .closed, c.stream.isSome, c.catalog.isSome, c.config.isSome,
          e.Holds i e.world.deviceClaim] ∧
        (∀ request, ∃ holder, e.Run { e with world := (e.world.openStream i request).2, holder }) ∧
        ∃ holder, e.Run { e with world := e.world.closeStream i, holder } ∧
          (e.world.closeStream i).clients[i]?.map (·.state) = some .closed) ∧
    (c.state = .closed →
      (∀ t ∈ e.world.tasks, t.client = i → e.world.device.pending t.mailbox = []) ∧
        ∀ key, ¬ e.Holds i key) ∧
    (∀ event e', Step e event e' →
      (e'.state? i = some .faulted → c.state = .faulted ∨ c.state = .streaming) ∧
        (c.state = .faulted →
          e'.state? i = some .faulted ∨ event = .closes i ∨ event = .drops i) ∧
        (event = .closes i → e'.Closing i) ∧
        (e.Closing i → e'.Closing i ∨ e'.calls i = none ∧ e'.state? i = some .closed)) ∧
    ∀ run n, Fair name run → run n = e → e.Closing i →
      ∃ k ≥ n, (run k).calls i = none ∧ (run k).state? i = some .closed := by
  have hsound := h.sound
  have hstate : e.state? i = some c.state := by rw [state?, there, Option.map_some]
  have hidle : e.calls i = none → e.Idle i c := fun free => ⟨there, stays, free⟩
  refine ⟨fun free => ⟨?_, hsound.idle_tfae h.contract (hidle free), run_openStream h (hidle free),
    run_closeStream h (hidle free)⟩, fun closed => ⟨?_, ?_⟩,
    fun event e' hs => ⟨?_, ?_, ?_, hs.closing⟩, ?_⟩
  · have hfits := hsound.roles.fits i c there
    rw [free] at hfits
    rcases hfits with ⟨hclosed, -⟩ | ⟨hopen, -⟩
    · exact .inl hclosed
    · exact .inr hopen
  · intro t ht hmine
    exact hsound.ended_pending ht (hsound.closed_ended there stays closed t ht hmine)
  · exact hsound.closed_holds there stays closed
  · intro hfaulted
    simpa [hstate] using (hs.faulted hsound i).1 hfaulted
  · intro hfaulted
    exact (hs.faulted hsound i).2 (hstate.trans (congrArg some hfaulted))
  · rintro rfl
    exact hs.closes
  · rintro run n hfair rfl ⟨u, calling, hclosing⟩
    obtain ⟨k, hk, hnone, hclosed⟩ := hfair.call_ends there calling
    exact ⟨k, hk, hnone, hclosed hclosing⟩

/-- The camera is gone and its controller faulted: it still has its claim and its configuration, and
nothing but closing or dropping it changes that. -/
theorem lifecycle_unplugged :
    unplugged.state? 0 = some .faulted ∧ unplugged.Holds 0 (.device "camera") ∧
      ∀ event e', Step unplugged event e' →
        e'.state? 0 = some .faulted ∨ event = .closes 0 ∨ event = .drops 0 := by
  have hfree : unplugged.calls 0 = none := by decide +kernel
  have hstate : unplugged.state? 0 = some .faulted := by decide +kernel
  obtain ⟨c, there, hfaulted⟩ := Option.map_eq_some_iff.mp hstate
  obtain ⟨hidle, -, hstep, -⟩ := lifecycle reachable_unplugged there (by decide +kernel)
  have hholds := ((hidle hfree).2.1.out 0 4).mp (by rw [hfaulted]; exact nofun)
  have hname : unplugged.world.deviceClaim = .device "camera" := by decide +kernel
  rw [hname] at hholds
  exact ⟨hstate, hholds, fun event e' hs => (hstep event e' hs).2.1 hfaulted⟩

end Engine

end UsbVideo
