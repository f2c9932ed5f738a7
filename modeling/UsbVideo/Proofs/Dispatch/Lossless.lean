import UsbVideo.Proofs.Device.Contract
import UsbVideo.Proofs.Device.Splitting
import UsbVideo.Proofs.Dispatch.InOrder

/-!
# From the device to the frame

A camera in memory is given byte strings, splits them into payloads and queues these; a dispatch keeps
transfers in flight on it and hands on what they bring; a reassembler puts together what is handed on:

    strings ──split──▶ queue ──transfers──▶ dispatch ──▶ client ──reassembly──▶ the same strings

`Playback.Step` is whatever may happen on the way as long as there is no fault: transfers complete or
fail, submissions are refused and tried again, at any time. `Stocked` is what the camera keeps: what was
posted so far together with what is queued is all there ever was in the queue, and it was posted in the
order of the submissions. So what is handed on is always the beginning of it (`Reachable.handed`).
-/

namespace UsbVideo

/-- Bytes a payload may have: those of a packet slot, or of a whole buffer. -/
def TransferPlan.room (p : TransferPlan) : Nat :=
  match p.kind with
  | .isochronous => p.packetSize
  | .bulk => p.packetSize * p.packetsPerRequest

/-- A transfer that holds payloads of so many bytes. -/
structure Transfer.Fits (room : Nat) (t : Transfer) : Prop where
  formed : t.Formed
  packetSize : t.packetSize = room

namespace Transfer.Fits

variable {room : Nat} {t : Transfer}

theorem prepare (h : t.Fits room) (id : Nat) : (t.prepare id).Fits room :=
  ⟨h.formed.prepare id, h.packetSize⟩

end Transfer.Fits

/-- All transfers of a pool hold payloads of the size its plan has room for. -/
theorem Dispatch.fits_allocatePool {memory : Memory} {plan : TransferPlan} {size : Nat}
    {pool : List Transfer} (shape : poolShape plan = .ok size)
    (allocated : allocatePool memory plan size = .ok pool) :
    ∀ t ∈ pool, t.Fits plan.room := by
  have hsize := (poolShape_eq_ok.mp shape).2
  have hzeroed : (Buffer.zeroed size).size = size := Array.size_replicate
  intro t ht
  rw [allocatePool_eq allocated] at ht
  rw [List.eq_of_mem_replicate ht, blank]
  cases hkind : plan.kind with
  | isochronous =>
    refine ⟨Transfer.formed_isochronous ?_, ?_⟩
    · rw [hzeroed, hsize, Nat.mul_comm]
    · rw [TransferPlan.room, hkind]
      rfl
  | bulk =>
    refine ⟨Transfer.formed_bulk _ _, ?_⟩
    rw [TransferPlan.room, hkind]
    exact hzeroed.trans hsize

/-! ### What the camera keeps -/

/-- The books of a camera that serves one dispatch: what was posted was submitted first, nothing is in
what waits, and the payloads posted and those queued are all there ever were. -/
structure Stocked (room : Nat) (mailbox : Mailbox) (queued : List Bytes) (l : Ledger Loopback) :
    Prop where
  numbers : (l.postedTo mailbox).map (·.transfer.id) ++
    l.device.pending.toList.map (·.transfer.id) = l.acceptedFor mailbox
  pending : ∀ p ∈ l.device.pending.toList,
    p.mailbox = mailbox ∧ p.transfer.Fits room ∧ p.transfer.Blank
  posted : ∀ c ∈ l.postedTo mailbox, c.transfer.Fits room
  payloads : (l.postedTo mailbox).flatMap Completion.carried ++ l.device.payloads = queued

namespace Stocked

variable {room : Nat} {mailbox : Mailbox} {queued : List Bytes} {l l' : Ledger Loopback}
  {t : Transfer}

/-- A bus stack that posts in order keeps its contract. -/
theorem honest (h : Stocked room mailbox queued l) : l.Honest mailbox := by
  unfold Ledger.Honest
  rw [← h.numbers]
  exact (List.sublist_append_left _ _).subperm

/-- What concerns neither the queue nor the transfers leaves everything as it is. -/
theorem same (h : Stocked room mailbox queued l) (accepted : l'.accepted = l.accepted)
    (posted : l'.posted = l.posted) (pending : l'.device.pending = l.device.pending)
    (payloads : l'.device.payloads = l.device.payloads) : Stocked room mailbox queued l' := by
  have hposted : l'.postedTo mailbox = l.postedTo mailbox := by rw [Ledger.postedTo, posted]; rfl
  have haccepted : l'.acceptedFor mailbox = l.acceptedFor mailbox := by
    rw [Ledger.acceptedFor, accepted]
    rfl
  exact ⟨by rw [hposted, pending, haccepted, h.numbers], pending ▸ h.pending,
    hposted ▸ h.posted, by rw [hposted, payloads, h.payloads]⟩

/-- Before anything is submitted. -/
theorem fresh (room : Nat) (mailbox : Mailbox) {device : Loopback} (idle : device.pending = {}) :
    Stocked room mailbox device.payloads { device } := by
  refine ⟨?_, ?_, fun c hc => absurd hc List.not_mem_nil, rfl⟩
  · rw [idle]
    rfl
  · rw [idle]
    exact fun p hp => absurd hp List.not_mem_nil

/-- A submission waits behind the others, or comes back. -/
theorem submit (h : Stocked room mailbox queued l) (fits : t.Fits room) (blank : t.Blank) :
    Stocked room mailbox queued (Transport.submit mailbox t l).2 ∧
      ∀ refusal, (Transport.submit mailbox t l).1 = .error refusal → refusal.transfer = t := by
  rcases Loopback.submit_cases l mailbox t with ⟨error, count, hsubmit⟩ | ⟨-, hsubmit⟩
  · rw [hsubmit]
    exact ⟨h.same rfl rfl rfl rfl, fun refusal hrefusal => by cases hrefusal; rfl⟩
  · rw [hsubmit, Loopback.withSubmission]
    refine ⟨⟨?_, ?_, h.posted, h.payloads⟩, fun refusal hrefusal => by cases hrefusal⟩
    · have hnumbers := h.numbers
      simp only [Ledger.postedTo, Ledger.acceptedFor] at hnumbers ⊢
      simp [← hnumbers]
    · intro p hp
      rw [Lineup.toList_push] at hp
      rcases List.mem_append.mp hp with hp | hp
      · exact h.pending p hp
      · rw [List.mem_singleton.mp hp]
        exact ⟨rfl, fits, blank⟩

/-- Submitting a transfer: a refused one still fits. -/
theorem dispatch_submit {d : Dispatch} (h : Stocked room d.mailbox queued l) (fits : t.Fits room) :
    Stocked room d.mailbox queued (d.submit t l).2.2 ∧ (d.submit t l).2.1.mailbox = d.mailbox ∧
      ∀ refusal, (d.submit t l).1 = some refusal → refusal.transfer.Fits room := by
  obtain ⟨hstocked, hback⟩ := h.submit (fits.prepare d.nextId) (t.blank_prepare d.nextId)
  unfold Dispatch.submit
  split
  · next refusal l' hsubmit =>
    rw [hsubmit] at hstocked hback
    refine ⟨hstocked, rfl, fun refusal' hrefusal => ?_⟩
    cases hrefusal
    rw [hback refusal rfl]
    exact fits.prepare d.nextId
  · next l' hsubmit =>
    rw [hsubmit] at hstocked
    exact ⟨hstocked, rfl, fun refusal hrefusal => nomatch hrefusal⟩

theorem submitPool {d : Dispatch} (h : Stocked room d.mailbox queued l) (pool : List Transfer)
    (fits : ∀ t ∈ pool, t.Fits room) : Stocked room d.mailbox queued (d.submitPool l pool).2.2 := by
  induction pool generalizing d l with
  | nil => exact h
  | cons transfer rest ih =>
    obtain ⟨hfirst, hrest⟩ := List.forall_mem_cons.mp fits
    obtain ⟨hstocked, hmailbox, -⟩ := h.dispatch_submit hfirst
    unfold Dispatch.submitPool
    split
    · next d' l' hsubmit =>
      rw [hsubmit] at hstocked hmailbox
      dsimp only at hstocked hmailbox
      rw [← hmailbox] at hstocked
      rw [← hmailbox]
      exact ih hstocked hrest
    · next refusal d' l' hsubmit =>
      rw [hsubmit] at hstocked
      exact hstocked

theorem submitAll {d : Dispatch} (h : Stocked room d.mailbox queued l) (transfers : List Transfer)
    (fits : ∀ t ∈ transfers, t.Fits room) :
    Stocked room d.mailbox queued (d.submitAll l transfers).device ∧
      ∀ t ∈ (d.submitAll l transfers).dispatch.idle, t.Fits room := by
  induction transfers generalizing d l with
  | nil => exact ⟨h, fun t ht => absurd ht List.not_mem_nil⟩
  | cons transfer rest ih =>
    obtain ⟨hfirst, hrest⟩ := List.forall_mem_cons.mp fits
    obtain ⟨hstocked, hmailbox, hback⟩ := h.dispatch_submit hfirst
    unfold Dispatch.submitAll
    split
    · next d' l' hsubmit =>
      rw [hsubmit] at hstocked hmailbox
      dsimp only at hstocked hmailbox
      rw [← hmailbox] at hstocked
      rw [← hmailbox]
      exact ih hstocked hrest
    · next refusal d' l' hsubmit =>
      rw [hsubmit] at hstocked hback
      have hidle : ∀ t ∈ refusal.transfer :: rest, t.Fits room :=
        List.forall_mem_cons.mpr ⟨hback refusal rfl, hrest⟩
      -- Gone for good or not, the refused transfer is at hand again.
      split
      · exact ⟨hstocked, hidle⟩
      · exact ⟨hstocked, hidle⟩

theorem refill {d : Dispatch} (h : Stocked room d.mailbox queued l)
    (fits : ∀ t ∈ d.idle, t.Fits room) :
    Stocked room d.mailbox queued (d.refill l).device ∧
      ∀ t ∈ (d.refill l).dispatch.idle, t.Fits room :=
  submitAll (d := { d with idle := [] }) h d.idle fits

theorem receive {d : Dispatch} {c : Completion} (h : Stocked room d.mailbox queued l)
    (fits : ∀ t ∈ d.idle, t.Fits room) (fits' : c.transfer.Fits room) :
    Stocked room d.mailbox queued (d.receive c l).device ∧
      ∀ t ∈ (d.receive c l).dispatch.idle, t.Fits room := by
  obtain ⟨-, hmailbox, -, hidle, -⟩ := d.takeIn_frame c
  have hfits : ∀ t ∈ (d.takeIn c).1.idle, t.Fits room := by
    rw [hidle]
    exact List.forall_mem_cons.mpr ⟨fits', fits⟩
  rw [Dispatch.receive_eq]
  split
  · exact ⟨h, hfits⟩
  · rw [← hmailbox] at h ⊢
    exact h.refill hfits

/-- The oldest transfer comes back, with payloads from the front of the queue or with none. -/
theorem giveBack (h : Stocked room mailbox queued l) {p : PendingTransfer}
    {rest : List PendingTransfer} (oldest : l.device.pending.toList = p :: rest)
    {transfer : Transfer} {status : TransferStatus} {device : Loopback}
    (id : transfer.id = p.transfer.id) (fits : transfer.Fits room)
    (pending : device.pending = l.device.pending.eraseIdx 0)
    (payloads : (Completion.mk transfer status).carried ++ device.payloads = l.device.payloads) :
    Stocked room mailbox queued (l.act device [⟨p.mailbox, ⟨transfer, status⟩⟩]) := by
  obtain ⟨hmailbox, -, -⟩ := h.pending p (oldest ▸ List.mem_cons_self)
  have hposted : (l.act device [⟨p.mailbox, ⟨transfer, status⟩⟩]).postedTo mailbox =
      l.postedTo mailbox ++ [⟨transfer, status⟩] := by
    simp [Ledger.postedTo, Ledger.act, Post.completionsFor, hmailbox]
  have hpending : device.pending.toList = rest := by
    rw [pending, Lineup.toList_eraseIdx, oldest]
    rfl
  refine ⟨?_, ?_, ?_, ?_⟩
  · have hnumbers := h.numbers
    rw [oldest, List.map_cons, ← id] at hnumbers
    rw [hposted, List.map_append, List.append_assoc]
    show _ ++ ([transfer.id] ++ device.pending.toList.map _) = l.acceptedFor mailbox
    rw [hpending]
    exact hnumbers
  · show ∀ p ∈ device.pending.toList, _
    rw [hpending]
    exact fun p hp => h.pending p (oldest ▸ List.mem_cons_of_mem _ hp)
  · rw [hposted]
    intro c hc
    rcases List.mem_append.mp hc with hc | hc
    · exact h.posted c hc
    · rw [List.mem_singleton.mp hc]
      exact fits
  · rw [hposted, List.flatMap_append, List.flatMap_singleton, List.append_assoc]
    show _ ++ (_ ++ device.payloads) = queued
    rw [payloads, h.payloads]

/-- A transfer that completes takes payloads out of the queue; one that fails leaves them there. -/
theorem complete (h : Stocked room mailbox queued l)
    (whole : ∀ p ∈ queued, Loopback.Whole room p) (status : TransferStatus) :
    Stocked room mailbox queued
      (l.act (l.device.completeNext status).2.2 (l.device.completeNext status).2.1) := by
  unfold Loopback.completeNext Loopback.completeNth
  cases hpending : l.device.pending.toList with
  | nil => exact h.same rfl (List.append_nil _) rfl rfl
  | cons p rest =>
    obtain ⟨-, hfits, hblank⟩ := h.pending p (hpending ▸ List.mem_cons_self)
    dsimp only [List.getElem?_cons_zero]
    by_cases hsuccess : status.isSuccess = true
    · have hcompleted : status = .completed := by simpa [TransferStatus.isSuccess] using hsuccess
      have hwhole : ∀ q ∈ l.device.payloads, Loopback.Whole p.transfer.packetSize q := by
        rw [hfits.packetSize]
        exact fun q hq => whole q (h.payloads ▸ List.mem_append_right _ hq)
      obtain ⟨filled, rest, hfill, hread, hformed, hid, hsize⟩ :=
        Loopback.fill_spec hfits.formed hblank hwhole
      rw [if_pos hsuccess, hfill]
      refine h.giveBack hpending hid ⟨hformed, hsize.trans hfits.packetSize⟩ rfl ?_
      rw [Completion.carried, if_pos hcompleted]
      exact hread
    · rw [if_neg hsuccess]
      refine h.giveBack hpending rfl hfits rfl ?_
      have hfailed : status ≠ .completed := by simpa [TransferStatus.isSuccess] using hsuccess
      rw [Completion.carried, if_neg hfailed]
      rfl

/-- More payloads are queued. -/
theorem queue (h : Stocked room mailbox queued l) (more : List Bytes) {device : Loopback}
    (pending : device.pending = l.device.pending)
    (payloads : device.payloads = l.device.payloads ++ more) :
    Stocked room mailbox (queued ++ more) (l.act device []) := by
  have hposted : (l.act device []).postedTo mailbox = l.postedTo mailbox := by
    simp [Ledger.postedTo, Ledger.act, Post.completionsFor]
  refine ⟨?_, ?_, hposted ▸ h.posted, ?_⟩
  · rw [hposted]
    show _ ++ device.pending.toList.map _ = l.acceptedFor mailbox
    rw [pending]
    exact h.numbers
  · show ∀ p ∈ device.pending.toList, _
    rw [pending]
    exact h.pending
  · rw [hposted]
    show _ ++ device.payloads = queued ++ more
    rw [payloads, ← List.append_assoc, h.payloads]

end Stocked

/-! ### Runs -/

/-- A task that still runs did not move, took in the oldest completion, or submitted what was at hand. -/
theorem Scene.next_running {σ κ ν : Type} [Transport σ] [StreamClient κ ν] {a : Scene σ κ} {now : Nat}
    (running : (a.next now).Running) :
    a.next now = a ∨
      (∃ c, a.Running ∧ a.task.inbox = c :: (a.next now).task.inbox ∧
        (a.next now).dispatch = (a.dispatch.receive c a.device).dispatch ∧
        (a.next now).device = (a.dispatch.receive c a.device).device) ∨
      a.Running ∧ (a.next now).dispatch = (a.dispatch.refill a.device).dispatch ∧
        (a.next now).device = (a.dispatch.refill a.device).device := by
  cases hstep : a.task.step now a.client a.device with
  | none => exact .inl (by simp [next, hstep])
  | some s =>
    have hnext : a.next now = { task := s.task, client := s.client, device := s.device } := by
      simp [next, hstep]
    rw [hnext] at running ⊢
    unfold DispatchTask.step at hstep
    cases hphase : a.task.phase with
    | ended => simp [hphase] at hstep
    | leaving fault =>
      simp only [hphase] at hstep
      cases hstep
      cases running
    | draining deadline fault =>
      have hended (fault : Option StreamFault) (before : List (Effect ν)) :
          ¬ (a.task.conclude fault before a.client a.device).task.phase.isRunning = true :=
        (conclude_spec a.task fault before a.client a.device).2.2.2.2
      simp only [hphase] at hstep
      split at hstep
      · cases hstep
        exact absurd running (hended _ _)
      · split at hstep
        · cases hstep
          exact absurd running (by simp [Running, DispatchPhase.isRunning])
        · split at hstep <;> cases hstep
          exact absurd running (hended _ _)
    | running since =>
      have hrunning : a.Running := by simp [Running, hphase, DispatchPhase.isRunning]
      simp only [hphase] at hstep
      split at hstep
      · cases hstep
        cases running
      · split at hstep
        · next c inbox hinbox =>
          cases hstep
          exact .inr (.inl ⟨c, hrunning, hinbox, rfl, rfl⟩)
        · split at hstep <;> cases hstep
          exact .inr (.inr ⟨hrunning, rfl, rfl⟩)

/-- A camera in memory that plays byte strings to a dispatch. -/
structure Playback (κ : Type) where
  scene : Scene Loopback κ
  /-- The byte strings queued so far. -/
  strings : List Bytes
  /-- Their payloads. -/
  queued : List Bytes

namespace Playback

variable {κ ν : Type}

abbrev camera (p : Playback κ) : Loopback := p.scene.device.device

/-- Bytes a payload may have. -/
abbrev room (p : Playback κ) : Nat := p.scene.dispatch.plan.room

/-- A byte string is split and queued. -/
def queue (p : Playback κ) (data : Bytes) (size : Nat) : Playback κ :=
  { scene := p.scene.act (p.camera.queueFrame data size) []
    strings := p.strings ++ [data]
    queued := p.queued ++ Loopback.framePayloads p.camera.toggle (max (size - 2) 1)
      (max (divCeil data.length (max (size - 2) 1)) 1) data }

/-- The oldest transfer completes with this status, if there is one. -/
def complete (p : Playback κ) (status : TransferStatus) : Playback κ :=
  { p with
    scene := p.scene.act (p.camera.completeNext status).2.2 (p.camera.completeNext status).2.1 }

variable [StreamClient κ ν]

/-- One thing happens. -/
inductive Step : Playback κ → Playback κ → Prop where
  | queue (a : Playback κ) (data : Bytes) (size : Nat) (least : 3 ≤ size) (most : size ≤ a.room) :
      Step a (a.queue data size)
  | complete (a : Playback κ) (status : TransferStatus) : Step a (a.complete status)
  /-- The next submissions will be refused. -/
  | refuse (a : Playback κ) (count : Nat) :
      Step a { a with scene := a.scene.act { a.camera with failingSubmits := count } [] }
  /-- The task takes in a completion, or tries again what was refused. -/
  | run (a : Playback κ) (now : Nat) : Step a { a with scene := a.scene.next now }
  | client (a : Playback κ) (client : κ) :
      Step a { a with scene := { a.scene with client := { a.scene.client with client } } }

/-- All runs from the start of the stream on. Frames may have been queued before. -/
inductive Reachable : Playback κ → Prop where
  | launch {size : Nat} {memory : Memory} {strings : List Bytes} (plan : TransferPlan) (mailbox : Mailbox)
      (pool : List Transfer) (now : Nat) (client : κ) (camera : Loopback)
      (shape : Dispatch.poolShape plan = .ok size)
      (allocated : Dispatch.allocatePool memory plan size = .ok pool)
      (splits : Splits plan.room strings camera.payloads) (idle : camera.pending = {}) :
      Reachable
        { scene := .launch plan mailbox pool now client camera
          strings
          queued := camera.payloads }
  | step {a b : Playback κ} (h : Reachable a) (hs : Step a b) : Reachable b

/-! ### What holds along a run -/

/-- The camera keeps its books, all transfers at hand fit, and what is queued are payloads of the
strings. -/
structure Plays (p : Playback κ) : Prop where
  reachable : p.scene.Reachable
  stocked : Stocked p.room p.scene.dispatch.mailbox p.queued p.scene.device
  idle : ∀ t ∈ p.scene.dispatch.idle, t.Fits p.room
  splits : Splits p.room p.strings p.queued

variable {a b p : Playback κ}

/-- What is in the inbox was posted, and fits. -/
theorem Plays.inbox (h : Plays p) : ∀ c ∈ p.scene.task.inbox, c.transfer.Fits p.room := by
  obtain ⟨taken, hposted, -⟩ := h.reachable.booked.taken
  exact fun c hc => h.stocked.posted c (hposted ▸ List.mem_append_right _ hc)

/-- The task goes on with its work. -/
theorem Plays.run (h : Plays p) (now : Nat) (running : (p.scene.next now).Running) :
    Plays { p with scene := p.scene.next now } := by
  have hplan : (p.scene.next now).dispatch.plan = p.scene.dispatch.plan :=
    (Scene.Step.run p.scene now).turn.plan
  have hdone (stocked : Stocked p.room (p.scene.next now).dispatch.mailbox p.queued
        (p.scene.next now).device)
      (idle : ∀ t ∈ (p.scene.next now).dispatch.idle, t.Fits p.room) :
      Plays { p with scene := p.scene.next now } := by
    rw [room, ← hplan] at stocked idle
    refine ⟨h.reachable.step (.run _ now) stocked.honest, stocked, idle, ?_⟩
    show Splits (p.scene.next now).dispatch.plan.room p.strings p.queued
    rw [hplan]
    exact h.splits
  rcases Scene.next_running running with hsame | ⟨c, -, hinbox, hdispatch, hdevice⟩ |
    ⟨-, hdispatch, hdevice⟩
  · rw [hsame] at hdone ⊢
    exact hdone h.stocked h.idle
  · have hfits := h.inbox c (hinbox ▸ List.mem_cons_self)
    obtain ⟨hstocked, hidle⟩ := h.stocked.receive h.idle hfits
    refine hdone ?_ (hdispatch ▸ hidle)
    rw [hdispatch, hdevice, (Scene.posted_receive p.scene.dispatch c p.scene.device).1]
    exact hstocked
  · obtain ⟨hstocked, hidle⟩ := h.stocked.refill h.idle
    obtain ⟨-, n, hsubmitted, -⟩ := p.scene.dispatch.refill_submitted p.scene.device
    refine hdone ?_ (hdispatch ▸ hidle)
    rw [hdispatch, hdevice, hsubmitted.mailbox]
    exact hstocked

/-- The camera does something of its own. -/
theorem Plays.act (h : Plays p) {device : Loopback} {posts : List Post} {strings queued : List Bytes}
    (stocked : Stocked p.room p.scene.dispatch.mailbox queued (p.scene.device.act device posts))
    (splits : Splits p.room strings queued) :
    Plays { scene := p.scene.act device posts, strings, queued } :=
  ⟨h.reachable.step (.act _ device posts) stocked.honest, stocked, h.idle, splits⟩

theorem Step.plays (hs : Step a b) (h : a.scene.Running → Plays a) (running : b.scene.Running) :
    Plays b := by
  cases hs with
  | queue data size least most =>
    have ha := h running
    exact ha.act (ha.stocked.queue _ rfl rfl) (ha.splits.snoc _ data size least most)
  | complete status =>
    have ha := h running
    exact ha.act (ha.stocked.complete ha.splits.whole status) ha.splits
  | refuse count =>
    have ha := h running
    exact ha.act (ha.stocked.same rfl (List.append_nil _) rfl rfl) ha.splits
  | run now =>
    refine (h ?_).run now running
    rcases Scene.next_running running with hsame | ⟨-, hrunning, -⟩ | ⟨hrunning, -⟩
    · rw [← hsame]
      exact running
    · exact hrunning
    · exact hrunning
  | client client =>
    have ha := h running
    exact ⟨ha.reachable.step (.client _ client) ha.stocked.honest, ha.stocked, ha.idle, ha.splits⟩

theorem Reachable.plays (h : Reachable p) (running : p.scene.Running) : Plays p := by
  induction h with
  | launch plan mailbox pool now client camera shape allocated splits idle =>
    obtain ⟨-, -, n, hsubmitted, hnone, -⟩ :=
      Scene.launch_submitted plan mailbox pool now client camera
    have hstocked := (Stocked.fresh plan.room mailbox idle).submitPool
      (d := { plan, mailbox }) pool (Dispatch.fits_allocatePool shape allocated)
    refine ⟨.launch plan mailbox pool now client camera shape allocated, ?_, ?_, ?_⟩
    · rw [room, hsubmitted.plan, hsubmitted.mailbox]
      exact hstocked
    · rw [hnone]
      exact fun t ht => absurd ht List.not_mem_nil
    · rw [room, hsubmitted.plan]
      exact splits
  | step _ hs ih => exact hs.plays ih running

/-! ### What is handed on -/

/-- Members of a list in the order of their numbers, which are those of the first ones, are the first
ones. -/
theorem prefix_of_numbers {α : Type} {f : α → Nat} {some all : List α} {k n : Nat}
    (hsome : some.map f = List.range' 1 k) (hall : all.map f = List.range' 1 n)
    (mem : ∀ a ∈ some, a ∈ all) : some <+: all := by
  rw [List.prefix_iff_getElem?]
  intro i hi
  have hnumber (as : List α) (m j : Nat) (has : as.map f = List.range' 1 m) (hj : j < as.length) :
      f as[j] = 1 + j := by
    have hget : (as.map f)[j]? = Option.some (f as[j]) := by simp [hj]
    rw [has] at hget
    obtain ⟨_, hget⟩ := List.getElem?_eq_some_iff.mp hget
    simpa using hget.symm
  obtain ⟨j, hj, heq⟩ := List.getElem_of_mem (mem some[i] (List.getElem_mem hi))
  have hfirst := hnumber some k i hsome hi
  have hplace := hnumber all n j hall hj
  rw [heq, hfirst] at hplace
  obtain rfl : i = j := by omega
  rw [List.getElem?_eq_getElem hj, heq]

/-- What was handed on is the beginning of what was queued. -/
theorem Plays.handed (h : Plays p) : p.scene.client.payloads <+: p.queued := by
  obtain ⟨-, ⟨turns, hturns, hmem, hpayloads⟩, -⟩ := Scene.payloads_in_turn h.reachable
  have hnumbers := h.stocked.numbers
  rw [h.reachable.booked.accepted, Dispatch.issued, eq_comm, List.range'_eq_append_iff] at hnumbers
  obtain ⟨n, -, hposted, -⟩ := hnumbers
  obtain ⟨later, hlater⟩ := prefix_of_numbers hturns hposted hmem
  rw [hpayloads, ← h.stocked.payloads, ← hlater, List.flatMap_append, List.append_assoc]
  exact List.prefix_append _ _

/-- **Nothing is lost on the way.** Whatever the sizes at which byte strings were split, whatever the
shape of the pool and whichever transfers failed, as long as there was no fault: what was handed on is
the beginning of what was queued. Once it is all of it, reassembly has given back exactly the strings
that are not empty, in order and numbered from 1, complained of nothing, and has nothing in progress. -/
theorem lossless (h : Reachable p) (running : p.scene.Running) :
    p.scene.client.payloads <+: p.queued ∧
      (p.scene.client.payloads.length = p.queued.length → ∀ layout : FrameLayout,
        (∀ data ∈ p.strings, ∀ max ∈ layout.maxFrameSize, data.length ≤ max) →
          let result := (Reassembler.new layout).pushAll p.scene.client.payloads
          result.1 = layout.frames p.strings ∧ result.2.inProgress = 0) := by
  have hplays := h.plays running
  refine ⟨hplays.handed, fun all layout fits => ?_⟩
  rw [hplays.handed.eq_of_length all]
  obtain ⟨hframes, hidle⟩ := hplays.splits.reassembled fits
  refine ⟨hframes, ?_⟩
  rw [Reassembler.inProgress, hidle.buffer]
  rfl

/-! ### Three strings -/

/-- Two transfers of two packets each. The first one takes two of the payloads of seven bytes; the second
one stalls, and a submission is refused. -/
def halfway : Playback Recorder :=
  let plan : TransferPlan :=
    { endpoint := 0x81, kind := .isochronous, packetSize := 5, packetsPerRequest := 2
      requestCount := 2, cancelTimeout := 500 }
  let pool := List.replicate 2 (Transfer.isochronous 0x81 5 2 (Buffer.zeroed 10))
  let start : Playback Recorder :=
    { scene := .launch plan 0 pool 0 { name := 0 } { name := "camera", model := {} }
      strings := []
      queued := [] }
  let stalled := (((start.queue [1, 2, 3, 4, 5, 6, 7] 5).queue [] 5).complete .completed).complete
    .stall
  let refused :=
    { stalled with scene := stalled.scene.act { stalled.camera with failingSubmits := 1 } [] }
  let received := { refused with scene := refused.scene.next 1 }
  { received with scene := received.scene.next 2 }

/-- Both transfers are in flight again and bring the rest. -/
def played : Playback Recorder :=
  let completed := ((halfway.queue [8, 9] 4).complete .completed).complete .completed
  let received := { completed with scene := completed.scene.next 3 }
  { received with scene := received.scene.next 4 }

theorem reachable_played : Reachable played := by
  have hstart := @Reachable.launch Recorder _ _ _ (.ofSize 160) _
    { endpoint := 0x81, kind := .isochronous, packetSize := 5, packetsPerRequest := 2
      requestCount := 2, cancelTimeout := 500 } 0
    (List.replicate 2 (Transfer.isochronous 0x81 5 2 (Buffer.zeroed 10))) 0 { name := 0 }
    { name := "camera", model := {} } rfl rfl .nil rfl
  have hhalfway : Reachable halfway :=
    ((((((hstart.step (.queue _ [1, 2, 3, 4, 5, 6, 7] 5 (by decide) (by decide))).step
      (.queue _ [] 5 (by decide) (by decide))).step (.complete _ .completed)).step
        (.complete _ .stall)).step (.refuse _ 1)).step (.run _ 1)).step (.run _ 2)
  exact ((((hhalfway.step (.queue _ [8, 9] 4 (by decide) (by decide +kernel))).step
    (.complete _ .completed)).step (.complete _ .completed)).step (.run _ 3)).step (.run _ 4)

/-- The empty string leaves no trace. -/
theorem lossless_played :
    let layout : FrameLayout := { encoding := .mjpeg, width := 1, height := 1, maxFrameSize := some 7 }
    let result := (Reassembler.new layout).pushAll played.scene.client.payloads
    played.scene.Running ∧ played.scene.client.payloads.length = played.queued.length ∧
      played.strings = [[1, 2, 3, 4, 5, 6, 7], [], [8, 9]] ∧
      result.1 =
        [.frame (layout.frame 1 [1, 2, 3, 4, 5, 6, 7]), .frame (layout.frame 2 [8, 9])] ∧
      result.2.inProgress = 0 := by
  intro layout
  have hrunning : played.scene.Running := by decide +kernel
  have hall : played.scene.client.payloads.length = played.queued.length := by decide +kernel
  have hstrings : played.strings = [[1, 2, 3, 4, 5, 6, 7], [], [8, 9]] := by decide +kernel
  have hfits : ∀ data ∈ played.strings, ∀ max ∈ layout.maxFrameSize, data.length ≤ max := by
    rw [hstrings]
    decide
  obtain ⟨hframes, hnothing⟩ := (lossless reachable_played hrunning).2 hall layout hfits
  rw [hstrings] at hframes
  exact ⟨hrunning, hall, hstrings, hframes, hnothing⟩

end Playback

end UsbVideo
