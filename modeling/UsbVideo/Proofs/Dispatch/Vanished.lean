import UsbVideo.Proofs.Dispatch.Events
import UsbVideo.Proofs.Dispatch.Balance
import UsbVideo.Proofs.Engine.Books
import UsbVideo.Proofs.Transport.Overheard

/-!
# A device that is gone

A completion may say that the device is gone. A dispatch that is told so in turn returns the fault in
the same step and asks its bus stack for nothing more. Told so early, it holds the news behind the
transfers that are still to come, as it does with everything that is early, and submits the buffer
again (`gone_at_once_iff`).
-/

namespace UsbVideo

/-- Nothing that was not ready is ready when a number other than the next is held. -/
theorem ReorderWindow.ready?_hold {w : ReorderWindow} {id : Nat} {r : Received} (h : id ≠ w.next)
    (hturn : w.next ∉ w.parked) : (w.hold id r).ready? = none := by
  apply Option.map_eq_none_iff.mpr
  apply List.find?_eq_none.mpr
  intro entry hentry
  have hne : entry.1 ≠ w.next := by
    rcases List.mem_cons.mp hentry with rfl | hentry
    · exact h
    · intro heq
      exact hturn (heq ▸ List.mem_map_of_mem (List.mem_filter.mp hentry).1)
  simpa [ReorderWindow.hold] using hne

theorem DispatchTally.releaseReady_of_none {t : DispatchTally} {w : ReorderWindow}
    (h : w.ready? = none) : t.releaseReady w = (t, w, [], none) := by
  rw [releaseReady]
  split
  · rfl
  · next r hready => rw [h] at hready; cases hready

namespace Dispatch

variable {τ : Type} [Transport τ]

/-- A round of submissions asks the bus stack for what submitting a pool would. -/
theorem submitAll_device (d : Dispatch) (l : Ledger (Overheard τ)) (transfers : List Transfer) :
    (d.submitAll l transfers).device = (d.submitPool l transfers).2.2 := by
  induction transfers generalizing d l with
  | nil => rfl
  | cons transfer rest ih =>
    unfold submitAll submitPool
    split
    · next d' l' _ => exact ih d' l'
    · split
      · rfl
      · rfl

/-- A submission that is accepted was granted and is on the books. -/
theorem submit_granted {d d' : Dispatch} {transfer : Transfer} {l l' : Ledger (Overheard τ)}
    (h : d.submit transfer l = (none, d', l')) :
    l.Heard [.submit d.mailbox d.nextId true] l' ∧
      l'.accepted = l.accepted ++ [(d.mailbox, transfer.prepare d.nextId)] := by
  unfold submit at h
  split at h
  · cases h
  · next l'' hok =>
    cases h
    exact ⟨.granted hok, (Ledger.submit_ok hok).1⟩

theorem submit_denied {d d' : Dispatch} {transfer : Transfer} {l l' : Ledger (Overheard τ)}
    {refusal : Refusal} (h : d.submit transfer l = (some refusal, d', l')) :
    l.Heard [.submit d.mailbox d.nextId false] l' := .refused (submit_eq_some h).2

/-- The first transfer of a pool is submitted first, under the next number. -/
theorem submitPool_first (d : Dispatch) (l : Ledger (Overheard τ)) (transfer : Transfer)
    (rest : List Transfer) :
    ∃ granted later, l.Heard (.submit d.mailbox d.nextId granted :: later)
        (d.submitPool l (transfer :: rest)).2.2 ∧
      (granted = true → ∃ more, (d.submitPool l (transfer :: rest)).2.2.accepted =
        l.accepted ++ (d.mailbox, transfer.prepare d.nextId) :: more) := by
  unfold submitPool
  rcases hsubmit : d.submit transfer l with ⟨_ | refusal, d', l'⟩
  · obtain ⟨hheard, haccepted⟩ := submit_granted hsubmit
    obtain ⟨later, hrest, -⟩ := submitPool_heard d' l' rest
    obtain ⟨transfers, hmore⟩ := (d'.submitPool_grew l' rest).accepted
    refine ⟨true, later, hheard.trans hrest, fun _ => ⟨transfers.map (d'.mailbox, ·), ?_⟩⟩
    dsimp only
    rw [hmore, haccepted, List.append_assoc, List.singleton_append]
  · exact ⟨false, [], submit_denied hsubmit, fun h => absurd h Bool.false_ne_true⟩

/-! ### Told in turn, and early -/

variable {d : Dispatch} {c : Completion}

/-- Told in turn that the device is gone, a dispatch returns the fault and does nothing else. -/
theorem receive_gone {σ : Type} [Transport σ] {l : σ} (hid : c.transfer.id = d.window.next)
    (gone : c.status = .noDevice) :
    (d.receive c l).fault = some .disconnected ∧ (d.receive c l).device = l := by
  have hprocess : (d.tally.process (.ofCompletion c)).2.2 = some .disconnected := by
    unfold DispatchTally.process Received.ofCompletion
    rw [gone]
  have hfault : (d.takeIn c).2.2 = some .disconnected := by
    rcases d.takeIn_cases c with ⟨-, -, -, -, hout⟩ | ⟨-, hnone, -⟩ | ⟨hearly, -⟩
    · rw [hout, hprocess]
    · rw [hprocess] at hnone
      cases hnone
    · exact absurd hid hearly
  rw [receive_eq, hfault]
  exact ⟨rfl, rfl⟩

/-- What is early is held, whatever its status, and its buffer is the first to be submitted again. -/
theorem takeIn_early (hid : c.transfer.id ≠ d.window.next) (hturn : d.window.next ∉ d.window.parked) :
    (d.takeIn c).1.window = d.window.hold c.transfer.id (.ofCompletion c) ∧
      (d.takeIn c).2 = ([], none) ∧ d.processed c = [] := by
  have hnone := ReorderWindow.ready?_hold (r := .ofCompletion c) hid hturn
  rcases d.takeIn_cases c with ⟨heq, -⟩ | ⟨heq, -⟩ | ⟨-, -, hwindow, hout⟩
  · exact absurd heq hid
  · exact absurd heq hid
  · rw [DispatchTally.releaseReady_of_none hnone] at hwindow hout
    refine ⟨hwindow, hout, ?_⟩
    rw [processed_early hid]
    exact DispatchTally.released_of_none hnone

/-- Receiving what is early comes to a round of submissions with its transfer at the head. -/
theorem receive_early {l : Ledger (Overheard τ)} (hid : c.transfer.id ≠ d.window.next)
    (hturn : d.window.next ∉ d.window.parked) :
    (d.receive c l).dispatch.window = d.window.hold c.transfer.id (.ofCompletion c) ∧
      (∃ granted later, l.Heard (.submit d.mailbox d.nextId granted :: later) (d.receive c l).device ∧
        (granted = true → ∃ more, (d.receive c l).device.accepted =
          l.accepted ++ (d.mailbox, c.transfer.prepare d.nextId) :: more)) ∧
      ((d.receive c l).fault ≠ none → ∃ error, d.events c l = [.refused error]) := by
  obtain ⟨-, hmailbox, hnextId, hidle, -⟩ := d.takeIn_frame c
  obtain ⟨hwindow, hout, hprocessed⟩ := takeIn_early hid hturn
  have hnofault : (d.takeIn c).2.2 = none := by rw [hout]
  refine ⟨?_, ?_, ?_⟩
  · rw [window_receive, hwindow]
  · have hdevice : (d.receive c l).device =
        (({ (d.takeIn c).1 with idle := [] } : Dispatch).submitPool l (c.transfer :: d.idle)).2.2 := by
      rw [receive_eq, hnofault]
      show ((d.takeIn c).1.refill l).device = _
      rw [refill, submitAll_device, hidle]
    have hfirst := submitPool_first { (d.takeIn c).1 with idle := [] } l c.transfer d.idle
    rw [← hdevice, hmailbox, hnextId] at hfirst
    exact hfirst
  · intro hfault
    obtain ⟨hjudged, -, -⟩ := d.judged_receive c l
    have hevents : d.events c l = (d.takeIn c).1.refusals l := by
      rw [events, hprocessed, hnofault]
      rfl
    rw [hevents, refusals] at hjudged ⊢
    -- Without a refusal there is no event, and so there is no fault.
    rcases hrefused : ({ (d.takeIn c).1 with idle := [] }.submitPool l (d.takeIn c).1.idle).1 with
      _ | error
    · rw [hrefused] at hjudged
      exact absurd hjudged.fault_of_nil hfault
    · exact ⟨error, by rw [hrefused]; rfl⟩

end Dispatch

namespace Scene

variable {τ κ ν : Type} [Transport τ] [StreamClient κ ν]

/-- **A device that is gone is reported at once exactly in turn.** Receiving a completion that says so
returns the fault and asks the bus stack for nothing if and only if its turn has come. If it is early
it is held, no turn passes, and the first thing the bus stack is asked for is to take its buffer for
another round; all that can come of this step is the fault of a refusal. -/
theorem gone_at_once_iff {s : Scene (Overheard τ) κ} (h : Reachable s) (running : s.Running)
    {c : Completion} (gone : c.status = .noDevice) :
    let r := s.dispatch.receive c s.device
    (r.fault = some .disconnected ∧ s.device.Heard [] r.device ↔
      c.transfer.id = s.dispatch.window.next) ∧
    (c.transfer.id ≠ s.dispatch.window.next →
      r.dispatch.window = s.dispatch.window.hold c.transfer.id (.ofCompletion c) ∧
      (∃ granted later,
        s.device.Heard (.submit s.dispatch.mailbox s.dispatch.nextId granted :: later) r.device ∧
          (granted = true → ∃ more, r.device.accepted = s.device.accepted ++
            (s.dispatch.mailbox, c.transfer.prepare s.dispatch.nextId) :: more)) ∧
      (r.fault ≠ none → ∃ error, s.dispatch.events c s.device = [.refused error])) := by
  have hearly : c.transfer.id ≠ s.dispatch.window.next → _ := fun hid =>
    Dispatch.receive_early (l := s.device) hid (h.balanced.2 running).turn
  refine ⟨⟨fun ⟨_, hnothing⟩ => ?_, fun hid => ?_⟩, hearly⟩
  · by_contra hid
    obtain ⟨-, ⟨granted, later, hheard, -⟩, -⟩ := hearly hid
    rw [Ledger.Heard, hnothing] at hheard
    simp at hheard
  · obtain ⟨hfault, hdevice⟩ := Dispatch.receive_gone (l := s.device) hid gone
    refine ⟨hfault, ?_⟩
    rw [hdevice]
    exact .refl s.device

/-! ### The news behind a transfer that is still to come -/

/-- Three transfers, the second of which comes back first and says that the device is gone. -/
def unplugged : Scene (Overheard ScriptedTransport) Recorder :=
  let plan : TransferPlan :=
    { endpoint := 0x81, kind := .bulk, packetSize := 4, packetsPerRequest := 1, requestCount := 3
      cancelTimeout := 500 }
  let pool := List.replicate 3 (Transfer.bulk 0x81 (Buffer.zeroed 4))
  let s := launch plan 0 pool 0 { name := 0 } { device := {} }
  let completed := s.device.device.device.completeNth 1 .noDevice id
  s.act { s.device.device with device := completed.2.2 } completed.2.1

theorem reachable_unplugged : Reachable unplugged := by
  refine .step (@Reachable.launch _ _ _ _ _ 4 (.ofSize 240) _ _ _ _ _ _ ?_ ?_) (.act _ _ _) ?_
  · rfl
  · rfl
  · decide +kernel

/-- What the second transfer brought. -/
def unpluggedNews : Completion :=
  { transfer := (Transfer.bulk 0x81 (Buffer.zeroed 4)).prepare 2, status := .noDevice }

theorem gone_at_once_unplugged :
    Reachable unplugged ∧ unplugged.Running ∧ unpluggedNews.status = .noDevice ∧
      ((unplugged.dispatch.receive unpluggedNews unplugged.device).fault = some .disconnected ∧
          unplugged.device.Heard []
            (unplugged.dispatch.receive unpluggedNews unplugged.device).device ↔
        unpluggedNews.transfer.id = unplugged.dispatch.window.next) :=
  have hrunning : unplugged.Running := by decide +kernel
  ⟨reachable_unplugged, hrunning, rfl, (gone_at_once_iff reachable_unplugged hrunning rfl).1⟩

/-- The news waits in the inbox; taking it in returns no fault, and its buffer is in flight again. -/
theorem gone_unnoticed :
    Reachable unplugged ∧ unplugged.Running ∧ unplugged.task.inbox = [unpluggedNews] ∧
      unpluggedNews.status = .noDevice ∧
      (unplugged.dispatch.receive unpluggedNews unplugged.device).fault = none ∧
      unplugged.device.Heard [.submit 0 4 true]
        (unplugged.dispatch.receive unpluggedNews unplugged.device).device := by
  refine ⟨reachable_unplugged, ?_, rfl, rfl, ?_, ?_⟩
  · decide +kernel
  · decide +kernel
  · unfold Ledger.Heard
    decide +kernel

end Scene

end UsbVideo
