import Mathlib.Data.List.Nodup
import UsbVideo.Proofs.Dispatch.InFlight

/-!
# No number and no buffer is lost

While a dispatch runs, every number given is in one of three places, and every buffer in one of two:

    numbers:  turn over  |  held for later  |  in flight
    buffers:  in flight  |  at hand

`Balanced` is this invariant together with the counters. Its heart is `Covers`: the three places hold
each number exactly once. So the number whose turn it is can only be in flight or not given yet, and
the window never waits for a number that cannot complete (`window_never_stalls`).
-/

namespace UsbVideo

/-! ### Where the numbers are -/

/-- Each number given has passed, is held, or is in flight, and only one of these. -/
def ReorderWindow.Covers (w : ReorderWindow) (inFlight issued : List Nat) : Prop :=
  (w.passed ++ w.parked ++ inFlight).Perm issued

namespace ReorderWindow

variable {w w' : ReorderWindow} {inFlight issued more : List Nat} {id : Nat} {r : Received}

theorem Covers.nodup (h : w.Covers inFlight issued) (hissued : issued.Nodup) :
    (w.passed ++ w.parked ++ inFlight).Nodup :=
  h.nodup_iff.mpr hissued

theorem Covers.nodup_parked (h : w.Covers inFlight issued) (hissued : issued.Nodup) :
    w.parked.Nodup :=
  (List.nodup_append.mp (List.nodup_append.mp (h.nodup hissued)).1).2.1

theorem Covers.not_parked (h : w.Covers inFlight issued) (hissued : issued.Nodup)
    (hid : id ∈ inFlight) : id ∉ w.parked := by
  intro hparked
  have hdisjoint := (List.nodup_append.mp (h.nodup hissued)).2.2
  exact hdisjoint id (List.mem_append_right _ hparked) id hid rfl

/-- A number that leaves the flight takes its place between those that passed and the held ones. -/
theorem Covers.leave (h : w.Covers inFlight issued) (hid : id ∈ inFlight) :
    (w.passed ++ id :: (w.parked ++ inFlight.erase id)).Perm issued := by
  have hmove : (id :: (w.parked ++ inFlight.erase id)).Perm (w.parked ++ inFlight) :=
    List.perm_middle.symm.trans ((List.perm_cons_erase hid).symm.append_left _)
  have hall := hmove.append_left w.passed
  rw [← List.append_assoc w.passed w.parked] at hall
  exact hall.trans h

/-- Holding a number that is not held adds it. -/
theorem held_hold (h : id ∉ w.parked) (r : Received) : (w.hold id r).held = (id, r) :: w.held := by
  have hkeep : w.held.filter (·.1 ≠ id) = w.held := by
    apply List.filter_eq_self.mpr
    intro entry hentry
    have hne : entry.1 ≠ id := fun heq => h (List.mem_map.mpr ⟨entry, hentry, heq⟩)
    simpa using hne
  rw [hold, hkeep]

theorem Covers.hold (h : w.Covers inFlight issued) (hissued : issued.Nodup) (hid : id ∈ inFlight) :
    (w.hold id r).Covers (inFlight.erase id) issued := by
  have hparked : (w.hold id r).parked = id :: w.parked := by
    rw [parked, held_hold (h.not_parked hissued hid), List.map_cons, ← parked]
  have hpassed : (w.hold id r).passed = w.passed := rfl
  rw [Covers, hpassed, hparked, List.append_assoc, List.cons_append]
  exact h.leave hid

theorem Covers.advance (h : w.Covers inFlight issued) (hpos : 1 ≤ w.next)
    (hid : w.next ∈ inFlight) : w.advance.Covers (inFlight.erase w.next) issued := by
  have hpassed : w.advance.passed = w.passed ++ [w.next] := passed_next rfl hpos
  have hparked : w.advance.parked = w.parked := rfl
  rw [Covers, hpassed, hparked, List.append_assoc, List.append_assoc, List.singleton_append]
  exact h.leave hid

/-- What is ready is the only one held under its number: without it, the others are left. -/
theorem held_pass (hnodup : w.parked.Nodup) (hready : w.ready? = some r) :
    w.held.Perm ((w.next, r) :: w.pass.held) := by
  obtain ⟨before, after, hsplit⟩ := List.append_of_mem (mem_of_ready hready)
  have hkeep : w.pass.held = before ++ after := by
    rw [parked, hsplit, List.map_append, List.map_cons, List.nodup_middle, List.nodup_cons,
      ← List.map_append] at hnodup
    have hothers : ∀ entry ∈ before ++ after, entry.1 ≠ w.next :=
      fun entry hentry heq => hnodup.1 (List.mem_map.mpr ⟨entry, hentry, heq⟩)
    have hfilter : (before ++ after).filter (·.1 ≠ w.next) = before ++ after :=
      List.filter_eq_self.mpr fun entry hentry => by simpa using hothers entry hentry
    have hself : ((w.next, r) :: after).filter (·.1 ≠ w.next) = after.filter (·.1 ≠ w.next) :=
      List.filter_cons_of_neg (by simp)
    rw [pass, hsplit, List.filter_append, hself, ← List.filter_append, hfilter]
  rw [hkeep, hsplit]
  exact List.perm_middle

theorem Covers.pass (h : w.Covers inFlight issued) (hissued : issued.Nodup) (hpos : 1 ≤ w.next)
    (hready : w.ready? = some r) : w.pass.Covers inFlight issued := by
  have hpassed : w.pass.passed = w.passed ++ [w.next] := passed_next rfl hpos
  have hparked : (w.next :: w.pass.parked).Perm w.parked :=
    ((held_pass (h.nodup_parked hissued) hready).map Prod.fst).symm
  rw [Covers, hpassed, List.append_assoc w.passed, List.singleton_append]
  exact ((hparked.append_left w.passed).append_right inFlight).trans h

/-- The number whose turn it is, unless it is held, is in flight or the next to be given. -/
theorem Covers.next_in_flight {last : Nat} (h : w.Covers inFlight (List.range' 1 (last - 1)))
    (hpos : 1 ≤ w.next) (hlast : 1 ≤ last) (hturn : w.next ∉ w.parked) :
    w.next ∈ inFlight ∨ w.next = last ∧ w.held = [] ∧ inFlight = [] := by
  by_cases hgiven : w.next < last
  · have hmem : w.next ∈ List.range' 1 (last - 1) := by
      rw [List.mem_range'_1]
      omega
    rw [← h.mem_iff, List.mem_append, List.mem_append] at hmem
    rcases hmem with (hpassed | hparked) | hflight
    · rw [passed, List.mem_range'_1] at hpassed
      omega
    · exact absurd hparked hturn
    · exact .inl hflight
  · -- All numbers given have passed, so there is nothing left to be held or in flight.
    have hlength := h.length_eq
    rw [List.length_append, List.length_append, passed, parked, List.length_range',
      List.length_range', List.length_map] at hlength
    have hheld : w.held.length = 0 := by omega
    have hflight : inFlight.length = 0 := by omega
    exact .inr ⟨by omega, List.length_eq_zero_iff.mp hheld, List.length_eq_zero_iff.mp hflight⟩

theorem Covers.append (h : w.Covers inFlight issued) :
    w.Covers (inFlight ++ more) (issued ++ more) := by
  rw [Covers, ← List.append_assoc]
  exact h.append_right more

end ReorderWindow

/-! ### The balance of a dispatch -/

/-- Numbers, buffers and counters are all accounted for, and nothing that is ready is held back. -/
structure Dispatch.Balanced (d : Dispatch) : Prop where
  pos : 1 ≤ d.window.next
  numbers : d.window.Covers d.inFlight.toList d.issued
  turn : d.window.next ∉ d.window.parked
  buffers : d.inFlight.toList.length + d.idle.length = d.plan.requestCount
  counted : d.tally.stats.submitted =
    d.tally.settled + d.window.held.length + d.inFlight.toList.length

/-- Releasing what is ready keeps every number in its place. If there is no fault, nothing ready is
left, and each number that was held is still held or is counted. -/
theorem DispatchTally.releaseReady_covers (t : DispatchTally) {w : ReorderWindow}
    {inFlight issued : List Nat} (h : w.Covers inFlight issued) (hissued : issued.Nodup)
    (hpos : 1 ≤ w.next) :
    let s := t.releaseReady w
    s.1.stats.submitted = t.stats.submitted ∧
      (s.2.2.2 = none → 1 ≤ s.2.1.next ∧ s.2.1.Covers inFlight issued ∧
        s.2.1.next ∉ s.2.1.parked ∧
          s.1.settled + s.2.1.held.length = t.settled + w.held.length) := by
  fun_induction DispatchTally.releaseReady t w with
  | case1 t w hnone =>
    exact ⟨rfl, fun _ => ⟨hpos, h, ReorderWindow.next_not_parked hnone, rfl⟩⟩
  | case2 t w r hready t' outputs fault hprocess =>
    have hsubmitted := t.submitted_process r
    rw [hprocess] at hsubmitted
    exact ⟨hsubmitted, fun hnone => nomatch hnone⟩
  | case3 t w r hready t' outputs hprocess t'' w'' released fault hlater ih =>
    -- One more is counted and one fewer is held; the rest is the induction hypothesis.
    have hsubmitted := t.submitted_process r
    have hsettled := t.settled_process (r := r) (by rw [hprocess])
    rw [hprocess] at hsubmitted hsettled
    have hlength := (ReorderWindow.held_pass (h.nodup_parked hissued) hready).length_eq
    rw [List.length_cons] at hlength
    obtain ⟨hsame, hrest⟩ := ih (h.pass hissued hpos hready) (Nat.le_add_left 1 _)
    rw [hlater] at hsame hrest
    refine ⟨hsame.trans hsubmitted, fun hnone => ?_⟩
    obtain ⟨hpos', hcovers, hturn, hcount⟩ := hrest hnone
    refine ⟨hpos', hcovers, hturn, ?_⟩
    dsimp only at hsettled hcount ⊢
    omega

namespace Dispatch

/-- No buffer is in flight and all are at hand: a pool before it is submitted. -/
theorem balanced_fresh (plan : TransferPlan) (mailbox : Mailbox) {pool : List Transfer}
    (hpool : pool.length = plan.requestCount) : Balanced { plan, mailbox, idle := pool } where
  pos := Nat.le_refl 1
  numbers := List.Perm.refl []
  turn := List.not_mem_nil
  buffers := by simp [hpool]
  counted := rfl

namespace Balanced

variable {d d' : Dispatch} {c : Completion}

/-- Taking in a completion moves its number out of the flight and its buffer to those at hand. -/
theorem takeIn (h : d.Balanced) (hid : c.transfer.id ∈ d.inFlight.toList)
    (hfault : (d.takeIn c).2.2 = none) : (d.takeIn c).1.Balanced := by
  obtain ⟨hplan, -, hnextId, hidle, hinFlight⟩ := d.takeIn_frame c
  have hissued : (d.takeIn c).1.issued = d.issued := by rw [issued, hnextId, issued]
  have hflight := List.length_erase_of_mem hid
  have hsome := List.length_pos_of_mem hid
  have hbuffers := h.buffers
  have hcounted := h.counted
  have hsplit : (d.takeIn c).1.inFlight.toList.length + (d.takeIn c).1.idle.length =
      (d.takeIn c).1.plan.requestCount := by
    rw [hinFlight, hidle, hplan, hflight, List.length_cons]
    omega
  rcases d.takeIn_cases c with ⟨-, hfirst, -, -, hout⟩ | ⟨hturn, hfirst, htally, hwindow, hout⟩ |
    ⟨hearly, htally, hwindow, hout⟩
  · rw [hout] at hfault
    exact absurd hfault hfirst
  · -- Its turn has come: the number passes, and so may numbers that are held.
    have hcovers := h.numbers.advance h.pos (hturn ▸ hid)
    obtain ⟨hsame, hrest⟩ := DispatchTally.releaseReady_covers
      (d.tally.process (.ofCompletion c)).1 hcovers d.nodup_issued (Nat.le_add_left 1 _)
    rw [hout] at hfault
    obtain ⟨hpos, hnumbers, hnot, hcount⟩ := hrest hfault
    rw [d.tally.submitted_process] at hsame
    rw [DispatchTally.settled_process hfirst] at hcount
    refine ⟨hwindow ▸ hpos, ?_, hwindow ▸ hnot, hsplit, ?_⟩
    · rw [hwindow, hinFlight, hissued, hturn]
      exact hnumbers
    · have hkept : d.window.advance.held = d.window.held := rfl
      rw [hkept] at hcount
      rw [htally, hwindow, hinFlight, hsame, hflight]
      omega
  · -- It is early: the number is held, and nothing that was not ready before is ready now.
    have hcovers := h.numbers.hold (r := .ofCompletion c) d.nodup_issued hid
    obtain ⟨hsame, hrest⟩ :=
      DispatchTally.releaseReady_covers d.tally hcovers d.nodup_issued h.pos
    rw [hout] at hfault
    obtain ⟨hpos, hnumbers, hnot, hcount⟩ := hrest hfault
    refine ⟨hwindow ▸ hpos, ?_, hwindow ▸ hnot, hsplit, ?_⟩
    · rw [hwindow, hinFlight, hissued]
      exact hnumbers
    · have hadded := ReorderWindow.held_hold (h.numbers.not_parked d.nodup_issued hid)
        (.ofCompletion c)
      rw [hadded, List.length_cons] at hcount
      rw [htally, hwindow, hinFlight, hsame, hflight]
      omega

/-- Submitting moves buffers into the flight, each under a number of its own. -/
theorem submit {σ : Type} {l l' : Ledger σ} {n : Nat} (h : d.Balanced) (hpos : 1 ≤ d.nextId)
    (hs : Submitted n d d' l l') (hidle : n + d'.idle.length = d.idle.length) : d'.Balanced := by
  have hbuffers := h.buffers
  have hcounted := h.counted
  have hsettled : d'.tally.settled = d.tally.settled := by
    rw [DispatchTally.settled, hs.completed, hs.failed, DispatchTally.settled]
  refine ⟨hs.window ▸ h.pos, ?_, hs.window ▸ h.turn, ?_, ?_⟩
  · rw [hs.window, hs.inFlight, hs.issued hpos]
    exact h.numbers.append
  · rw [hs.inFlight, hs.plan, List.length_append, List.length_range']
    omega
  · rw [hs.submitted, hsettled, hs.window, hs.inFlight, List.length_append, List.length_range']
    omega

theorem receive {σ : Type} [Transport σ] {l : Ledger σ} (h : d.Balanced) (hpos : 1 ≤ d.nextId)
    (hid : c.transfer.id ∈ d.inFlight.toList) (hfault : (d.receive c l).fault = none) :
    (d.receive c l).dispatch.Balanced := by
  obtain ⟨-, -, hnextId, -, -⟩ := d.takeIn_frame c
  rw [receive_eq] at hfault ⊢
  split at hfault
  · cases hfault
  · next hnone =>
    obtain ⟨-, n, hsubmitted, hidle⟩ := (d.takeIn c).1.refill_submitted l
    exact (h.takeIn hid hnone).submit (hnextId ▸ hpos) hsubmitted hidle

end Balanced

/-- A pool has the buffers its plan asks for, and at least one. -/
theorem length_allocatePool {memory : Memory} {plan : TransferPlan} {size : Nat} {pool : List Transfer}
    (shape : poolShape plan = .ok size) (allocated : allocatePool memory plan size = .ok pool) :
    pool.length = plan.requestCount ∧ 0 < plan.requestCount := by
  rw [allocatePool_eq allocated]
  exact ⟨List.length_replicate, (poolShape_eq_ok.mp shape).1.2.1⟩

end Dispatch

/-! ### Along a run -/

namespace Scene

variable {σ κ ν : Type} [Transport σ]

/-- Every turn keeps the balance, as long as the task runs. -/
theorem Turn.balanced {a b : Scene σ κ} (t : Turn a b) (honest : a.Honest)
    (hbooked : Booked a.dispatch a.task.inbox a.device) (h : a.Running → a.dispatch.Balanced)
    (hrunning : b.Running) : b.dispatch.Balanced := by
  cases t with
  | arrival _ dispatch _ _ _ _ running =>
    rw [dispatch]
    exact h (running hrunning)
  | receive c running inbox dispatch _ _ fault =>
    rw [inbox] at hbooked
    rw [dispatch]
    exact (h running).receive hbooked.pos (hbooked.mem_inFlight honest) (fault hrunning)
  | retry running _ dispatch _ _ _ =>
    obtain ⟨-, n, hsubmitted, hidle⟩ := a.dispatch.refill_submitted a.device
    rw [dispatch]
    exact (h running).submit hbooked.pos hsubmitted hidle
  | reclaim _ _ _ _ _ running => exact absurd hrunning running

variable [StreamClient κ ν]

/-- A dispatch keeps its balance as long as it runs, and it has buffers. -/
theorem Reachable.balanced {s : Scene σ κ} (h : Reachable s) :
    0 < s.dispatch.plan.requestCount ∧ (s.Running → s.dispatch.Balanced) := by
  induction h with
  | launch plan mailbox pool now client device shape allocated =>
    obtain ⟨hpool, hpositive⟩ := Dispatch.length_allocatePool shape allocated
    obtain ⟨-, -, n, hsubmitted, hidle, hall⟩ :=
      launch_submitted plan mailbox pool now client device
    rw [hsubmitted.plan]
    refine ⟨hpositive, fun hrunning => ?_⟩
    have hwhole : Submitted 0 { plan, mailbox, idle := pool } { plan, mailbox }
        ({ device } : Ledger σ) { device } := .none rfl rfl rfl rfl rfl
    refine (Dispatch.balanced_fresh plan mailbox hpool).submit (Nat.le_refl 1)
      (hwhole.trans hsubmitted) ?_
    rw [hidle, hall hrunning]
    simp
  | step h hs _ ih =>
    obtain ⟨hpositive, hbalanced⟩ := ih
    refine ⟨?_, hs.turn.balanced h.honest h.booked hbalanced⟩
    rw [hs.turn.plan]
    exact hpositive

/-- **The window never stalls and no buffer is lost.** While a dispatch runs, each number given has
passed, is held or is in flight, and only one of these. The number whose turn it is is not held, so
it is in flight, or none is; the buffers in flight and at hand are all there are; and the counters
count every transfer. -/
theorem window_never_stalls {s : Scene σ κ} (h : Reachable s) (running : s.Running) :
    let d := s.dispatch
    (List.range' 1 (d.window.next - 1) ++ d.window.held.map (·.1) ++ d.inFlight.toList).Perm
        (List.range' 1 (d.nextId - 1)) ∧
      d.window.next ∉ d.window.held.map (·.1) ∧
      (d.window.next ∈ d.inFlight.toList ∨ d.window.next = d.nextId) ∧
      (d.inFlight.toList = [] → d.window.held = []) ∧
      d.inFlight.toList.length + d.idle.length = d.plan.requestCount ∧
      ¬ (d.inFlight.toList = [] ∧ d.idle = []) ∧
      d.tally.stats.submitted = d.tally.stats.completed + d.tally.stats.failed +
        d.window.held.length + d.inFlight.toList.length := by
  obtain ⟨hpositive, hbalanced⟩ := h.balanced
  have hb := hbalanced running
  have hnext := hb.numbers.next_in_flight hb.pos h.booked.pos hb.turn
  have hbuffers := hb.buffers
  refine ⟨hb.numbers, hb.turn, hnext.imp id (·.1), ?_, hbuffers, ?_, hb.counted⟩
  · intro hempty
    rcases hnext with hflight | ⟨-, hheld, -⟩
    · rw [hempty] at hflight
      exact absurd hflight List.not_mem_nil
    · exact hheld
  · rintro ⟨hflight, hidle⟩
    rw [hflight, hidle, List.length_nil, List.length_nil] at hbuffers
    omega

/-- The third is waited for while the fourth is held, and the three buffers are in flight. -/
theorem window_never_stalls_overtaken :
    Reachable overtaken ∧ overtaken.Running ∧ overtaken.dispatch.window.held.map (·.1) = [4] ∧
      overtaken.dispatch.inFlight.toList = [3, 5, 6] ∧
      (overtaken.dispatch.window.next ∈ overtaken.dispatch.inFlight.toList ∨
        overtaken.dispatch.window.next = overtaken.dispatch.nextId) :=
  have hrunning : overtaken.Running := by decide +kernel
  ⟨reachable_overtaken, hrunning, by decide +kernel, by decide +kernel,
    (window_never_stalls reachable_overtaken hrunning).2.2.1⟩

end Scene

end UsbVideo
