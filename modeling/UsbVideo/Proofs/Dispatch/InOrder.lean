import UsbVideo.Proofs.Dispatch.Balance

/-!
# Payloads are handed on in order

Whatever the order of completions, the client is handed the payloads of transfer 1, then those of
transfer 2, and so on, each as it was posted (`payloads_in_turn`).

`InTurn` is the invariant of window and client: the turns that are over were each taken by a posted
completion, and what is held is a copy of a posted completion. It does not mention buffers. A buffer
that is submitted again may be overwritten at once, but what counts from then on is the copy.
-/

namespace UsbVideo

variable {σ κ ν : Type}

/-- Every turn that is over was taken by a posted completion under its number, and the payloads handed
on are what these carried. -/
structure InTurn (posted : List Completion) (w : ReorderWindow) (handed : List Bytes) : Prop where
  pos : 1 ≤ w.next
  held : ∀ entry ∈ w.held, ∃ c ∈ posted, c.transfer.id = entry.1 ∧ Received.ofCompletion c = entry.2
  turns : ∃ cs : List Completion, cs.map (·.transfer.id) = w.passed ∧ (∀ c ∈ cs, c ∈ posted) ∧
    handed = cs.flatMap Completion.carried

namespace InTurn

variable {posted later : List Completion} {w w' : ReorderWindow} {handed : List Bytes} {c : Completion}

theorem mono (h : InTurn posted w handed) : InTurn (posted ++ later) w handed := by
  obtain ⟨cs, hids, hmem, hhanded⟩ := h.turns
  refine ⟨h.pos, fun entry hentry => ?_, cs, hids, ?_, hhanded⟩
  · obtain ⟨c, hc, heq⟩ := h.held entry hentry
    exact ⟨c, List.mem_append_left _ hc, heq⟩
  · exact fun c hc => List.mem_append_left _ (hmem c hc)

/-- A posted completion takes its turn and its payloads are handed on. -/
theorem take (h : InTurn posted w handed) (hc : c ∈ posted) (hid : c.transfer.id = w.next)
    (hnext : w'.next = w.next + 1) (hheld : ∀ entry ∈ w'.held, entry ∈ w.held) :
    InTurn posted w' (handed ++ c.carried) := by
  obtain ⟨cs, hids, hmem, hhanded⟩ := h.turns
  refine ⟨?_, fun entry hentry => h.held entry (hheld entry hentry), cs ++ [c], ?_, ?_, ?_⟩
  · rw [hnext]
    exact Nat.le_add_left 1 _
  · rw [List.map_append, hids, ReorderWindow.passed_next hnext h.pos, ← hid]
    rfl
  · intro c' hc'
    rcases List.mem_append.mp hc' with h' | h'
    · exact hmem c' h'
    · rw [List.mem_singleton.mp h']
      exact hc
  · rw [hhanded, List.flatMap_append, List.flatMap_singleton]

/-- A posted completion is held; nothing is handed on. -/
theorem hold (h : InTurn posted w handed) (hc : c ∈ posted) :
    InTurn posted (w.hold c.transfer.id (.ofCompletion c)) handed := by
  refine ⟨h.pos, ?_, h.turns⟩
  intro entry hentry
  rcases List.mem_cons.mp hentry with rfl | hentry
  · exact ⟨c, hc, rfl, rfl⟩
  · exact h.held entry (List.mem_filter.mp hentry).1

/-- What is held and has its turn takes it: it is the copy of a posted completion. -/
theorem pass (h : InTurn posted w handed) {r : Received} (hready : w.ready? = some r)
    (t : DispatchTally) :
    InTurn posted w.pass (handed ++ DispatchOutput.payloads (t.process r).2.1) := by
  obtain ⟨c, hc, hid, rfl⟩ := h.held _ (ReorderWindow.mem_of_ready hready)
  rw [DispatchTally.payloads_process]
  exact h.take hc hid rfl fun entry hentry => (List.mem_filter.mp hentry).1

/-- The held ones whose turn has come take their turns one after another. -/
theorem releaseReady (t : DispatchTally) (h : InTurn posted w handed) :
    InTurn posted (t.releaseReady w).2.1
      (handed ++ DispatchOutput.payloads (t.releaseReady w).2.2.1) := by
  fun_induction DispatchTally.releaseReady t w generalizing handed with
  | case1 t w hnone => simpa using h
  | case2 t w r hready t' outputs fault hprocess =>
    have hpass := h.pass hready t
    rw [hprocess] at hpass
    exact hpass
  | case3 t w r hready t' outputs hprocess t'' w'' released fault hlater ih =>
    have hpass := h.pass hready t
    rw [hprocess] at hpass
    have hrest := ih hpass
    rw [hlater] at hrest
    simpa using hrest

/-- Taking in a posted completion hands on the payloads of the turns that end with it. -/
theorem takeIn {d : Dispatch} (h : InTurn posted d.window handed) (hc : c ∈ posted) :
    InTurn posted (d.takeIn c).1.window
      (handed ++ DispatchOutput.payloads (d.takeIn c).2.1) := by
  -- With a fault at once, in its turn, or early.
  rcases d.takeIn_cases c with ⟨hid, -, -, hwindow, hout⟩ | ⟨hid, -, -, hwindow, hout⟩ |
    ⟨-, -, hwindow, hout⟩
  · rw [hwindow, hout, DispatchTally.payloads_process]
    exact h.take hc hid rfl fun _ hentry => hentry
  · rw [hwindow, hout, DispatchOutput.payloads_append, ← List.append_assoc,
      DispatchTally.payloads_process]
    exact releaseReady _ (h.take hc hid rfl fun _ hentry => hentry)
  · rw [hwindow, hout]
    exact releaseReady _ (h.hold hc)

/-- Receiving a posted completion does what taking it in does; submitting hands on nothing. -/
theorem receive [Transport σ] {d : Dispatch} {l : Ledger σ} (h : InTurn posted d.window handed)
    (hc : c ∈ posted) :
    InTurn posted (d.receive c l).dispatch.window
      (handed ++ DispatchOutput.payloads (d.receive c l).outputs) := by
  have htaken := h.takeIn hc
  rw [Dispatch.receive_eq]
  split
  · exact htaken
  · obtain ⟨hpayloads, n, hsubmitted, -⟩ := (d.takeIn c).1.refill_submitted l
    dsimp only
    rw [DispatchOutput.payloads_append, hpayloads, List.append_nil, hsubmitted.window]
    exact htaken

/-- Before anything is posted no turn is over. -/
theorem fresh : InTurn [] { next := 1 } [] :=
  ⟨Nat.le_refl 1, fun _ hentry => absurd hentry List.not_mem_nil, [], rfl, fun _ hc => hc, rfl⟩

end InTurn

/-! ### Along a run -/

namespace Scene

variable [Transport σ]

/-- Receiving and submitting post nothing. -/
theorem posted_receive (d : Dispatch) (c : Completion) (l : Ledger σ) :
    (d.receive c l).dispatch.mailbox = d.mailbox ∧ (d.receive c l).device.posted = l.posted := by
  obtain ⟨-, hmailbox, -⟩ := d.takeIn_frame c
  rw [Dispatch.receive_eq]
  split
  · exact ⟨hmailbox, rfl⟩
  · obtain ⟨-, n, hsubmitted, -⟩ := (d.takeIn c).1.refill_submitted l
    exact ⟨hsubmitted.mailbox.trans hmailbox, hsubmitted.posted⟩

omit [Transport σ] in
theorem posted_congr {a b : Scene σ κ} (mailbox : b.dispatch.mailbox = a.dispatch.mailbox)
    (books : b.device.posted = a.device.posted) : b.posted = a.posted := by
  rw [posted, posted, Ledger.postedTo, Ledger.postedTo, mailbox, books]

/-- Every turn hands on payloads in order. -/
theorem Turn.inTurn {a b : Scene σ κ} (t : Turn a b)
    (hbooked : Booked a.dispatch a.task.inbox a.device)
    (h : InTurn a.posted a.dispatch.window a.client.payloads) :
    InTurn b.posted b.dispatch.window b.client.payloads := by
  have hinbox : ∀ c ∈ a.task.inbox, c ∈ a.posted := by
    obtain ⟨taken, hposted, -⟩ := hbooked.taken
    intro c hc
    rw [posted, hposted]
    exact List.mem_append_right _ hc
  cases t with
  | arrival posts dispatch _ payloads _ posted _ =>
    have hmore : b.posted = a.posted ++ Post.completionsFor a.dispatch.mailbox posts := by
      rw [Scene.posted, Ledger.postedTo, dispatch, posted, Post.completionsFor_append]
      rfl
    rw [hmore, dispatch, payloads]
    exact h.mono
  | receive c _ inbox dispatch payloads device _ =>
    obtain ⟨hmailbox, hposts⟩ := posted_receive a.dispatch c a.device
    rw [posted_congr (dispatch ▸ hmailbox) (device ▸ hposts), dispatch, payloads]
    exact h.receive (hinbox c (inbox ▸ List.mem_cons_self))
  | retry _ _ dispatch payloads device _ =>
    obtain ⟨hnone, n, hsubmitted, -⟩ := a.dispatch.refill_submitted a.device
    rw [posted_congr (dispatch ▸ hsubmitted.mailbox) (device ▸ hsubmitted.posted), dispatch,
      payloads, hnone, List.append_nil, hsubmitted.window]
    exact h
  | reclaim c _ dispatch payloads device _ =>
    have hsame : b.posted = a.posted := posted_congr (congrArg (·.mailbox) dispatch) (by rw [device])
    rw [hsame, dispatch, payloads]
    exact h

variable [StreamClient κ ν]

/-- Payloads have been handed on in order at every point of a run. -/
theorem Reachable.inTurn {s : Scene σ κ} (h : Reachable s) :
    InTurn s.posted s.dispatch.window s.client.payloads := by
  induction h with
  | launch plan mailbox pool now client device _ _ =>
    obtain ⟨hpayloads, -, n, hsubmitted, -, -⟩ := launch_submitted plan mailbox pool now client device
    have hposted : (Scene.launch plan mailbox pool now client device).posted = [] := by
      rw [Scene.posted, Ledger.postedTo, hsubmitted.posted]
      rfl
    rw [hposted, hpayloads, hsubmitted.window]
    exact InTurn.fresh
  | step h hs _ ih => exact hs.turn.inTurn h.booked ih

/-- While a dispatch runs, a completion whose turn it is has not been taken in yet. -/
theorem Reachable.turn_in_inbox {s : Scene σ κ} (h : Reachable s) (running : s.Running)
    {c : Completion} (hc : c ∈ s.posted) (hid : c.transfer.id = s.dispatch.window.next) :
    c ∈ s.task.inbox := by
  have hb := h.balanced.2 running
  obtain ⟨taken, hposted, htaken⟩ := h.booked.taken
  have hperm : (taken.map (·.transfer.id)).Perm
      (s.dispatch.window.passed ++ s.dispatch.window.parked) :=
    (List.perm_append_right_iff _).mp (htaken.trans hb.numbers.symm)
  rw [posted, hposted] at hc
  rcases List.mem_append.mp hc with hmem | hmem
  · -- What was taken in has passed or is held, and neither holds of the number whose turn it is.
    have hnumber := hperm.mem_iff.mp (List.mem_map_of_mem (f := (·.transfer.id)) hmem)
    rw [hid] at hnumber
    rcases List.mem_append.mp hnumber with hpassed | hparked
    · rw [ReorderWindow.passed, List.mem_range'_1] at hpassed
      omega
    · exact absurd hparked hb.turn
  · exact hmem

/-- **Exactly once and in order.** At every point of every run on an honest bus stack, the completions
posted carry different numbers, and what the client was handed is what the transfers 1, 2, … carried
that had their turn, one after the other: the payloads of each as they were posted, and nothing for
one that failed. While the dispatch runs, none that was taken in is kept back when it has its turn. -/
theorem payloads_in_turn {s : Scene σ κ} (h : Reachable s) :
    (s.posted.map (·.transfer.id)).Nodup ∧
      (∃ turns : List Completion,
        turns.map (·.transfer.id) = List.range' 1 (s.dispatch.window.next - 1) ∧
          (∀ c ∈ turns, c ∈ s.posted) ∧ s.client.payloads = turns.flatMap Completion.carried) ∧
      (s.Running → ∀ c ∈ s.posted, c.transfer.id = s.dispatch.window.next → c ∈ s.task.inbox) :=
  ⟨h.booked.nodup_posted h.honest, h.inTurn.turns, fun running _ => h.turn_in_inbox running⟩

/-- The second transfer is handed on after the first has failed, and the fourth not yet. -/
theorem payloads_in_turn_overtaken :
    Reachable overtaken ∧ overtaken.posted.map (·.transfer.id) = [2, 1, 4] ∧
      overtaken.client.payloads = [[7, 8]] ∧
      ∃ turns : List Completion, turns.map (·.transfer.id) = [1, 2] ∧
        (∀ c ∈ turns, c ∈ overtaken.posted) ∧ turns.flatMap Completion.carried = [[7, 8]] := by
  have hhanded : overtaken.client.payloads = [[7, 8]] := by decide +kernel
  have hnext : overtaken.dispatch.window.next = 3 := by decide +kernel
  obtain ⟨-, ⟨turns, hids, hposted, hpayloads⟩, -⟩ := payloads_in_turn reachable_overtaken
  rw [hnext] at hids
  rw [hhanded] at hpayloads
  exact ⟨reachable_overtaken, by decide +kernel, hhanded, turns, hids, hposted, hpayloads.symm⟩

end Scene

end UsbVideo
