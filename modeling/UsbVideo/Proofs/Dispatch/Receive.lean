import UsbVideo.Proofs.Dispatch.Run

/-!
# What taking in a completion does

`Dispatch.receive` has two halves: a completion is taken in, and then whatever is at hand is submitted
again. `Dispatch.takeIn` is the first half. It does not touch the bus stack, and `receive_eq` says
that the second half is a `refill`, unless there was a fault.

Inside of `takeIn` only the tally and the window change, one processed transfer after another. The
lemmas on `DispatchTally.process` say what one of them hands on and counts.
-/

namespace UsbVideo

/-- The payloads a completion brings: those of its transfer, if it completed. -/
def Completion.carried (c : Completion) : List Bytes :=
  if c.status = .completed then c.transfer.payloads else []

/-! ### Processing one transfer -/

namespace DispatchTally

/-- Number of transfers processed so far. -/
def settled (t : DispatchTally) : Nat := t.stats.completed + t.stats.failed

/-- A completed transfer hands on its payloads, any other none. -/
theorem payloads_process (t : DispatchTally) (c : Completion) :
    DispatchOutput.payloads (t.process (.ofCompletion c)).2.1 = c.carried := by
  obtain ⟨transfer, status⟩ := c
  cases status with
  | completed => exact DispatchOutput.payloads_map_payload transfer.payloads
  | _ => rfl

theorem submitted_process (t : DispatchTally) (r : Received) :
    (t.process r).1.stats.submitted = t.stats.submitted := by
  unfold process
  split <;> rfl

/-- A transfer that is processed without a fault is counted, as completed or as failed. -/
theorem settled_process {t : DispatchTally} {r : Received} (h : (t.process r).2.2 = none) :
    (t.process r).1.settled = t.settled + 1 := by
  unfold process at h ⊢
  split at h
  · exact Nat.add_right_comm _ _ _
  · cases h
  · rfl

end DispatchTally

/-! ### The numbers in a window -/

namespace ReorderWindow

/-- The numbers whose turn is over. -/
def passed (w : ReorderWindow) : List Nat := List.range' 1 (w.next - 1)

/-- The numbers that wait for their turn. -/
def parked (w : ReorderWindow) : List Nat := w.held.map (·.1)

theorem isNext_eq_true_iff {w : ReorderWindow} {id : Nat} : w.isNext id = true ↔ id = w.next :=
  beq_iff_eq

theorem isNext_eq_false_iff {w : ReorderWindow} {id : Nat} : w.isNext id = false ↔ id ≠ w.next :=
  beq_eq_false_iff_ne

/-- When a turn is over its number is the last that passed. -/
theorem passed_next {w w' : ReorderWindow} (h : w'.next = w.next + 1) (hpos : 1 ≤ w.next) :
    w'.passed = w.passed ++ [w.next] := by
  have hcount : w.next + 1 - 1 = w.next - 1 + 1 := by omega
  have hlast : 1 + (w.next - 1) = w.next := by omega
  rw [passed, passed, h, hcount, List.range'_1_concat, hlast]

/-- What is ready is held under the number whose turn it is. -/
theorem mem_of_ready {w : ReorderWindow} {r : Received} (h : w.ready? = some r) :
    (w.next, r) ∈ w.held := by
  obtain ⟨⟨id, held⟩, hfind, rfl⟩ := Option.map_eq_some_iff.mp h
  have hid : id = w.next := by simpa using List.find?_some hfind
  subst hid
  exact List.mem_of_find?_eq_some hfind

/-- If nothing is ready, the number whose turn it is is not held. -/
theorem next_not_parked {w : ReorderWindow} (h : w.ready? = none) : w.next ∉ w.parked := by
  intro hmem
  obtain ⟨entry, hentry, hid⟩ := List.mem_map.mp hmem
  have hnone := List.find?_eq_none.mp (Option.map_eq_none_iff.mp h) entry hentry
  exact hnone (by simpa using hid)

end ReorderWindow

/-! ### Taking in a completion -/

namespace Dispatch

/-- Put a completion in order and process whatever has its turn; its transfer is at hand again. -/
def takeIn (d : Dispatch) (c : Completion) : Dispatch × List DispatchOutput × Option StreamFault :=
  let d := { d with inFlight := d.inFlight.eraseP (· == c.transfer.id) }
  let (d, onArrival, fault) := d.arrange c
  let d := { d with idle := c.transfer :: d.idle }
  if fault.isSome then (d, onArrival, fault)
  else
    let (tally, window, released, fault) := d.tally.releaseReady d.window
    ({ d with tally, window }, onArrival ++ released, fault)

/-- Receiving is taking in and then, unless there was a fault, submitting what is at hand. -/
theorem receive_eq {σ : Type} [Transport σ] (d : Dispatch) (c : Completion) (l : σ) :
    d.receive c l =
      match (d.takeIn c).2.2 with
      | some fault =>
        { dispatch := (d.takeIn c).1, device := l, outputs := (d.takeIn c).2.1, fault := some fault }
      | none =>
        { (d.takeIn c).1.refill l with
          outputs := (d.takeIn c).2.1 ++ ((d.takeIn c).1.refill l).outputs } := by
  unfold receive takeIn
  dsimp only
  split
  · next hfault =>
    obtain ⟨fault, hsome⟩ := Option.isSome_iff_exists.mp hfault
    simp [hsome]
  · dsimp only
    split
    · next hfault =>
      obtain ⟨fault, hsome⟩ := Option.isSome_iff_exists.mp hfault
      simp [hsome]
    · next hfault =>
      rw [Option.not_isSome_iff_eq_none] at hfault
      simp [hfault]

/-- Taking in leaves the numbers given alone; the transfer is no longer in flight but at hand. -/
theorem takeIn_frame (d : Dispatch) (c : Completion) :
    (d.takeIn c).1.plan = d.plan ∧ (d.takeIn c).1.mailbox = d.mailbox ∧
      (d.takeIn c).1.nextId = d.nextId ∧ (d.takeIn c).1.idle = c.transfer :: d.idle ∧
        (d.takeIn c).1.inFlight.toList = d.inFlight.toList.erase c.transfer.id := by
  have herase : (d.inFlight.eraseP (· == c.transfer.id)).toList =
      d.inFlight.toList.erase c.transfer.id := by
    rw [Lineup.toList_eraseP, List.erase_eq_eraseP']
  unfold takeIn arrange
  dsimp only
  -- Neither the order nor a fault matters to the fields in question.
  split
  · split
    · exact ⟨rfl, rfl, rfl, rfl, herase⟩
    · exact ⟨rfl, rfl, rfl, rfl, herase⟩
  · exact ⟨rfl, rfl, rfl, rfl, herase⟩

/-- What taking in does to tally and window: a completion whose turn it is is processed, an early one
is held, and then what is ready is released, unless there was a fault already. -/
theorem takeIn_cases (d : Dispatch) (c : Completion) :
    let first := d.tally.process (.ofCompletion c)
    let onTurn := first.1.releaseReady d.window.advance
    let early := d.tally.releaseReady (d.window.hold c.transfer.id (.ofCompletion c))
    (c.transfer.id = d.window.next ∧ first.2.2 ≠ none ∧ (d.takeIn c).1.tally = first.1 ∧
        (d.takeIn c).1.window = d.window.advance ∧ (d.takeIn c).2 = first.2) ∨
      (c.transfer.id = d.window.next ∧ first.2.2 = none ∧ (d.takeIn c).1.tally = onTurn.1 ∧
        (d.takeIn c).1.window = onTurn.2.1 ∧
          (d.takeIn c).2 = (first.2.1 ++ onTurn.2.2.1, onTurn.2.2.2)) ∨
      (c.transfer.id ≠ d.window.next ∧ (d.takeIn c).1.tally = early.1 ∧
        (d.takeIn c).1.window = early.2.1 ∧ (d.takeIn c).2 = early.2.2) := by
  by_cases hid : c.transfer.id = d.window.next
  · have hnext := ReorderWindow.isNext_eq_true_iff.mpr hid
    unfold takeIn arrange
    simp only [hnext, if_true]
    split
    · next hfault => exact .inl ⟨hid, Option.isSome_iff_ne_none.mp hfault, rfl, rfl, rfl⟩
    · next hfault =>
      exact .inr (.inl ⟨hid, Option.not_isSome_iff_eq_none.mp hfault, rfl, rfl, rfl⟩)
  · have hnext := ReorderWindow.isNext_eq_false_iff.mpr hid
    unfold takeIn arrange
    simp only [hnext]
    exact .inr (.inr ⟨hid, rfl, rfl, rfl⟩)

end Dispatch

end UsbVideo
