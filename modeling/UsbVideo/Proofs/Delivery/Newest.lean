import Mathlib.Data.List.Perm.Basic
import UsbVideo.Delivery.Queue

/-!
# The newest frames, in order

Frames go through the queue in a line. They leave it at the front only, whoever makes them leave, and a full
queue lets its oldest frame go before it takes a new one in:

    popped, evicted or cleared before │ waiting        everything pushed before the queue was closed

`Leads` says what a call may do to the line and the counters, `leads_call` that it does and `leads_run` that
calls one after the other do. `keeps_newest` is what follows for whoever uses the queue. Frames that are
cleared are in no counter.
-/

namespace UsbVideo

namespace FrameQueue

/-! ### Calls -/

/-- What can be asked of a queue. -/
inductive Call where
  | push (frame : CompletedFrame)
  | tryPop
  | pop
  | clear
  | close
  deriving DecidableEq

/-- How a frame left the queue. -/
inductive Exit where
  | popped
  | evicted
  | cleared
  deriving DecidableEq

/-- The frame the consumer got. -/
def Awaited.frame? : Awaited → Option CompletedFrame
  | .frame f => some f
  | .closed | .pending => none

def after (q : FrameQueue) : Call → FrameQueue
  | .push frame => (q.push frame).2
  | .tryPop => q.tryPop.2
  | .pop => q.pop.2
  | .clear => q.clear.2
  | .close => q.close

/-- The frames that leave with a call, the oldest first. -/
def leaving (q : FrameQueue) : Call → List (Exit × CompletedFrame)
  | .push frame => (q.push frame).1.toList.map (.evicted, ·)
  | .tryPop => q.tryPop.1.toList.map (.popped, ·)
  | .pop => q.pop.1.frame?.toList.map (.popped, ·)
  | .clear => q.frames.map (.cleared, ·)
  | .close => []

/-- The frame that a call brings in. -/
def coming (q : FrameQueue) : Call → List CompletedFrame
  | .push frame => if q.closed then [] else [frame]
  | _ => []

/-- Calls one after the other: the frames that left, in this order, and the queue then. -/
def run (q : FrameQueue) : List Call → List (Exit × CompletedFrame) × FrameQueue
  | [] => ([], q)
  | call :: calls =>
    let (later, last) := (q.after call).run calls
    (q.leaving call ++ later, last)

/-- The frames pushed before the queue is closed. -/
def pushedBeforeClose : List Call → List CompletedFrame
  | [] => []
  | .push frame :: calls => frame :: pushedBeforeClose calls
  | .close :: _ => []
  | _ :: calls => pushedBeforeClose calls

/-- The frames that left in one way. -/
def leftBy (exit : Exit) (left : List (Exit × CompletedFrame)) : List CompletedFrame :=
  (left.filter (·.1 = exit)).map (·.2)

@[simp] theorem leftBy_append (exit : Exit) (first later : List (Exit × CompletedFrame)) :
    leftBy exit (first ++ later) = leftBy exit first ++ leftBy exit later := by
  simp [leftBy]

/-- Frames that leave together leave in one way. -/
@[simp] theorem leftBy_map (exit way : Exit) (frames : List CompletedFrame) :
    leftBy exit (frames.map (way, ·)) = if way = exit then frames else [] := by
  unfold leftBy
  split
  · next h => simp [h, List.filter_map, Function.comp_def]
  · next h => simp [h, List.filter_map, Function.comp_def]

theorem map_snd_map (way : Exit) (frames : List CompletedFrame) :
    (frames.map (way, ·)).map (·.2) = frames := by
  simp [Function.comp_def]

/-- Every frame that left did so in one of three ways. -/
theorem leftBy_perm (left : List (Exit × CompletedFrame)) :
    (leftBy .popped left ++ leftBy .evicted left ++ leftBy .cleared left).Perm
      (left.map (·.2)) := by
  induction left with
  | nil => exact .refl _
  | cons entry left ih =>
    obtain ⟨exit, frame⟩ := entry
    refine .trans ?_ (ih.cons frame)
    cases exit with
    | popped => exact .refl _
    | evicted =>
      simp only [leftBy, List.append_assoc]
      exact List.perm_middle
    | cleared =>
      simp only [leftBy]
      exact List.perm_middle

/-! ### One call -/

/-- The queue has places, and no more frames than places. -/
structure Roomy (q : FrameQueue) : Prop where
  some : 0 < q.capacity
  within : q.frames.length ≤ q.capacity

/-- Frames came in at the end of the line and others left at its front, and were counted. -/
structure Leads (q : FrameQueue) (came : List CompletedFrame) (left : List (Exit × CompletedFrame))
    (q' : FrameQueue) : Prop where
  line : q.frames ++ came = left.map (·.2) ++ q'.frames
  roomy : q'.Roomy
  capacity : q'.capacity = q.capacity
  written : q'.written = q.written + came.length
  read : q'.read = q.read + (leftBy .popped left).length
  dropped : q'.dropped = q.dropped + (leftBy .evicted left).length

namespace Leads

variable {q q' q'' : FrameQueue} {came came' : List CompletedFrame}
  {left left' : List (Exit × CompletedFrame)}

/-- Nothing came and nothing left. -/
theorem refl (h : q.Roomy) : Leads q [] [] q :=
  ⟨List.append_nil _, h, rfl, rfl, rfl, rfl⟩

theorem trans (h : Leads q came left q') (h' : Leads q' came' left' q'') :
    Leads q (came ++ came') (left ++ left') q'' where
  line := by
    rw [List.map_append, List.append_assoc, ← h'.line, ← List.append_assoc, h.line,
      List.append_assoc]
  roomy := h'.roomy
  capacity := h'.capacity.trans h.capacity
  written := by rw [h'.written, h.written, List.length_append, Nat.add_assoc]
  read := by rw [h'.read, h.read, leftBy_append, List.length_append, Nat.add_assoc]
  dropped := by rw [h'.dropped, h.dropped, leftBy_append, List.length_append, Nat.add_assoc]

end Leads

variable {q : FrameQueue}

theorem push_closed (closed : q.closed = true) (frame : CompletedFrame) : q.push frame = (none, q) :=
  if_pos closed

theorem pop_closed (closed : q.closed = true) : q.pop = (.closed, q) := if_pos closed

/-- Of an open queue the consumer gets what anybody would get. -/
theorem pop_open (opened : q.closed = false) :
    q.pop.1.frame? = q.tryPop.1 ∧ q.pop.2 = q.tryPop.2 := by
  unfold pop
  rw [opened]
  rcases q.tryPop with ⟨_ | frame, q'⟩ <;> exact ⟨rfl, rfl⟩

theorem tryPop_nil (none : q.frames = []) : q.tryPop = (.none, q) := by
  rw [tryPop, none]

theorem tryPop_cons {oldest : CompletedFrame} {rest : List CompletedFrame}
    (frames : q.frames = oldest :: rest) :
    q.tryPop = (some oldest, { q with frames := rest, read := q.read + 1 }) := by
  rw [tryPop, frames]

theorem pop_nil (opened : q.closed = false) (none : q.frames = []) : q.pop = (.pending, q) := by
  rw [pop, if_neg (Bool.eq_false_iff.mp opened), tryPop_nil none]

theorem pop_cons (opened : q.closed = false) {oldest : CompletedFrame} {rest : List CompletedFrame}
    (frames : q.frames = oldest :: rest) :
    q.pop = (.frame oldest, { q with frames := rest, read := q.read + 1 }) := by
  rw [pop, if_neg (Bool.eq_false_iff.mp opened), tryPop_cons frames]

/-- A queue with free places just takes the frame in. -/
theorem push_free (opened : q.closed = false) (free : q.frames.length < q.capacity)
    (frame : CompletedFrame) :
    q.push frame = (none, { q with frames := q.frames ++ [frame], written := q.written + 1 }) := by
  rw [push, opened, if_neg Bool.false_ne_true, if_pos free]

/-- A full queue gives its oldest frame for it. -/
theorem push_full (opened : q.closed = false) {oldest : CompletedFrame} {rest : List CompletedFrame}
    (frames : q.frames = oldest :: rest) (full : q.capacity ≤ q.frames.length)
    (frame : CompletedFrame) :
    q.push frame = (some oldest, { q with
      frames := rest ++ [frame], written := q.written + 1, dropped := q.dropped + 1 }) := by
  rw [push, opened, if_neg Bool.false_ne_true, if_neg (Nat.not_lt.mpr full), frames]

/-- A full queue has an oldest frame. -/
theorem Roomy.oldest (h : q.Roomy) (full : q.capacity ≤ q.frames.length) :
    ∃ oldest rest, q.frames = oldest :: rest :=
  List.exists_cons_of_length_pos (Nat.lt_of_lt_of_le h.some full)

/-- A push makes a frame leave if there is no place for it, and then the oldest one. -/
theorem push_evicts (h : q.Roomy) (opened : q.closed = false) (frame : CompletedFrame) :
    ((q.push frame).1.isSome ↔ q.frames.length = q.capacity) ∧
      ∀ oldest, (q.push frame).1 = some oldest → q.frames.head? = some oldest := by
  rcases Nat.lt_or_ge q.frames.length q.capacity with hfree | hfull
  · rw [push_free opened hfree]
    exact ⟨iff_of_false nofun (Nat.ne_of_lt hfree), nofun⟩
  · obtain ⟨first, rest, hframes⟩ := h.oldest hfull
    rw [push_full opened hframes hfull]
    refine ⟨iff_of_true rfl (Nat.le_antisymm h.within hfull), fun oldest holdest => ?_⟩
    rw [hframes, ← holdest]
    rfl

theorem leads_push (h : q.Roomy) (frame : CompletedFrame) :
    Leads q (if q.closed then [] else [frame]) ((q.push frame).1.toList.map (.evicted, ·))
      (q.push frame).2 := by
  cases hclosed : q.closed with
  | true =>
    rw [push_closed hclosed]
    exact .refl h
  | false =>
    rcases Nat.lt_or_ge q.frames.length q.capacity with hfree | hfull
    · rw [push_free hclosed hfree]
      refine ⟨rfl, ⟨h.some, ?_⟩, rfl, rfl, rfl, rfl⟩
      rw [List.length_append]
      exact hfree
    · obtain ⟨oldest, rest, hframes⟩ := h.oldest hfull
      have hwithin := h.within
      rw [hframes, List.length_cons] at hwithin
      rw [push_full hclosed hframes hfull]
      refine ⟨by rw [hframes]; rfl, ⟨h.some, ?_⟩, rfl, rfl, rfl, rfl⟩
      rw [List.length_append]
      exact hwithin

theorem leads_tryPop (h : q.Roomy) :
    Leads q [] (q.tryPop.1.toList.map (.popped, ·)) q.tryPop.2 := by
  cases hframes : q.frames with
  | nil =>
    rw [tryPop_nil hframes]
    exact .refl h
  | cons oldest rest =>
    have hwithin := h.within
    rw [hframes, List.length_cons] at hwithin
    rw [tryPop_cons hframes]
    refine ⟨?_, ⟨h.some, Nat.le_of_succ_le hwithin⟩, rfl, rfl, rfl, rfl⟩
    rw [hframes, List.append_nil]
    rfl

/-- Every call moves the line on. -/
theorem leads_call (h : q.Roomy) (call : Call) :
    Leads q (q.coming call) (q.leaving call) (q.after call) := by
  cases call with
  | push frame => exact leads_push h frame
  | tryPop => exact leads_tryPop h
  | pop =>
    show Leads q [] (q.pop.1.frame?.toList.map (.popped, ·)) q.pop.2
    cases hclosed : q.closed with
    | true =>
      rw [pop_closed hclosed]
      exact .refl h
    | false =>
      rw [(pop_open hclosed).1, (pop_open hclosed).2]
      exact leads_tryPop h
  | clear =>
    refine ⟨?_, ⟨h.some, Nat.zero_le _⟩, rfl, rfl, ?_, ?_⟩
    · show q.frames ++ [] = (q.frames.map (Exit.cleared, ·)).map (·.2) ++ []
      rw [map_snd_map]
    · show q.read = q.read + (leftBy .popped (q.frames.map (.cleared, ·))).length
      rw [leftBy_map]
      rfl
    · show q.dropped = q.dropped + (leftBy .evicted (q.frames.map (.cleared, ·))).length
      rw [leftBy_map]
      rfl
  | close => exact ⟨List.append_nil _, ⟨h.some, h.within⟩, rfl, rfl, rfl, rfl⟩

theorem closed_push (q : FrameQueue) (frame : CompletedFrame) :
    (q.push frame).2.closed = q.closed := by
  unfold push
  split
  · rfl
  · split
    · rfl
    · split <;> rfl

theorem closed_tryPop (q : FrameQueue) : q.tryPop.2.closed = q.closed := by
  unfold tryPop
  split <;> rfl

theorem written_tryPop (q : FrameQueue) : q.tryPop.2.written = q.written := by
  unfold tryPop
  split <;> rfl

/-- Only a call to close closes a queue, and nothing opens it again. -/
theorem closed_after (q : FrameQueue) (call : Call) :
    (q.after call).closed = true ↔ q.closed = true ∨ call = .close := by
  cases call with
  | push frame => simp [after, closed_push]
  | tryPop => simp [after, closed_tryPop]
  | pop =>
    cases hclosed : q.closed with
    | true => simp [after, pop_closed hclosed, hclosed]
    | false => simp [after, pop_open hclosed, closed_tryPop, hclosed]
  | clear => simp [after, clear]
  | close => simp [after, close]

/-! ### Any number of calls -/

/-- The frames that calls bring in. -/
def arrivals (q : FrameQueue) : List Call → List CompletedFrame
  | [] => []
  | call :: calls => q.coming call ++ (q.after call).arrivals calls

/-- Until it is closed a queue takes in what is pushed, and nothing from then on. -/
theorem arrivals_eq (q : FrameQueue) (calls : List Call) :
    q.arrivals calls = if q.closed then [] else pushedBeforeClose calls := by
  induction calls generalizing q with
  | nil => simp [arrivals, pushedBeforeClose]
  | cons call calls ih =>
    have hclosed := q.closed_after call
    rw [arrivals, ih]
    cases hq : q.closed with
    | true => cases call <;> simp [coming, hq, hclosed]
    | false =>
      rw [hq] at hclosed
      cases call <;> simp [coming, hq, hclosed, pushedBeforeClose]

theorem leads_run (h : q.Roomy) (calls : List Call) :
    Leads q (q.arrivals calls) (q.run calls).1 (q.run calls).2 := by
  induction calls generalizing q with
  | nil => exact .refl h
  | cons call calls ih =>
    have hfirst := leads_call h call
    exact hfirst.trans (ih hfirst.roomy)

theorem closed_run (q : FrameQueue) (calls : List Call) :
    (q.run calls).2.closed = true ↔ q.closed = true ∨ .close ∈ calls := by
  induction calls generalizing q with
  | nil => simp [run]
  | cons call calls ih =>
    rw [run]
    dsimp only
    rw [ih, closed_after, List.mem_cons, or_assoc, eq_comm (a := call)]

theorem roomy_new (capacity : Nat) : (new capacity).Roomy :=
  ⟨Nat.le_max_right capacity 1, Nat.zero_le _⟩

/-- What a queue of a capacity owes after these calls, if these frames left it in this order. -/
structure Keeps (capacity : Nat) (calls : List Call) (left : List (Exit × CompletedFrame))
    (q : FrameQueue) : Prop where
  /-- The frames that left and those that wait are what was pushed before the queue was closed. -/
  order : left.map (·.2) ++ q.frames = pushedBeforeClose calls
  newest : q.frames <:+ pushedBeforeClose calls
  bounded : q.frames.length ≤ max capacity 1
  /-- Each pushed frame is in exactly one place. -/
  places : (leftBy .popped left ++ leftBy .evicted left ++ leftBy .cleared left ++ q.frames).Perm
    (pushedBeforeClose calls)
  popped : List.Sublist (leftBy .popped left) (pushedBeforeClose calls)
  written : q.written = (pushedBeforeClose calls).length
  read : q.read = (leftBy .popped left).length
  dropped : q.dropped = (leftBy .evicted left).length
  balance : q.written = q.read + q.dropped + (leftBy .cleared left).length + q.frames.length
  /-- A push makes a frame leave if the queue is full, and then the oldest one. -/
  evicts : .close ∉ calls → ∀ frame,
    ((q.push frame).1.isSome ↔ q.frames.length = max capacity 1) ∧
      ∀ oldest, (q.push frame).1 = some oldest → q.frames.head? = some oldest
  /-- The oldest frame is the next to go, and the queue goes on without it. -/
  pops : ∀ oldest rest, q.frames = oldest :: rest →
    let next := { q with frames := rest, read := q.read + 1 }
    q.tryPop = (some oldest, next) ∧ (.close ∉ calls → q.pop = (.frame oldest, next))
  /-- Of an empty queue nobody gets anything. -/
  waits : q.frames = [] → q.tryPop = (none, q) ∧ (.close ∉ calls → q.pop = (.pending, q))
  /-- A closed queue takes nothing in, and the consumer gets nothing. -/
  shut : .close ∈ calls → (∀ frame, q.push frame = (none, q)) ∧ q.pop = (.closed, q)

/-- **The queue keeps the newest frames in order.** Whatever is asked of a queue, and in whichever order, the
frames that wait are the last of those pushed before it was closed, never more than it has places for. All
others left it before them, in the order in which they were pushed, each in one way: to the consumer, for a
newer frame in a full queue, or because the queue was cleared. -/
theorem keeps_newest (capacity : Nat) (calls : List Call) :
    Keeps capacity calls ((new capacity).run calls).1 ((new capacity).run calls).2 := by
  have hleads := leads_run (roomy_new capacity) calls
  have hclosed := closed_run (new capacity) calls
  rw [arrivals_eq] at hleads
  generalize ((new capacity).run calls).1 = left at hleads
  generalize ((new capacity).run calls).2 = q at hleads hclosed
  obtain ⟨hline, hroomy, hcapacity, hwritten, hread, hdropped⟩ := hleads
  have hpushed : left.map (·.2) ++ q.frames = pushedBeforeClose calls := hline.symm
  have hplaces := (leftBy_perm left).append_right q.frames
  rw [hpushed] at hplaces
  have hpopped : List.Sublist (leftBy .popped left) (pushedBeforeClose calls) := by
    rw [← hpushed]
    exact (List.filter_sublist.map _).trans (List.sublist_append_left _ _)
  replace hwritten : q.written = (pushedBeforeClose calls).length := hwritten.trans (Nat.zero_add _)
  replace hread := hread.trans (Nat.zero_add _)
  replace hdropped := hdropped.trans (Nat.zero_add _)
  replace hcapacity : q.capacity = max capacity 1 := hcapacity
  have hopen (hopened : .close ∉ calls) : q.closed = false := by
    rw [← Bool.not_eq_true, hclosed]
    exact fun h => h.elim (nomatch ·) hopened
  refine ⟨hpushed, ⟨_, hpushed⟩, hcapacity ▸ hroomy.within, hplaces, hpopped, hwritten, hread,
    hdropped, ?_, fun hopened => ?_, fun oldest rest hframes => ?_, fun hempty => ?_, fun hshut => ?_⟩
  · have hlength := hplaces.length_eq
    simp only [List.length_append] at hlength
    omega
  · rw [← hcapacity]
    exact push_evicts hroomy (hopen hopened)
  · exact ⟨tryPop_cons hframes, fun hopened => pop_cons (hopen hopened) hframes⟩
  · exact ⟨tryPop_nil hempty, fun hopened => pop_nil (hopen hopened) hempty⟩
  · replace hshut : q.closed = true := hclosed.mpr (.inr hshut)
    exact ⟨push_closed hshut, pop_closed hshut⟩

end FrameQueue

end UsbVideo
