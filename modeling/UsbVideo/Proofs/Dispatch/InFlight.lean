import UsbVideo.Proofs.Dispatch.Receive

/-!
# The transfers in flight

A transfer is in flight from its submission until its completion is taken in, whether the completion
is still to come or waits in the inbox. `Booked` says so against the books of the bus stack:

    accepted  =  taken in  +  in flight        posted  =  taken in  +  inbox

From it and the contract follows what every invariant of a run needs (`Booked.mem_inFlight`): what
is taken in next is in flight. `Reachable.booked` is the invariant along all runs.
-/

namespace UsbVideo

variable {σ κ ν : Type}

/-- The books agree with the numbers in flight. -/
structure Booked (d : Dispatch) (inbox : List Completion) (l : Ledger σ) : Prop where
  pos : 1 ≤ d.nextId
  accepted : l.acceptedFor d.mailbox = d.issued
  taken : ∃ taken : List Completion, l.postedTo d.mailbox = taken ++ inbox ∧
    (taken.map (·.transfer.id) ++ d.inFlight.toList).Perm d.issued

theorem Dispatch.nodup_issued (d : Dispatch) : d.issued.Nodup := List.nodup_range'

namespace Booked

variable {d d' : Dispatch} {inbox : List Completion} {l l' : Ledger σ} {c : Completion}

theorem nodup_posted (h : Booked d inbox l) (honest : l.Honest d.mailbox) :
    ((l.postedTo d.mailbox).map (·.transfer.id)).Nodup := by
  obtain ⟨ids, hperm, hsub⟩ := honest
  rw [h.accepted] at hsub
  exact hperm.nodup_iff.mp (hsub.nodup d.nodup_issued)

/-- A completion in the inbox is one of a transfer in flight: the others have been taken in, and
none has two. -/
theorem mem_inFlight (h : Booked d (c :: inbox) l) (honest : l.Honest d.mailbox) :
    c.transfer.id ∈ d.inFlight.toList := by
  obtain ⟨taken, hposted, hperm⟩ := h.taken
  unfold Ledger.Honest at honest
  -- What was taken in is on both sides of the contract and cancels.
  rw [h.accepted, hposted, List.map_append, hperm.symm.subperm_left,
    List.subperm_append_left] at honest
  exact honest.subset (by simp)

/-- A completion is taken in, and its number is no longer in flight. -/
theorem takeIn (h : Booked d (c :: inbox) l) (honest : l.Honest d.mailbox)
    (mailbox : d'.mailbox = d.mailbox) (nextId : d'.nextId = d.nextId)
    (inFlight : d'.inFlight.toList = d.inFlight.toList.erase c.transfer.id) :
    Booked d' inbox l := by
  have hissued : d'.issued = d.issued := by rw [Dispatch.issued, nextId, Dispatch.issued]
  obtain ⟨taken, hposted, hperm⟩ := h.taken
  refine ⟨nextId ▸ h.pos, by rw [mailbox, hissued, h.accepted], taken ++ [c], ?_, ?_⟩
  · rw [mailbox, hposted, List.append_assoc, List.singleton_append]
  · have hflight := List.perm_cons_erase (h.mem_inFlight honest)
    rw [hissued, inFlight, List.map_append, List.append_assoc]
    exact (hflight.symm.append_left _).trans hperm

/-- Submissions add to the numbers in flight what they add to the books. -/
theorem submit {n : Nat} (h : Booked d inbox l) (hs : Submitted n d d' l l') :
    Booked d' inbox l' := by
  obtain ⟨taken, hposted, hperm⟩ := h.taken
  refine ⟨?_, ?_, taken, ?_, ?_⟩
  · rw [hs.nextId]
    exact Nat.le_add_right_of_le h.pos
  · rw [hs.mailbox, hs.accepted, h.accepted, hs.issued h.pos]
  · rw [hs.mailbox, ← hposted, Ledger.postedTo, hs.posted, Ledger.postedTo]
  · rw [hs.inFlight, hs.issued h.pos, ← List.append_assoc]
    exact hperm.append_right _

/-- What arrives is posted. -/
theorem arrive {posts : List Post} (h : Booked d inbox l) (accepted : l'.accepted = l.accepted)
    (posted : l'.posted = l.posted ++ posts) :
    Booked d (inbox ++ Post.completionsFor d.mailbox posts) l' := by
  obtain ⟨taken, hposted, hperm⟩ := h.taken
  refine ⟨h.pos, ?_, taken, ?_, hperm⟩
  · rw [Ledger.acceptedFor, accepted]
    exact h.accepted
  · rw [Ledger.postedTo, posted, Post.completionsFor_append, ← List.append_assoc, ← hposted,
      Ledger.postedTo]

variable [Transport σ]

theorem receive (h : Booked d (c :: inbox) l) (honest : l.Honest d.mailbox) :
    Booked (d.receive c l).dispatch inbox (d.receive c l).device := by
  obtain ⟨-, hmailbox, hnextId, -, hinFlight⟩ := d.takeIn_frame c
  have htaken := h.takeIn honest hmailbox hnextId hinFlight
  rw [Dispatch.receive_eq]
  split
  · exact htaken
  · obtain ⟨-, n, hsubmitted, -⟩ := (d.takeIn c).1.refill_submitted l
    exact htaken.submit hsubmitted

end Booked

/-! ### Along a run -/

namespace Scene

variable [Transport σ]

/-- At its launch a scene has numbers in flight for what was accepted, and nothing was posted. -/
theorem launch_submitted (plan : TransferPlan) (mailbox : Mailbox) (pool : List Transfer) (now : Nat)
    (client : κ) (device : σ) :
    let s := launch plan mailbox pool now client device
    s.client.payloads = [] ∧ s.task.inbox = [] ∧
      ∃ n, Submitted n { plan, mailbox } s.dispatch { device } s.device ∧ s.dispatch.idle = [] ∧
        (s.Running → n = pool.length) := by
  obtain ⟨n, hsubmitted, hidle, hall⟩ :=
    ({ plan, mailbox } : Dispatch).submitPool_submitted ({ device } : Ledger σ) pool
  refine ⟨rfl, rfl, n, hsubmitted, hidle, fun hrunning => hall ?_⟩
  cases hrefused : (({ plan, mailbox } : Dispatch).submitPool ({ device } : Ledger σ) pool).1 with
  | none => rfl
  | some error => simp [Running, launch, hrefused, DispatchPhase.isRunning] at hrunning

omit [Transport σ] in
/-- Before its pool is submitted a dispatch has given no number. -/
theorem booked_fresh (plan : TransferPlan) (mailbox : Mailbox) (device : σ) :
    Booked { plan, mailbox } [] ({ device } : Ledger σ) :=
  ⟨Nat.le_refl 1, rfl, [], rfl, List.Perm.refl _⟩

/-- Every turn keeps the books in order. -/
theorem Turn.booked {a b : Scene σ κ} (t : Turn a b) (honest : a.Honest)
    (h : Booked a.dispatch a.task.inbox a.device) : Booked b.dispatch b.task.inbox b.device := by
  cases t with
  | arrival posts dispatch inbox _ accepted posted _ =>
    rw [dispatch, inbox]
    exact h.arrive accepted posted
  | receive c _ inbox dispatch _ device _ =>
    rw [inbox] at h
    rw [dispatch, device]
    exact h.receive honest
  | retry _ inbox dispatch _ device _ =>
    obtain ⟨-, n, hsubmitted, -⟩ := a.dispatch.refill_submitted a.device
    rw [dispatch, inbox, device]
    exact h.submit hsubmitted
  | reclaim c inbox dispatch _ device _ =>
    rw [inbox] at h
    rw [dispatch, device]
    refine h.takeIn honest rfl rfl ?_
    rw [Dispatch.reclaim, Lineup.toList_eraseP, List.erase_eq_eraseP']

theorem Turn.plan {a b : Scene σ κ} (t : Turn a b) : b.dispatch.plan = a.dispatch.plan := by
  cases t with
  | arrival _ dispatch => rw [dispatch]
  | receive c _ _ dispatch =>
    obtain ⟨hplan, -⟩ := a.dispatch.takeIn_frame c
    rw [dispatch, Dispatch.receive_eq]
    split
    · exact hplan
    · obtain ⟨-, n, hsubmitted, -⟩ := (a.dispatch.takeIn c).1.refill_submitted a.device
      exact hsubmitted.plan.trans hplan
  | retry _ _ dispatch =>
    obtain ⟨-, n, hsubmitted, -⟩ := a.dispatch.refill_submitted a.device
    rw [dispatch]
    exact hsubmitted.plan
  | reclaim _ _ dispatch =>
    rw [dispatch]
    rfl

variable [StreamClient κ ν]

/-- A bus stack that keeps its contract has kept it at every point of a run. -/
theorem Reachable.honest {s : Scene σ κ} (h : Reachable s) : s.Honest := by
  cases h with
  | launch plan mailbox pool now client device _ _ =>
    obtain ⟨-, -, n, hsubmitted, -, -⟩ := launch_submitted plan mailbox pool now client device
    rw [Honest, Ledger.Honest, Ledger.postedTo, hsubmitted.posted]
    exact List.nil_subperm
  | step _ _ honest => exact honest

/-- The books agree with the numbers in flight at every point of a run. -/
theorem Reachable.booked {s : Scene σ κ} (h : Reachable s) :
    Booked s.dispatch s.task.inbox s.device := by
  induction h with
  | launch plan mailbox pool now client device _ _ =>
    obtain ⟨-, hinbox, n, hsubmitted, -, -⟩ := launch_submitted plan mailbox pool now client device
    rw [hinbox]
    exact (booked_fresh _ mailbox device).submit hsubmitted
  | step h hs _ ih => exact hs.turn.booked h.honest ih

end Scene

end UsbVideo
