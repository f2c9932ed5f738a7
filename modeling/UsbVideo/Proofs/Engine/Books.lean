import UsbVideo.Proofs.Engine.Moves

/-!
# Many mailboxes on one bus stack

A dispatch is one of several on its bus stack: the streams of other controllers have theirs, and one
that was told to wind down lives on until its transfers are back. Their books are one ledger, and what
one dispatch writes there must leave the accounts of the others alone.

`Ledger.Grew` says which lines a dispatch adds: submissions under its own mailbox, and whatever is
posted when it asks for transfers back. `DispatchTask.Stepped` says what a step of a task does to its
own account, and with which transfers it may end: none, as long as its bus stack is prompt.
-/

namespace UsbVideo

variable {σ : Type}

namespace Ledger

/-- Numbers of the transfers accepted for a mailbox whose completion was not posted. -/
def pending (l : Ledger σ) (mailbox : Mailbox) : List Nat :=
  (l.acceptedFor mailbox).filter fun id => id ∉ (l.postedTo mailbox).map (·.transfer.id)

/-- Transfers were accepted for one mailbox, and completions posted to any. -/
structure Grew (mailbox : Mailbox) (posts : List Post) (l l' : Ledger σ) : Prop where
  accepted : ∃ transfers : List Transfer, l'.accepted = l.accepted ++ transfers.map (mailbox, ·)
  posted : l'.posted = l.posted ++ posts

namespace Grew

variable {mailbox : Mailbox} {posts later : List Post} {l l' l'' : Ledger σ}

theorem of_accepted (accepted : l'.accepted = l.accepted) (posted : l'.posted = l.posted ++ posts) :
    Grew mailbox posts l l' :=
  ⟨⟨[], by simpa using accepted⟩, posted⟩

protected theorem refl (l : Ledger σ) : Grew mailbox [] l l := of_accepted rfl (by simp)

theorem trans (h : Grew mailbox posts l l') (h' : Grew mailbox later l' l'') :
    Grew mailbox (posts ++ later) l l'' := by
  obtain ⟨first, hfirst⟩ := h.accepted
  obtain ⟨second, hsecond⟩ := h'.accepted
  refine ⟨⟨first ++ second, ?_⟩, ?_⟩
  · rw [hsecond, hfirst, List.map_append, List.append_assoc]
  · rw [h'.posted, h.posted, List.append_assoc]

/-- The account of another mailbox stays as it is. -/
theorem acceptedFor_other (h : Grew mailbox posts l l') {other : Mailbox} (hne : other ≠ mailbox) :
    l'.acceptedFor other = l.acceptedFor other := by
  obtain ⟨transfers, haccepted⟩ := h.accepted
  have hnone : (transfers.map (mailbox, ·)).filter (·.1 == other) = [] := by
    rw [List.filter_eq_nil_iff]
    intro entry hentry
    obtain ⟨transfer, -, rfl⟩ := List.mem_map.mp hentry
    simpa using hne.symm
  rw [acceptedFor, haccepted, List.filter_append, hnone, List.append_nil, acceptedFor]

theorem postedTo (h : Grew mailbox posts l l') (other : Mailbox) :
    l'.postedTo other = l.postedTo other ++ Post.completionsFor other posts := by
  rw [Ledger.postedTo, h.posted, Post.completionsFor_append, Ledger.postedTo]

/-- Whatever is on the books was there, or was accepted for the mailbox. -/
theorem mem_accepted (h : Grew mailbox posts l l') {entry : Mailbox × Transfer}
    (hmem : entry ∈ l'.accepted) : entry ∈ l.accepted ∨ entry.1 = mailbox := by
  obtain ⟨transfers, haccepted⟩ := h.accepted
  rw [haccepted, List.mem_append] at hmem
  refine hmem.imp_right fun hnew => ?_
  obtain ⟨transfer, -, rfl⟩ := List.mem_map.mp hnew
  rfl

end Grew

/-- Nothing is pending exactly when every accepted transfer was posted. -/
theorem pending_eq_nil {l : Ledger σ} {mailbox : Mailbox} :
    l.pending mailbox = [] ↔
      ∀ id ∈ l.acceptedFor mailbox, id ∈ (l.postedTo mailbox).map (·.transfer.id) := by
  rw [pending, List.filter_eq_nil_iff]
  refine forall₂_congr fun id _ => ?_
  rw [decide_eq_true_iff, not_not]

/-- What is posted later leaves nothing pending that was not. -/
theorem pending_nil_of_posted {l l' : Ledger σ} {mailbox : Mailbox} {posts : List Post}
    (h : l.pending mailbox = []) (accepted : l'.acceptedFor mailbox = l.acceptedFor mailbox)
    (posted : l'.posted = l.posted ++ posts) : l'.pending mailbox = [] := by
  rw [pending_eq_nil] at h ⊢
  intro id hid
  rw [accepted] at hid
  rw [postedTo, posted, Post.completionsFor_append, List.map_append]
  exact List.mem_append_left _ (h id hid)

end Ledger

/-! ### Accounts -/

namespace Booked

variable {d : Dispatch} {inbox : List Completion} {l l' : Ledger σ}

/-- What arrives is posted, whatever was accepted for other mailboxes meanwhile. -/
theorem arrive_other {posts : List Post} (h : Booked d inbox l)
    (accepted : l'.acceptedFor d.mailbox = l.acceptedFor d.mailbox)
    (posted : l'.posted = l.posted ++ posts) :
    Booked d (inbox ++ Post.completionsFor d.mailbox posts) l' := by
  obtain ⟨taken, hposted, hperm⟩ := h.taken
  refine ⟨h.pos, accepted.trans h.accepted, taken, ?_, hperm⟩
  rw [Ledger.postedTo, posted, Post.completionsFor_append, ← List.append_assoc, ← hposted,
    Ledger.postedTo]

/-- With no transfer in flight, all that was accepted was posted. -/
theorem pending_of_idle (h : Booked d inbox l) (idle : d.inFlight.toList = []) :
    l.pending d.mailbox = [] := by
  rw [Ledger.pending_eq_nil]
  intro id hid
  obtain ⟨taken, hposted, hperm⟩ := h.taken
  rw [idle, List.append_nil] at hperm
  rw [h.accepted, ← hperm.mem_iff] at hid
  rw [hposted, List.map_append]
  exact List.mem_append_left _ hid

/-- With all that was accepted posted and taken in, no transfer is in flight. -/
theorem idle_of_pending (h : Booked d [] l) (nothing : l.pending d.mailbox = []) :
    d.inFlight.toList = [] := by
  obtain ⟨taken, hposted, hperm⟩ := h.taken
  rw [Ledger.pending_eq_nil, h.accepted, hposted, List.append_nil] at nothing
  have hnodup := hperm.nodup_iff.mpr d.nodup_issued
  rw [List.eq_nil_iff_forall_not_mem]
  intro id hid
  have htaken := nothing id (hperm.subset (List.mem_append_right _ hid))
  exact (List.nodup_append.mp hnodup).2.2 id htaken id hid rfl

end Booked

/-! ### What a dispatch writes -/

namespace Dispatch

variable [Transport σ]

theorem submit_grew (d : Dispatch) (transfer : Transfer) (l : Ledger σ) :
    (d.submit transfer l).2.1.mailbox = d.mailbox ∧
      l.Grew d.mailbox [] (d.submit transfer l).2.2 := by
  unfold submit
  split
  · next refusal l' hrefused =>
    obtain ⟨haccepted, hposted⟩ := Ledger.submit_error hrefused
    exact ⟨rfl, .of_accepted haccepted (by rw [hposted, List.append_nil])⟩
  · next l' hok =>
    obtain ⟨haccepted, hposted⟩ := Ledger.submit_ok hok
    exact ⟨rfl, ⟨[transfer.prepare d.nextId], haccepted⟩, by rw [hposted, List.append_nil]⟩

theorem submitPool_grew (d : Dispatch) (l : Ledger σ) (pool : List Transfer) :
    l.Grew d.mailbox [] (d.submitPool l pool).2.2 := by
  induction pool generalizing d l with
  | nil => exact .refl l
  | cons transfer rest ih =>
    have hfirst := d.submit_grew transfer l
    unfold submitPool
    split
    · next d' l' hsubmit =>
      rw [hsubmit] at hfirst
      have hrest := ih d' l'
      rw [hfirst.1] at hrest
      exact hfirst.2.trans hrest
    · next refusal d' l' hsubmit =>
      rw [hsubmit] at hfirst
      exact hfirst.2

theorem submitAll_grew (d : Dispatch) (l : Ledger σ) (transfers : List Transfer) :
    l.Grew d.mailbox [] (d.submitAll l transfers).device := by
  induction transfers generalizing d l with
  | nil => exact .refl l
  | cons transfer rest ih =>
    have hfirst := d.submit_grew transfer l
    unfold submitAll
    split
    · next d' l' hsubmit =>
      rw [hsubmit] at hfirst
      have hrest := ih d' l'
      rw [hfirst.1] at hrest
      exact hfirst.2.trans hrest
    · next refusal d' l' hsubmit =>
      rw [hsubmit] at hfirst
      dsimp only
      split
      · exact hfirst.2
      · exact hfirst.2

theorem refill_grew (d : Dispatch) (l : Ledger σ) : l.Grew d.mailbox [] (d.refill l).device :=
  submitAll_grew { d with idle := [] } l d.idle

theorem receive_frame (d : Dispatch) (c : Completion) (l : Ledger σ) :
    (d.receive c l).dispatch.mailbox = d.mailbox ∧ (d.receive c l).dispatch.plan = d.plan := by
  obtain ⟨hplan, hmailbox, -⟩ := d.takeIn_frame c
  rw [receive_eq]
  split
  · exact ⟨hmailbox, hplan⟩
  · obtain ⟨-, n, hsubmitted, -⟩ := (d.takeIn c).1.refill_submitted l
    exact ⟨hsubmitted.mailbox.trans hmailbox, hsubmitted.plan.trans hplan⟩

theorem receive_grew (d : Dispatch) (c : Completion) (l : Ledger σ) :
    l.Grew d.mailbox [] (d.receive c l).device := by
  obtain ⟨-, hmailbox, -⟩ := d.takeIn_frame c
  rw [receive_eq]
  split
  · exact .refl l
  · rw [← hmailbox]
    exact (d.takeIn c).1.refill_grew l

end Dispatch

/-! ### Steps of a task -/

namespace DispatchTask

/-- What a step of a task leads to, as far as the books are concerned. `others` are the posts to the
mailboxes of other tasks. -/
structure Stepped (t t' : DispatchTask) (now : Nat) (others : List Post) (l l' : Ledger σ) :
    Prop where
  mailbox : t'.dispatch.mailbox = t.dispatch.mailbox
  plan : t'.dispatch.plan = t.dispatch.plan
  grew : ∃ posts : List Post, l.Grew t.dispatch.mailbox posts l' ∧
    others = posts.filter fun post => !(post.mailbox == t.dispatch.mailbox)
  booked : Booked t.dispatch t.inbox l → l.Honest t.dispatch.mailbox → Booked t'.dispatch t'.inbox l'
  /-- A task ends with no transfer in flight, or at its deadline. -/
  ended : t'.isEnded = true → t'.dispatch.inFlight.toList = [] ∨
    ∃ deadline fault, t.phase = .draining deadline fault ∧ deadline ≤ now ∧ l' = l

variable {κ ν : Type} [Transport σ] [StreamClient κ ν] {t : DispatchTask} {now : Nat} {client : κ}
  {l : Ledger σ} {s : TaskStep (Ledger σ) κ ν}

omit [Transport σ] in
/-- After a step of its dispatch a task goes on. -/
theorem follow_goes (t : DispatchTask) (now : Nat) (client : κ) (mayClose : Bool)
    (d : DispatchStep (Ledger σ)) :
    ¬ (t.follow (ν := ν) now client mayClose d).task.isEnded = true := by
  simp [goes_of_rank (follow_rank (ν := ν) t now client mayClose d)]

/-- Every step of a task keeps its account, and all it writes is under its own mailbox. -/
theorem step_books (h : t.step now client l = some s) : Stepped t s.task now s.posts l s.device := by
  cases step_move h with
  | stop since phase =>
    exact ⟨rfl, rfl, ⟨[], .refl l, rfl⟩, fun booked _ => booked, fun hended => nomatch hended⟩
  | receive since c inbox phase told arrived =>
    obtain ⟨hmailbox, hplan⟩ := t.dispatch.receive_frame c l
    refine ⟨hmailbox, hplan, ⟨[], t.dispatch.receive_grew c l, rfl⟩, fun booked honest => ?_,
      fun hended => absurd hended (follow_goes _ now client true _)⟩
    rw [arrived] at booked
    exact booked.receive honest
  | retry since phase =>
    obtain ⟨-, n, hsubmitted, -⟩ := t.dispatch.refill_submitted l
    exact ⟨hsubmitted.mailbox, hsubmitted.plan, ⟨[], t.dispatch.refill_grew l, rfl⟩,
      fun booked _ => booked.submit hsubmitted,
      fun hended => absurd hended (follow_goes t now client false _)⟩
  | leave fault phase =>
    obtain ⟨haccepted, hposted⟩ := Scene.cancelAll_books t.dispatch l
    exact ⟨rfl, rfl, ⟨_, .of_accepted haccepted hposted, rfl⟩,
      fun booked _ => booked.arrive haccepted hposted, fun hended => nomatch hended⟩
  | reclaim deadline fault c inbox phase arrived =>
    refine ⟨rfl, rfl, ⟨[], .refl l, rfl⟩, fun booked honest => ?_, fun hended => ?_⟩
    · rw [arrived] at booked
      refine booked.takeIn honest rfl rfl ?_
      rw [Dispatch.reclaim, Lineup.toList_eraseP, List.erase_eq_eraseP']
    · have hphase : t.phase = .ended := isEnded_iff.mp hended
      rw [phase] at hphase
      cases hphase
  | finish deadline fault before phase nothing =>
    simp only [conclude_task, conclude_device, conclude_posts]
    refine ⟨rfl, rfl, ⟨[], .refl l, rfl⟩, fun booked _ => booked, fun _ => ?_⟩
    rcases nothing with hidle | hdue
    · rw [← Lineup.isEmpty_toList, List.isEmpty_iff] at hidle
      exact .inl hidle
    · exact .inr ⟨deadline, fault, phase, hdue, rfl⟩

/-- On a prompt bus stack a task ends when no transfer is in flight any more. -/
theorem step_drained (h : t.step now client l = some s) (ended : s.task.isEnded = true)
    (booked : Booked t.dispatch t.inbox l)
    (prompt : ∀ deadline fault, t.phase = .draining deadline fault → deadline ≤ now →
      l.pending t.dispatch.mailbox = []) : s.task.dispatch.inFlight.toList = [] := by
  rcases (step_books h).ended ended with hidle | ⟨deadline, fault, phase, hdue, -⟩
  · exact hidle
  simp only [step, phase] at h
  split at h
  · next hidle =>
    cases h
    rwa [conclude_task, ← List.isEmpty_iff, Lineup.isEmpty_toList]
  · split at h
    · next c inbox hinbox =>
      -- A completion in the inbox is taken in before the deadline counts, and the task goes on.
      cases h
      cases isEnded_iff.mp ended
    · next hinbox =>
      rw [if_neg (Nat.not_lt.mpr hdue)] at h
      cases h
      rw [hinbox] at booked
      rw [conclude_task]
      exact booked.idle_of_pending (prompt deadline fault phase hdue)

/-- What the steps of a task at one moment lead to. `posts` are those to the mailboxes of others. -/
structure Ran (t t' : DispatchTask) (now : Nat) (posts : List Post) : Prop where
  mailbox : t'.dispatch.mailbox = t.dispatch.mailbox
  rank : t'.phase.rank ≤ t.phase.rank
  /-- A task cancels its transfers once. -/
  cancels : posts ≠ [] → 2 ≤ t.phase.rank ∧ t'.phase.rank ≤ 1
  others : Post.completionsFor t.dispatch.mailbox posts = []
  winding : t.Winding → t'.Winding
  plan : t'.dispatch.plan = t.dispatch.plan
  dueBy : ∀ limit, t.phase.rank ≤ 1 ∨ now + t.dispatch.plan.cancelTimeout ≤ limit →
    t.DueBy limit → t'.DueBy limit

omit [Transport σ] [StreamClient κ ν] in
protected theorem Ran.refl (t : DispatchTask) (now : Nat) : Ran t t now [] :=
  ⟨rfl, Nat.le_refl _, fun hposts => absurd rfl hposts, rfl, id, rfl, fun _ _ => id⟩

omit [Transport σ] [StreamClient κ ν] in
theorem Ran.trans {t t' t'' : DispatchTask} {posts later : List Post} (h : Ran t t' now posts)
    (h' : Ran t' t'' now later) : Ran t t'' now (posts ++ later) where
  mailbox := h'.mailbox.trans h.mailbox
  rank := Nat.le_trans h'.rank h.rank
  cancels := by
    intro hposts
    by_cases hfirst : posts = []
    · rw [hfirst, List.nil_append] at hposts
      obtain ⟨hbefore, hafter⟩ := h'.cancels hposts
      exact ⟨Nat.le_trans hbefore h.rank, hafter⟩
    · obtain ⟨hbefore, hafter⟩ := h.cancels hfirst
      exact ⟨hbefore, Nat.le_trans h'.rank hafter⟩
  others := by
    have hlater := h'.others
    rw [h.mailbox] at hlater
    rw [Post.completionsFor_append, h.others, hlater, List.append_nil]
  winding := fun hw => h'.winding (h.winding hw)
  plan := h'.plan.trans h.plan
  dueBy := by
    intro limit hearly hdue
    refine h'.dueBy limit ?_ (h.dueBy limit hearly hdue)
    rw [h.plan]
    exact hearly.imp_left (Nat.le_trans h.rank)

theorem step_ran (h : t.step now client l = some s) : Ran t s.task now s.posts := by
  obtain ⟨hmailbox, hplan, ⟨posts, -, hothers⟩, -, -⟩ := step_books h
  exact ⟨hmailbox, step_rank h, step_cancels h, Post.completionsFor_own hothers, step_winding h, hplan,
    fun _ => step_dueBy h⟩

theorem run_ran (t : DispatchTask) (now : Nat) (client : κ) (l : Ledger σ) :
    Ran t (t.run now client l).task now (t.run now client l).posts := by
  fun_induction run t now client l with
  | case1 t client l hnone => exact .refl t now
  | case2 t client l s hstep last =>
    rename_i ih
    exact (step_ran hstep).trans ih

end DispatchTask

end UsbVideo
