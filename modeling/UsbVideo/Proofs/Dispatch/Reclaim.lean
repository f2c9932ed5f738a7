import Mathlib.Logic.Relation
import UsbVideo.Proofs.Dispatch.Vanished

/-!
# Everything is reclaimed

The completions in the inbox and the transfers that the bus stack still holds are together the
transfers in flight, one for one (`Booked.outstanding`), and there are never more of these than the
plan has requests (`Reachable.pooled`). So an inbox with room for the requests of the plan is never
found full, and a bus stack that posts from within a request to cancel does not wait for anybody.

`Drains` is a shutdown on a bus stack that returns what it was asked for in time, in any order and
with any status. `Drained` is what one preserves: what was taken in since is subtracted from the
flight, the cancelled ones are counted, and the client is handed nothing. A shutdown comes to its end
(`Drains.finishes`), and then no transfer is in flight.
-/

namespace UsbVideo

variable {σ κ ν : Type}

/-! ### What is outstanding -/

/-- The completions in the inbox and the transfers still held by the bus stack are those in flight. -/
theorem Booked.outstanding {d : Dispatch} {inbox : List Completion} {l : Ledger σ}
    (h : Booked d inbox l) (honest : l.Honest d.mailbox) :
    (inbox.map (·.transfer.id) ++ l.pending d.mailbox).Perm d.inFlight.toList ∧
      d.inFlight.toList.Nodup := by
  obtain ⟨taken, hposted, hperm⟩ := h.taken
  have hflight := List.nodup_append.mp (hperm.nodup_iff.mpr d.nodup_issued)
  have hnodup := h.nodup_posted honest
  have hissued := honest.subset
  rw [hposted, List.map_append] at hnodup
  rw [hposted, List.map_append, h.accepted] at hissued
  obtain ⟨-, hinbox, hdisjoint⟩ := List.nodup_append.mp hnodup
  have hpending : (l.pending d.mailbox).Nodup := by
    rw [Ledger.pending, h.accepted]
    exact d.nodup_issued.filter _
  have hmem : ∀ id, id ∈ l.pending d.mailbox ↔ id ∈ d.issued ∧
      id ∉ taken.map (·.transfer.id) ∧ id ∉ inbox.map (·.transfer.id) := by
    intro id
    rw [Ledger.pending, h.accepted, hposted, List.map_append, List.mem_filter, decide_eq_true_iff,
      List.mem_append, not_or]
  have hapart : (inbox.map (·.transfer.id) ++ l.pending d.mailbox).Nodup := by
    refine List.nodup_append.mpr ⟨hinbox, hpending, ?_⟩
    rintro id hid _ hheld rfl
    exact ((hmem id).mp hheld).2.2 hid
  refine ⟨(List.perm_ext_iff_of_nodup hapart hflight.2.1).mpr fun id => ?_, hflight.2.1⟩
  -- A number is in flight if it was given and not taken in.
  have hgiven : id ∈ taken.map (·.transfer.id) ∨ id ∈ d.inFlight.toList ↔ id ∈ d.issued := by
    rw [← hperm.mem_iff, List.mem_append]
  have hnot : id ∈ d.inFlight.toList → id ∉ taken.map (·.transfer.id) :=
    fun hid htaken => hflight.2.2 id htaken id hid rfl
  rw [List.mem_append, hmem]
  constructor
  · rintro (hid | ⟨hid, htaken, -⟩)
    · refine (hgiven.mpr (hissued (List.mem_append_right _ hid))).resolve_left fun htaken => ?_
      exact hdisjoint id htaken id hid rfl
    · exact (hgiven.mpr hid).resolve_left htaken
  · intro hid
    by_cases hinbox : id ∈ inbox.map (·.transfer.id)
    · exact .inl hinbox
    · exact .inr ⟨hgiven.mp (.inr hid), hnot hid, hinbox⟩

/-- No more numbers are given than a pool has transfers. -/
theorem Dispatch.length_submitPool_le [Transport σ] (d : Dispatch) (l : Ledger σ)
    (pool : List Transfer) :
    (d.submitPool l pool).2.1.inFlight.toList.length ≤ d.inFlight.toList.length + pool.length := by
  induction pool generalizing d l with
  | nil => exact Nat.le_refl _
  | cons transfer rest ih =>
    unfold submitPool
    rcases hsubmit : d.submit transfer l with ⟨_ | refusal, d', l'⟩
    · obtain ⟨hone, -⟩ := submit_accepted hsubmit
      have hrest := ih d' l'
      rw [hone.inFlight, List.length_append, List.length_range'] at hrest
      rw [List.length_cons]
      dsimp only
      omega
    · obtain ⟨rfl, -, -⟩ := submit_refused hsubmit
      exact Nat.le_add_right _ _

namespace Scene

section

variable [Transport σ]

/-- Every turn keeps the transfers in flight and at hand within the pool. -/
theorem Turn.pooled {a b : Scene σ κ} (t : Turn a b) (honest : a.Honest)
    (hbooked : Booked a.dispatch a.task.inbox a.device)
    (h : a.dispatch.inFlight.toList.length + a.dispatch.idle.length ≤ a.dispatch.plan.requestCount) :
    b.dispatch.inFlight.toList.length + b.dispatch.idle.length ≤ b.dispatch.plan.requestCount := by
  have hplan := t.plan
  have hrefill : ∀ (d : Dispatch) (l : Ledger σ), (d.refill l).dispatch.inFlight.toList.length +
      (d.refill l).dispatch.idle.length = d.inFlight.toList.length + d.idle.length := by
    intro d l
    obtain ⟨-, n, hsubmitted, hidle⟩ := d.refill_submitted l
    rw [hsubmitted.inFlight, List.length_append, List.length_range']
    omega
  cases t with
  | arrival _ dispatch =>
    rw [dispatch]
    exact h
  | receive c _ inbox dispatch =>
    -- What is taken in leaves the flight and is at hand; what is submitted goes the other way.
    rw [inbox] at hbooked
    have hflight := hbooked.mem_inFlight honest
    have hlength := List.length_erase_of_mem hflight
    have hsome := List.length_pos_of_mem hflight
    obtain ⟨-, -, -, hidle, hinFlight⟩ := a.dispatch.takeIn_frame c
    have htaken : (a.dispatch.takeIn c).1.inFlight.toList.length +
        (a.dispatch.takeIn c).1.idle.length ≤ a.dispatch.plan.requestCount := by
      rw [hinFlight, hidle, hlength, List.length_cons]
      omega
    rw [hplan, dispatch, Dispatch.receive_eq]
    split
    · exact htaken
    · exact Nat.le_trans (Nat.le_of_eq (hrefill _ _)) htaken
  | retry _ _ dispatch =>
    rw [hplan, dispatch, hrefill]
    exact h
  | reclaim c inbox dispatch =>
    have hlength : (a.dispatch.reclaim c).inFlight.toList.length ≤
        a.dispatch.inFlight.toList.length := by
      rw [Dispatch.reclaim, Lineup.toList_eraseP]
      exact List.length_eraseP_le
    rw [hplan, dispatch]
    have hidle : (a.dispatch.reclaim c).idle = a.dispatch.idle := rfl
    rw [hidle]
    omega

variable [StreamClient κ ν]

/-- There are never more transfers in flight than the plan has requests. -/
theorem Reachable.pooled {s : Scene σ κ} (h : Reachable s) :
    s.dispatch.inFlight.toList.length + s.dispatch.idle.length ≤ s.dispatch.plan.requestCount := by
  induction h with
  | launch plan mailbox pool now client device shape allocated =>
    obtain ⟨hpool, -⟩ := Dispatch.length_allocatePool shape allocated
    obtain ⟨-, -, n, hsubmitted, hidle, -⟩ :=
      launch_submitted plan mailbox pool now client device
    have hle := ({ plan, mailbox } : Dispatch).length_submitPool_le ({ device } : Ledger σ) pool
    rw [hsubmitted.plan, hidle, ← hpool, List.length_nil, Nat.add_zero]
    exact Nat.le_trans hle (Nat.le_of_eq (Nat.zero_add _))
  | step h hs _ ih => exact hs.turn.pooled h.honest h.booked ih

/-- What waits in the inbox fits into a channel with room for the requests of the plan. -/
theorem Reachable.length_inbox_le {s : Scene σ κ} (h : Reachable s) :
    s.task.inbox.length ≤ s.dispatch.plan.requestCount := by
  have hlength := (h.booked.outstanding h.honest).1.length_eq
  rw [List.length_append, List.length_map] at hlength
  have hpooled := h.pooled
  omega

end

end Scene

/-! ### What the bus stack is asked for -/

/-- A request to take a transfer back. -/
def Asked.recall? : Asked → Option (UInt8 × Nat)
  | cancel endpoint id _ => some (endpoint, id)
  | _ => none

theorem Asked.recall?_of_mailbox? {a : Asked} {mailbox : Mailbox} (h : a.mailbox? = some mailbox) :
    a.recall? = none := by
  cases a with
  | submit => rfl
  | descriptor | read | write | select | cancel => cases h

section

variable {τ : Type} [Transport τ]

/-- Each transfer in flight is asked back once, and nothing else is asked for. -/
theorem Dispatch.cancelAll_heard (d : Dispatch) (l : Ledger (Overheard τ)) :
    ∃ asked, l.Heard asked (d.cancelAll l).2 ∧
      asked.map Asked.recall? = d.inFlight.toList.map fun id => some (d.plan.endpoint, id) := by
  have hgo : ∀ (ids : List Nat) (l : Ledger (Overheard τ)),
      ∃ asked, l.Heard asked (cancelAll.go d ids l).2 ∧
        asked.map Asked.recall? = ids.map fun id => some (d.plan.endpoint, id) := by
    intro ids
    induction ids with
    | nil => intro l; exact ⟨[], .refl l, rfl⟩
    | cons id ids ih =>
      intro l
      obtain ⟨later, hheard, hrecalled⟩ := ih (Transport.cancel d.plan.endpoint id l).2.2
      have hfirst : l.Heard [.cancel d.plan.endpoint id
          (Transport.cancel d.plan.endpoint id l.device.device).1.isOk]
          (Transport.cancel d.plan.endpoint id l).2.2 := rfl
      refine ⟨_, hfirst.trans hheard, ?_⟩
      rw [List.map_append, hrecalled]
      rfl
  exact hgo d.inFlight.toList l

/-- A round of submissions asks for submissions. -/
theorem Dispatch.refill_heard (d : Dispatch) (l : Ledger (Overheard τ)) :
    ∃ asked, l.Heard asked (d.refill l).device ∧ ∀ a ∈ asked, a.recall? = none := by
  obtain ⟨asked, hheard, hmine⟩ := submitPool_heard { d with idle := [] } l d.idle
  refine ⟨asked, ?_, fun a ha => Asked.recall?_of_mailbox? (hmine a ha)⟩
  rw [refill, submitAll_device]
  exact hheard

theorem Dispatch.receive_heard (d : Dispatch) (c : Completion) (l : Ledger (Overheard τ)) :
    ∃ asked, l.Heard asked (d.receive c l).device ∧ ∀ a ∈ asked, a.recall? = none := by
  rw [receive_eq]
  split
  · exact ⟨[], .refl l, nofun⟩
  · exact (d.takeIn c).1.refill_heard l

variable [StreamClient κ ν]

/-- A task that does not leave asks for no transfer back. -/
theorem DispatchTask.step_heard {t : DispatchTask} {now : Nat} {client : κ}
    {l : Ledger (Overheard τ)} {s : TaskStep (Ledger (Overheard τ)) κ ν}
    (h : t.step now client l = some s) (stays : ∀ fault, t.phase ≠ .leaving fault) :
    ∃ asked, l.Heard asked s.device ∧ ∀ a ∈ asked, a.recall? = none := by
  cases step_move h with
  | stop => exact ⟨[], .refl l, nofun⟩
  | receive since c inbox => exact t.dispatch.receive_heard c l
  | retry since => exact t.dispatch.refill_heard l
  | leave fault phase => exact absurd phase (stays fault)
  | reclaim => exact ⟨[], .refl l, nofun⟩
  | finish =>
    rw [conclude_device]
    exact ⟨[], .refl l, nofun⟩

end

/-! ### Shutting down -/

namespace Scene

/-- A transfer is given up only if the bus stack returned it in time. -/
def Timely (s : Scene σ κ) : Happening σ κ → Prop
  | .run now => ∀ deadline fault, s.task.phase = .draining deadline fault → deadline ≤ now →
      s.device.pending s.dispatch.mailbox = []
  | _ => True

section

variable [Transport σ] [StreamClient κ ν]

/-- What becomes of a scene on a bus stack that keeps its contract and returns in time what it was
asked back. -/
inductive Drains (s : Scene σ κ) : Scene σ κ → Prop where
  | refl : Drains s s
  | step {a : Scene σ κ} (h : Drains s a) (happening : Happening σ κ)
      (honest : (a.after happening).Honest) (timely : a.Timely happening) :
      Drains s (a.after happening)

theorem Drains.reachable {s t : Scene σ κ} (h : Drains s t) (hs : Reachable s) : Reachable t := by
  induction h with
  | refl => exact hs
  | step _ happening honest _ ih => exact .step ih (step_after _ happening) honest

omit [Transport σ] [StreamClient κ ν] in
/-- What a shutdown with a fault has come to, when these completions were taken in before it and these
since. -/
structure Drained (s t : Scene σ κ) (fault : Option StreamFault) (taken drained : List Completion) :
    Prop where
  phase : t.task.phase = .leaving fault ∨ (∃ deadline, t.task.phase = .draining deadline fault) ∨
    t.task.phase = .ended
  mailbox : t.dispatch.mailbox = s.dispatch.mailbox
  posted : t.posted = taken ++ drained ++ t.task.inbox
  inFlight : (drained.map (·.transfer.id) ++ t.dispatch.inFlight.toList).Perm
    s.dispatch.inFlight.toList
  tally : t.dispatch.tally = s.dispatch.tally.count fun stats =>
    { stats with cancelled := stats.cancelled + drained.countP (·.status = .cancelled) }
  payloads : t.client.payloads = s.client.payloads
  faults : t.client.faults = s.client.faults ++ if t.task.isEnded then fault.toList else []
  ended : t.task.isEnded = true → t.dispatch.inFlight.toList = []

/-- A step of a task that shuts down. -/
theorem Drained.step {s a : Scene σ κ} {fault : Option StreamFault} {taken drained : List Completion}
    {now : Nat} {r : TaskStep (Ledger σ) (Transcribed κ) ν} (h : Drained s a fault taken drained)
    (hr : a.task.step now a.client a.device = some r) (ha : Reachable a) (timely : a.Timely (.run now)) :
    ∃ drained, Drained s { task := r.task, client := r.client, device := r.device } fault taken
      drained := by
  have hgoes := DispatchTask.goes_of_step hr
  have hfaults : a.client.faults = s.client.faults := by
    rw [h.faults, hgoes]
    exact List.append_nil _
  have hnot : ∀ since, a.task.phase ≠ .running since := by
    intro since hp
    rcases h.phase with hphase | ⟨deadline, hphase⟩ | hphase
    all_goals
      rw [hp] at hphase
      cases hphase
  have hdrained := DispatchTask.step_drained hr
  cases DispatchTask.step_move hr with
  | stop since phase => exact absurd phase (hnot since)
  | receive since c inbox phase => exact absurd phase (hnot since)
  | retry since phase => exact absurd phase (hnot since)
  | leave fault' phase =>
    have hfault : fault' = fault := by simpa [phase] using h.phase
    obtain ⟨-, hposted⟩ := cancelAll_books a.dispatch a.device
    refine ⟨drained, .inr (.inl ⟨_, by rw [hfault]⟩), h.mailbox, ?_, h.inFlight, h.tally, h.payloads,
      ?_, nofun⟩
    · show Ledger.postedTo (a.dispatch.cancelAll a.device).2 a.dispatch.mailbox = _
      rw [Ledger.postedTo, hposted, Post.completionsFor_append, ← List.append_assoc, ← h.posted]
      rfl
    · exact hfaults.trans (List.append_nil _).symm
  | reclaim deadline fault' c inbox phase arrived =>
    have hbooked := ha.booked
    rw [arrived] at hbooked
    have hflight := List.perm_cons_erase (hbooked.mem_inFlight ha.honest)
    refine ⟨drained ++ [c], h.phase, h.mailbox, ?_, ?_, ?_, h.payloads, h.faults, fun hended => ?_⟩
    · refine h.posted.trans ?_
      rw [arrived]
      simp
    · -- The number of what is taken in moves from the flight to what was drained.
      have hinFlight : (a.dispatch.reclaim c).inFlight.toList =
          a.dispatch.inFlight.toList.erase c.transfer.id := by
        rw [Dispatch.reclaim, Lineup.toList_eraseP, List.erase_eq_eraseP']
      show (_ ++ (a.dispatch.reclaim c).inFlight.toList).Perm _
      rw [hinFlight, List.map_append, List.append_assoc]
      exact (hflight.symm.append_left _).trans h.inFlight
    · show (a.dispatch.reclaim c).tally = _
      rw [Dispatch.reclaim, List.countP_append]
      by_cases hcancelled : c.status = .cancelled
      · simp only [hcancelled, if_true, h.tally]
        simp [DispatchTally.count, hcancelled, Nat.add_assoc]
      · simp [hcancelled, h.tally]
    · exact absurd (hgoes.symm.trans hended) Bool.false_ne_true
  | finish deadline fault' before phase =>
    have hfault : fault' = fault := by simpa [phase] using h.phase
    obtain ⟨hdispatch, hinbox, hdevice, hpayloads, -⟩ :=
      conclude_spec (ν := ν) a.task fault' before a.client a.device
    have hphase : (a.task.conclude fault' before a.client a.device).task.phase = .ended := by
      rw [DispatchTask.conclude_task]
    have hheard : (a.task.conclude fault' before a.client a.device).client.faults =
        a.client.faults ++ fault'.toList := by
      cases fault' with
      | none => exact (List.append_nil _).symm
      | some fault => rfl
    have hended := DispatchTask.isEnded_iff.mpr hphase
    refine ⟨drained, .inr (.inr hphase), ?_, ?_, ?_, ?_, hpayloads.trans h.payloads, ?_,
      fun _ => hdrained hended ha.booked timely⟩
    all_goals dsimp only [Scene.posted, dispatch]
    · rw [hdispatch, h.mailbox]
    · rw [hdispatch, hdevice, hinbox]
      exact h.posted
    · rw [hdispatch]
      exact h.inFlight
    · rw [hdispatch]
      exact h.tally
    · rw [hheard, hfaults, hended, hfault]
      rfl

/-- Whatever happens during a shutdown, what was drained is accounted for. -/
theorem Drains.drained {s t : Scene σ κ} {fault : Option StreamFault} (h : Drains s t)
    (hs : Reachable s) (phase : s.task.phase = .leaving fault) {taken : List Completion}
    (before : s.posted = taken ++ s.task.inbox) : ∃ drained, Drained s t fault taken drained := by
  induction h with
  | refl =>
    have hgoes : s.task.isEnded = false := by simp [DispatchTask.isEnded, phase]
    refine ⟨[], .inl phase, rfl, by simpa using before, .refl _, rfl, rfl, ?_, ?_⟩
    · rw [hgoes]
      exact (List.append_nil _).symm
    · rw [hgoes]
      exact fun hended => absurd hended Bool.false_ne_true
  | @step a h happening honest timely ih =>
    obtain ⟨drained, hdrained⟩ := ih
    cases happening with
    | run now =>
      show ∃ drained, Drained s (a.next now) fault taken drained
      unfold next
      cases hstep : a.task.step now a.client a.device with
      | none => exact ⟨drained, hdrained⟩
      | some r => exact hdrained.step hstep (h.reachable hs) timely
    | act device posts =>
      refine ⟨drained, { hdrained with posted := ?_ }⟩
      show (a.device.act device posts).postedTo a.dispatch.mailbox = _
      rw [Ledger.postedTo, Ledger.act, Post.completionsFor_append]
      show a.posted ++ _ = _
      rw [hdrained.posted, List.append_assoc]
      rfl
    | client client => exact ⟨drained, { hdrained with }⟩
    | stop => exact ⟨drained, { hdrained with }⟩

/-- What becomes of a scene when its task steps until it can only wait. -/
def ran (s : Scene σ κ) (now : Nat) : Scene σ κ :=
  let r := s.task.run now s.client s.device
  { task := r.task, client := r.client, device := r.device }

/-- As long as it can, a task that drains takes in completions and ends; the bus stack is not asked for
anything. -/
theorem device_next {t : Scene σ κ} (drains : t.task.phase.rank ≤ 1) (now : Nat) :
    (t.next now).task.phase.rank ≤ 1 ∧ (t.next now).device = t.device ∧
      (t.next now).dispatch.mailbox = t.dispatch.mailbox := by
  unfold next
  cases hstep : t.task.step now t.client t.device with
  | none => exact ⟨drains, rfl, rfl⟩
  | some r =>
    refine ⟨Nat.le_trans (DispatchTask.step_rank hstep) drains, ?_,
      (DispatchTask.step_books hstep).mailbox⟩
    cases DispatchTask.step_move hstep with
    | reclaim => rfl
    | finish => exact DispatchTask.conclude_device ..
    | stop since phase | receive since c inbox phase | retry since phase | leave fault phase =>
      simp [phase, DispatchPhase.rank] at drains

/-- Once everything is returned the task may run at any time, and everything stays so. -/
theorem Drains.ran {s : Scene σ κ} (hs : Reachable s) (now : Nat) (task : DispatchTask)
    (client : Transcribed κ) (l : Ledger σ) :
    let t : Scene σ κ := { task, client, device := l }
    Drains s t → t.task.phase.rank ≤ 1 → t.device.pending t.dispatch.mailbox = [] →
      Drains s (t.ran now) ∧ (t.ran now).task.phase.rank ≤ 1 ∧
        (t.ran now).device.pending (t.ran now).dispatch.mailbox = [] := by
  fun_induction DispatchTask.run task now client l with
  | case1 task client l hnone =>
    intro t h drains returned
    rw [Scene.ran, DispatchTask.run_eq_self hnone]
    exact ⟨h, drains, returned⟩
  | case2 task client l r hstep last =>
    rename_i ih
    intro t h drains returned
    have hnext : t.next now = { task := r.task, client := r.client, device := r.device } := by
      rw [next, hstep]
    have hran : t.ran now = (t.next now).ran now := by
      rw [hnext, Scene.ran, DispatchTask.run_of_step hstep, Scene.ran]
    -- The step leaves the bus stack as it is, so it is honest and in time.
    obtain ⟨hrank, hdevice, hmailbox⟩ := device_next drains now
    have hon : Drains s (t.next now) := by
      refine h.step (.run now) ?_ fun _ _ _ _ => returned
      show (t.next now).device.Honest (t.next now).dispatch.mailbox
      rw [hdevice, hmailbox]
      exact (h.reachable hs).honest
    rw [← hdevice, ← hmailbox] at returned
    rw [hran]
    rw [hnext] at hon hrank returned ⊢
    exact ih hon hrank returned

/-- Once everything is returned, a shutdown comes to its end at any time. -/
theorem Drains.finishes {s t : Scene σ κ} (h : Drains s t) (hs : Reachable s)
    (drains : t.task.phase.rank ≤ 1) (returned : t.device.pending t.dispatch.mailbox = [])
    (now : Nat) : Drains s (t.ran now) ∧ (t.ran now).task.isEnded = true := by
  obtain ⟨hran, hrank, hreturned⟩ := Drains.ran hs now t.task t.client t.device h drains returned
  refine ⟨hran, ?_⟩
  rcases DispatchTask.drains_of_rank hrank with hended | ⟨deadline, fault, hp⟩
  · exact hended
  · -- It does not wait: nothing is left in the inbox, so nothing is in flight.
    have hwaits : (t.ran now).task.Waits now :=
      DispatchTask.waits_run t.task now t.client t.device
    simp only [DispatchTask.Waits, hp] at hwaits
    obtain ⟨hflight, hinbox, -⟩ := hwaits
    have hbooked := (hran.reachable hs).booked
    rw [hinbox] at hbooked
    have hidle := hbooked.idle_of_pending hreturned
    rw [← Lineup.isEmpty_toList, hidle] at hflight
    cases hflight

end

section

variable {τ : Type} [Transport τ] [StreamClient κ ν]

/-- What a step of the task asks the bus stack for: each transfer in flight back, once, when it leaves,
and no transfer at any other time. -/
theorem next_heard (s : Scene (Overheard τ) κ) (now : Nat) :
    ∃ asked, s.device.Heard asked (s.next now).device ∧
      ((∃ fault, s.task.phase = .leaving fault) →
        asked.map Asked.recall? =
          s.dispatch.inFlight.toList.map fun id => some (s.dispatch.plan.endpoint, id)) ∧
      ((∀ fault, s.task.phase ≠ .leaving fault) → ∀ a ∈ asked, a.recall? = none) := by
  by_cases hleaves : ∃ fault, s.task.phase = .leaving fault
  · obtain ⟨fault, phase⟩ := hleaves
    obtain ⟨asked, hheard, hrecalled⟩ := s.dispatch.cancelAll_heard s.device
    have hdevice : (s.next now).device = (s.dispatch.cancelAll s.device).2 := by
      unfold next DispatchTask.step
      rw [phase]
    exact ⟨asked, hdevice ▸ hheard, fun _ => hrecalled, fun hstays => absurd phase (hstays fault)⟩
  · have hstays : ∀ fault, s.task.phase ≠ .leaving fault := fun fault phase => hleaves ⟨fault, phase⟩
    unfold next
    cases hstep : s.task.step now s.client s.device with
    | none => exact ⟨[], .refl s.device, fun h => absurd h hleaves, fun _ => nofun⟩
    | some r =>
      obtain ⟨asked, hheard, hnone⟩ := DispatchTask.step_heard hstep hstays
      exact ⟨asked, hheard, fun h => absurd h hleaves, fun _ => hnone⟩

/-- **Shutdown reclaims everything and cannot block.** At every point of a run the completions in the
inbox and the transfers held by the bus stack are those in flight, one for one, and never more than the
plan has requests; so whatever is posted next finds room in a channel for that many. When the task
leaves it asks for each transfer in flight once, and never again. If these are returned in time, in any
order and with any status, what is drained is counted if it was cancelled and otherwise changes
nothing: the client is handed no payload and hears of no fault but the one the task left with; and once
all are returned the task ends, with nothing in flight. -/
theorem reclaims_everything {s : Scene (Overheard τ) κ} (h : Reachable s) :
    ((s.task.inbox.map (·.transfer.id) ++ s.device.pending s.dispatch.mailbox).Perm
        s.dispatch.inFlight.toList ∧ s.dispatch.inFlight.toList.Nodup) ∧
      s.dispatch.inFlight.toList.length ≤ s.dispatch.plan.requestCount ∧
      (∀ happening, (s.after happening).Honest → ∀ before c later,
        (s.after happening).task.inbox = before ++ c :: later →
          before.length < s.dispatch.plan.requestCount) ∧
      (∀ now, ∃ asked, s.device.Heard asked (s.next now).device ∧
        ((∃ fault, s.task.phase = .leaving fault) → asked.map Asked.recall? =
          s.dispatch.inFlight.toList.map fun id => some (s.dispatch.plan.endpoint, id)) ∧
        ((∀ fault, s.task.phase ≠ .leaving fault) → ∀ a ∈ asked, a.recall? = none)) ∧
      ∀ fault, s.task.phase = .leaving fault → ∀ t, Drains s t →
        (∃ taken drained : List Completion,
          s.posted = taken ++ s.task.inbox ∧ t.posted = taken ++ drained ++ t.task.inbox ∧
          (drained.map (·.transfer.id) ++ t.dispatch.inFlight.toList).Perm
            s.dispatch.inFlight.toList ∧
          t.dispatch.tally = s.dispatch.tally.count fun stats =>
            { stats with cancelled := stats.cancelled + drained.countP (·.status = .cancelled) }) ∧
        t.client.payloads = s.client.payloads ∧
        t.client.faults = s.client.faults ++ (if t.task.isEnded then fault.toList else []) ∧
        (t.task.isEnded = true → t.dispatch.inFlight.toList = []) ∧
        ((∃ deadline, t.task.phase = .draining deadline fault) →
          t.device.pending t.dispatch.mailbox = [] →
            ∀ now, Drains s (t.ran now) ∧ (t.ran now).task.isEnded = true) := by
  have hpooled := h.pooled
  refine ⟨h.booked.outstanding h.honest, Nat.le_of_add_right_le hpooled, ?_, s.next_heard, ?_⟩
  · intro happening honest before c later hinbox
    have hstep := step_after s happening
    have hfits := (h.step hstep honest).length_inbox_le
    rw [hinbox, hstep.turn.plan, List.length_append, List.length_cons] at hfits
    omega
  · intro fault phase t hdrains
    obtain ⟨taken, hposted, -⟩ := h.booked.taken
    obtain ⟨drained, hd⟩ := hdrains.drained h phase hposted
    refine ⟨⟨taken, drained, hposted, hd.posted, hd.inFlight, hd.tally⟩, hd.payloads, hd.faults,
      hd.ended, fun ⟨deadline, hp⟩ hreturned now => hdrains.finishes h ?_ hreturned now⟩
    rw [hp]
    exact Nat.le_refl 1

end

/-! ### A stop with a completion in the inbox -/

/-- The task is told to stop before it takes in that the device is gone. -/
def stopped : Scene (Overheard ScriptedTransport) Recorder := (unplugged.after .stop).after (.run 1)

theorem reachable_stopped : Reachable stopped := by
  refine (reachable_unplugged.step (step_after _ .stop) ?_).step (step_after _ (.run 1)) ?_
  · show unplugged.Honest
    exact reachable_unplugged.honest
  · show stopped.Honest
    decide +kernel

/-- The other two come back from within the requests to cancel, and the task ends without a fault. -/
theorem reclaims_everything_stopped :
    Reachable stopped ∧ stopped.task.phase = .leaving none ∧ Drains stopped (stopped.next 5) ∧
      (stopped.next 5).task.inbox.map (fun c => (c.transfer.id, c.status)) =
        [(2, .noDevice), (1, .cancelled), (3, .cancelled)] ∧
      ((stopped.next 5).ran 6).task.isEnded = true ∧
        ((stopped.next 5).ran 6).dispatch.inFlight.toList = [] ∧
          ((stopped.next 5).ran 6).client.faults = stopped.client.faults := by
  have hphase : stopped.task.phase = .leaving none := by decide +kernel
  have hdrains : Drains stopped (stopped.next 5) := by
    refine Drains.refl.step (.run 5) ?_ ?_
    · show (stopped.next 5).Honest
      decide +kernel
    · intro deadline fault hp
      rw [hphase] at hp
      cases hp
  have hafter : (stopped.next 5).task.phase = .draining 505 none := by decide +kernel
  have hreturned :
      (stopped.next 5).device.pending (stopped.next 5).dispatch.mailbox = [] := by decide +kernel
  have hall := (reclaims_everything reachable_stopped).2.2.2.2 none hphase
  obtain ⟨-, -, -, -, hends⟩ := hall _ hdrains
  obtain ⟨hran, hended⟩ := hends ⟨505, hafter⟩ hreturned 6
  obtain ⟨-, -, hfaults, hidle, -⟩ := hall _ hran
  refine ⟨reachable_stopped, hphase, hdrains, by decide +kernel, hended, hidle hended, ?_⟩
  rw [hfaults, hended]
  exact List.append_nil _

end Scene

end UsbVideo
