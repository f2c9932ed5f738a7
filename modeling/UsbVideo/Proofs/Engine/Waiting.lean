import UsbVideo.Proofs.Engine.Turns

/-!
# Waiting for a task

`World.awaitEnd` lets everything run and time pass, from one due task to the next, until the task it
waits for has ended. It takes two turns more than milliseconds until the deadline of the task:

    first turn      the task is told, leaves and drains; whoever is late wakes up
    second turn     now nobody is late, so from here on every turn takes time
    …
    at the deadline the task has ended                                  `awaitEnd_ended`
-/

namespace UsbVideo

namespace World

variable {σ κ ν : Type} {w w' : World (Ledger σ) κ ν}

/-- Who is late is awake. -/
def Woken (w : World (Ledger σ) κ ν) : Prop :=
  ∀ t ∈ w.tasks, ∀ time, t.task.dueAt = some time → time ≤ w.now → .task t.mailbox ∈ w.ready

/-- A task drains and is due by a time, or it has ended. -/
def Drains (w : World (Ledger σ) κ ν) (mailbox : Mailbox) (limit : Nat) : Prop :=
  ∃ t ∈ w.tasks, t.mailbox = mailbox ∧ t.task.phase.rank ≤ 1 ∧ t.task.DueBy limit

/-- A task is bound to drain, and awake to do so in time. -/
def Leaves (w : World (Ledger σ) κ ν) (mailbox : Mailbox) (limit : Nat) : Prop :=
  ∃ t ∈ w.tasks, t.mailbox = mailbox ∧ t.task.Winding ∧ t.task.DueBy limit ∧
    w.now + t.task.dispatch.plan.cancelTimeout ≤ limit ∧ .task mailbox ∈ w.ready

namespace Turn

/-- What becomes of a task. -/
theorem after (turn : Turn w w') (served : w.Served) {t : RunningTask} (ht : t ∈ w.tasks) :
    ∃ t' ∈ w'.tasks, t'.mailbox = t.mailbox ∧ Turned w w' t t' := by
  obtain ⟨t', ht', hsame⟩ :=
    List.mem_map.mp (turn.mailboxes.mem_iff.mpr (List.mem_map_of_mem ht))
  obtain ⟨u, hu, hturned⟩ := turn.tasks t' ht'
  have hmailbox : t'.mailbox = u.mailbox := by
    rcases hturned with ⟨hkept, -⟩ | ⟨-, ⟨posts, hran⟩, -⟩
    · exact hkept.mailbox
    · exact hran.mailbox
  obtain rfl := served.distinct.eq hu ht (hmailbox.symm.trans hsame)
  exact ⟨t', ht', hsame, hturned⟩

theorem woken (turn : Turn w w') (woken : w.Woken) : w'.Woken := by
  intro t' ht' time hdue hlate
  rw [turn.now] at hlate
  obtain ⟨t, ht, ⟨hkept, hawake⟩ | ⟨-, -, hwaits⟩⟩ := turn.tasks t' ht'
  · rw [hkept.mailbox]
    rw [hkept.dueAt] at hdue
    exact hawake (woken t ht time hdue hlate)
  · exact absurd (hwaits.lt_due hdue) (Nat.not_lt.mpr hlate)

variable {mailbox : Mailbox} {limit : Nat}

theorem drains (turn : Turn w w') (served : w.Served) (h : w.Drains mailbox limit) :
    w'.Drains mailbox limit := by
  obtain ⟨t, ht, rfl, hrank, hdue⟩ := h
  obtain ⟨t', ht', hsame, hturned⟩ := turn.after served ht
  refine ⟨t', ht', hsame, ?_⟩
  rcases hturned with ⟨hkept, -⟩ | ⟨-, ⟨posts, hran⟩, -⟩
  · rw [DispatchTask.DueBy, hkept.phase]
    exact ⟨hrank, hdue⟩
  · exact ⟨Nat.le_trans hran.rank hrank, hran.dueBy limit (.inl hrank) hdue⟩

theorem leaves (turn : Turn w w') (served : w.Served) (h : w.Leaves mailbox limit) :
    w'.Drains mailbox limit ∨ w'.Leaves mailbox limit := by
  obtain ⟨t, ht, rfl, hwinding, hdue, hearly, hawake⟩ := h
  obtain ⟨t', ht', hsame, ⟨hkept, hstays⟩ | ⟨-, ⟨posts, hran⟩, hwaits⟩⟩ := turn.after served ht
  · refine .inr ⟨t', ht', hsame, hkept.winding hwinding, ?_, ?_, hstays hawake⟩
    · rwa [DispatchTask.DueBy, hkept.phase]
    · rwa [turn.now, hkept.dispatch]
  · exact .inl ⟨t', ht', hsame, (hran.winding hwinding).rank_le hwaits,
      hran.dueBy limit (.inr hearly) hdue⟩

end Turn

variable {mailbox : Mailbox} {limit : Nat}

/-- Time wakes who is late. -/
theorem woken_advanceTo (w : World (Ledger σ) κ ν) (time : Nat) : (w.advanceTo time).Woken := by
  have hwake : ∀ (mailboxes : List Mailbox) (w : World (Ledger σ) κ ν) (job : Job),
      job ∈ w.ready ∨ job ∈ mailboxes.map .task →
        job ∈ (mailboxes.foldl (fun w mailbox => w.wake (.task mailbox)) w).ready := by
    intro mailboxes
    induction mailboxes with
    | nil => exact fun w job hjob => hjob.resolve_right List.not_mem_nil
    | cons mailbox rest ih =>
      intro w job hjob
      apply ih
      rw [List.map_cons, List.mem_cons] at hjob
      rcases hjob with hawake | rfl | hrest
      · exact .inl ((w.wake_woke (List.mem_singleton_self (.task mailbox))).stays hawake)
      · exact .inl (w.mem_wake _)
      · exact .inr hrest
  obtain ⟨ready, heq⟩ := w.advanceTo_eq time
  intro t ht due hdue hlate
  rw [heq] at ht hlate
  refine hwake _ { w with now := max w.now time } _ (.inr (List.mem_map_of_mem ?_))
  refine List.mem_map.mpr ⟨(due, t.mailbox), List.mem_mergeSort.mpr ?_, rfl⟩
  exact List.mem_filterMap.mpr ⟨t, ht, by simp [hdue, hlate]⟩

/-- A task that drains is due, and some task is due before. -/
theorem nextDue_of_drains (served : w.Served) (h : w.Drains mailbox limit)
    (goes : ¬ w.hasEnded mailbox = true) : ∃ time ≤ limit, w.nextDue = some time := by
  obtain ⟨t, ht, rfl, hrank, hlimit⟩ := h
  rw [hasEnded, task?_eq served.distinct ht, Option.all_some] at goes
  obtain ⟨deadline, fault, hp⟩ := (DispatchTask.drains_of_rank hrank).resolve_left goes
  have hmem : deadline ∈ w.tasks.filterMap (·.task.dueAt) :=
    List.mem_filterMap.mpr ⟨t, ht, by rw [DispatchTask.dueAt, hp]⟩
  cases hnext : w.nextDue with
  | none =>
    rw [List.min?_eq_none_iff.mp hnext] at hmem
    cases hmem
  | some time =>
    have hfirst := (List.min?_eq_some_iff.mp hnext).2 deadline hmem
    exact ⟨time, Nat.le_trans hfirst (hlimit deadline fault hp), rfl⟩

/-- When nobody is late, time passes until the next task is due. -/
theorem lt_nextDue (woken : w.Woken) (nobody : w.ready = []) {time : Nat}
    (next : w.nextDue = some time) : w.now < time := by
  obtain ⟨t, ht, hdue⟩ := List.mem_filterMap.mp (List.min?_mem next)
  rw [← Nat.not_le]
  intro hlate
  have hawake := woken t ht time hdue hlate
  rw [nobody] at hawake
  cases hawake

variable [Transport σ] [StreamClient κ ν]

/-- Who leaves drains when all jobs have run. -/
theorem runReady_drains (served : w.Served) {mailbox : Mailbox} {limit : Nat}
    (h : w.Drains mailbox limit ∨ w.Leaves mailbox limit) :
    w.runReady.Served ∧ w.runReady.now = w.now ∧ (w.Woken → w.runReady.Woken) ∧
      w.runReady.Drains mailbox limit := by
  obtain ⟨hserved, hnow, hwoken, hleaves⟩ := runTurns_induction
    (P := fun v => v.now = w.now ∧ (w.Woken → v.Woken) ∧
      (v.Drains mailbox limit ∨ v.Leaves mailbox limit))
    (fun hv turn ⟨hnow, hwoken, hleaves⟩ =>
      ⟨turn.now.trans hnow, fun woken => turn.woken (hwoken woken),
        hleaves.elim (fun hdrains => .inl (turn.drains hv hdrains)) (turn.leaves hv)⟩)
    w.enoughTurns served ⟨rfl, id, h⟩
  refine ⟨hserved, hnow, hwoken, hleaves.resolve_right ?_⟩
  rintro ⟨t, -, -, -, -, -, hawake⟩
  rw [← runReady, runReady_ready served] at hawake
  cases hawake

/-- A turn of a wait: the task has ended, or the wait goes on at a later time. -/
theorem awaitTurns_succ (turns : Nat) (served : w.Served) {mailbox : Mailbox} {limit : Nat}
    (h : w.Drains mailbox limit ∨ w.Leaves mailbox limit) :
    (w.awaitTurns mailbox (turns + 1)).hasEnded mailbox = true ∨
      ∃ v : World (Ledger σ) κ ν, w.awaitTurns mailbox (turns + 1) = v.awaitTurns mailbox turns ∧
        v.Served ∧ v.Woken ∧ v.Drains mailbox limit ∧ w.now ≤ v.now ∧
          (w.Woken → w.now < v.now ∧ w.now < limit) := by
  obtain ⟨hserved, hnow, hwoken, hdrains⟩ := runReady_drains served h
  rw [awaitTurns]
  split
  · next hended => exact .inl hended
  · next hgoes =>
    obtain ⟨time, hlimit, hnext⟩ := nextDue_of_drains hserved hdrains hgoes
    obtain ⟨ready, heq⟩ := w.runReady.advanceTo_eq time
    rw [hnext]
    refine .inr ⟨_, rfl, hserved.advanceTo time, woken_advanceTo _ time, ?_, ?_, fun woken => ?_⟩
    · rw [heq]
      exact hdrains
    · rw [heq, ← hnow]
      exact Nat.le_max_left ..
    · have hlater := lt_nextDue (hwoken woken) (runReady_ready served) hnext
      rw [heq, ← hnow]
      exact ⟨Nat.lt_of_lt_of_le hlater (Nat.le_max_right ..), Nat.lt_of_lt_of_le hlater hlimit⟩

/-- When who is late is awake, each turn takes time. -/
theorem awaitTurns_ended (turns : Nat) (served : w.Served) (woken : w.Woken) {mailbox : Mailbox}
    {limit : Nat} (h : w.Drains mailbox limit) (enough : limit ≤ w.now + turns) :
    (w.awaitTurns mailbox (turns + 1)).hasEnded mailbox = true := by
  induction turns generalizing w with
  | zero =>
    rcases awaitTurns_succ 0 served (.inl h) with hended | ⟨v, -, -, -, -, -, hlater⟩
    · exact hended
    · exact absurd (hlater woken).2 (Nat.not_lt.mpr enough)
  | succ turns ih =>
    rcases awaitTurns_succ (turns + 1) served (.inl h) with
      hended | ⟨v, heq, hserved, hwoken, hdrains, -, hlater⟩
    · exact hended
    · rw [heq]
      have htime := (hlater woken).1
      exact ih hserved hwoken hdrains (by omega)

/-- A wait for a task that was told to wind down ends with the task. -/
theorem awaitEnd_ended (served : w.Served) {t : RunningTask} (ht : t ∈ w.tasks)
    (h : t.task.phase.rank ≤ 1 ∨ t.task.Winding ∧ .task t.mailbox ∈ w.ready) :
    (w.awaitEnd t.mailbox).hasEnded t.mailbox = true := by
  have hdue := served.due t ht
  have hleaves : w.Drains t.mailbox (w.now + t.task.dispatch.plan.cancelTimeout) ∨
      w.Leaves t.mailbox (w.now + t.task.dispatch.plan.cancelTimeout) := by
    rcases h with hrank | ⟨hwinding, hawake⟩
    · exact .inl ⟨t, ht, rfl, hrank, hdue⟩
    · exact .inr ⟨t, ht, rfl, hwinding, hdue, Nat.le_refl _, hawake⟩
  unfold awaitEnd
  split
  · next hended => exact hended
  · rw [task?_eq served.distinct ht]
    rcases awaitTurns_succ (t.task.dispatch.plan.cancelTimeout + 1) served hleaves with
      hended | ⟨v, heq, hserved, hwoken, hdrains, hlater, -⟩
    · exact hended
    · show (w.awaitTurns _ (t.task.dispatch.plan.cancelTimeout + 2)).hasEnded _ = true
      rw [heq]
      exact awaitTurns_ended _ hserved hwoken hdrains (by omega)

/-- So does the wait for a task that runs first. -/
theorem awaitEnd_runTask_ended (served : w.Served) {t : RunningTask} (ht : t ∈ w.tasks)
    (winding : t.task.Winding) :
    ((w.runTask t.mailbox).awaitEnd t.mailbox).hasEnded t.mailbox = true := by
  -- The task is awake, and it is its turn.
  have hserved : { w with ready := .task t.mailbox :: w.ready }.Served :=
    served.same rfl (Nat.le_refl _) rfl rfl
  have hturn : Turn { w with ready := .task t.mailbox :: w.ready } (w.runTask t.mailbox) :=
    runTask_turn hserved rfl
  obtain ⟨t', ht', hsame, ⟨hkept, hstays⟩ | ⟨-, ⟨posts, hran⟩, hwaits⟩⟩ := hturn.after hserved ht
  · have hended := awaitEnd_ended hturn.served ht' (.inr ⟨hkept.winding winding, ?_⟩)
    · rwa [hsame] at hended
    · rw [hsame]
      exact hstays List.mem_cons_self
  · have hended := awaitEnd_ended hturn.served ht' (.inl ((hran.winding winding).rank_le hwaits))
    rwa [hsame] at hended

/-- And the wait for a task that is told to wind down only now. -/
theorem awaitEnd_askStop_ended (served : w.Served) (mailbox : Mailbox) :
    ((w.askStop mailbox).awaitEnd mailbox).hasEnded mailbox = true := by
  unfold askStop
  split
  · next hended => rwa [awaitEnd, if_pos hended]
  · next hgoes =>
    simp only [hasEnded_iff served.distinct, not_forall] at hgoes
    obtain ⟨t, ht, rfl, -⟩ := hgoes
    have htold := RunningTask.keeps_told t.mailbox
    have hawake := (w.modifyTask t.mailbox fun t => { t with stopRequested := true }).mem_wake
      (.task t.mailbox)
    obtain ⟨ready, heq⟩ := w.requestStop_eq t.mailbox
    rw [← requestStop, heq] at hawake
    rw [heq]
    have hmailbox := (htold t).mailbox
    have hended := awaitEnd_ended
      (w := { w with tasks := w.tasks.map (·.told t.mailbox), ready })
      (served.map htold rfl (Nat.le_refl _) rfl rfl) (List.mem_map_of_mem ht)
      (.inr ⟨RunningTask.winding_told hmailbox, by rwa [hmailbox]⟩)
    rwa [hmailbox] at hended

end World

end UsbVideo
