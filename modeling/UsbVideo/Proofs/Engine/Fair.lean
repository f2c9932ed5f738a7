import Mathlib.Order.Monotone.Basic
import UsbVideo.Proofs.Engine.Course

/-!
# Every call ends

A call waits for one thing, a task that winds down. In an endless run in which nobody is passed over for
ever (`Fair`) that task comes to its end, whatever else happens:

    told to stop ──▶ leaving ──▶ draining ──▶ … one transfer fewer … ──▶ ended
                                    └───────── deadline ────────────────────┘

Nothing but a step of its own changes what the task has to go, and every such step makes it less; the
task can only wait for its deadline, and time does not stand still. So every call ends, and a call to
close ends in closed.
-/

namespace UsbVideo

/-! ### The turn of a task -/

namespace Engine

variable {σ : Type} [Transport σ] {name : String} {e a b : Engine σ} {event : Event}

/-- When it is its turn a task makes a step, unless it can only wait. -/
theorem Sound.turn (h : e.Sound name) {t : RunningTask} (ht : t ∈ e.world.tasks) {c : Controller}
    (there : e.world.clients[t.client]? = some c) :
    t.task.step e.world.now c e.world.device = none ∨
      ∃ t' ∈ (e.world.stepTask t.mailbox).tasks, ∃ s : TaskStep (Ledger σ) Controller Call,
        t.task.step e.world.now c e.world.device = some s ∧
          RunningTask.Kept { t with task := s.task } t' := by
  unfold World.stepTask
  rw [World.task?_eq h.accounts.distinct ht]
  dsimp only
  rw [there]
  dsimp only
  split
  · next hnone => exact .inl hnone
  · next s hstep =>
    obtain ⟨ready, heq⟩ :=
      World.afterSteps_eq h.accounts.distinct ht (DispatchTask.step_books hstep).mailbox
    rw [heq]
    have hnew : ({ t with task := s.task } : RunningTask) ∈ World.changed e.world.tasks t s.task :=
      World.mem_changed.mpr (.inr rfl)
    exact .inr ⟨_, List.mem_map_of_mem hnew, s, hstep, RunningTask.keeps_receive s.posts _⟩

/-- A step leaves less to go for a task that winds down. -/
theorem Sound.toGo (h : e.Sound name) (contract : e.Contract name) {t t' : RunningTask}
    (ht : t ∈ e.world.tasks) (winding : t.task.Winding) {c : Controller}
    {s : TaskStep (Ledger σ) Controller Call}
    (hstep : t.task.step e.world.now c e.world.device = some s)
    (kept : RunningTask.Kept { t with task := s.task } t') :
    t'.mailbox = t.mailbox ∧ t'.client = t.client ∧ t'.task.Winding ∧ t'.task.toGo < t.task.toGo := by
  have hbooked := h.accounts.accounted t ht
  rw [RunningTask.Accounted, if_neg (by simp [DispatchTask.goes_of_step hstep])] at hbooked
  refine ⟨kept.mailbox.trans (DispatchTask.step_books hstep).mailbox, kept.client,
    kept.winding (DispatchTask.step_winding hstep winding), ?_⟩
  rw [kept.toGo]
  exact DispatchTask.step_toGo hstep winding hbooked (contract.honest _)

/-- Time does not run backwards. -/
theorem Step.now (hs : Step a event b) (h : a.Sound name) : a.world.now ≤ b.world.now := by
  cases hs with
  | proceed index c u => exact (a.world.proceeded index c u).now.ge
  | close index c s =>
    obtain ⟨tasks, ready, -, heq⟩ := a.world.beginClose_eq index s.mailbox
    rw [closing, heq]
  | drop index =>
    rcases a.world.abandon_eq index with ⟨-, heq⟩ | ⟨s, device, ready, trace, -, -, heq⟩
    · rw [dropped, heq]
    · rw [dropped, heq]
  | disconnect index c idle =>
    rcases a.world.notifyDisconnect_eq index with hsame | ⟨c, c', trace, -, -, heq⟩
    · rw [hsame]
    · rw [heq]
  | task mailbox =>
    rcases stepTask_eq h.accounts.distinct mailbox with hsame | ⟨t, c, s, ready, -, -, -, -, -, heq⟩
    · rw [hsame]
    · rw [heq]
  | worker index worker =>
    rcases a.world.onPipeline_eq index worker.onward with hsame | ⟨c, c', trace, -, -, heq⟩
    · rw [hsame]
    · rw [heq]
  | device device posts =>
    obtain ⟨ready, heq⟩ := World.act_eq h.accounts.distinct device posts
    rw [heq]
  | pass time =>
    obtain ⟨ready, heq⟩ := a.world.advanceTo_eq time
    rw [heq]
    exact Nat.le_max_left ..
  | _ => exact Nat.le_refl _

/-! ### Fair runs -/

/-- An endless run in which nobody is passed over for ever, on a bus stack that keeps its contract. -/
structure Fair (name : String) (run : Nat → Engine σ) : Prop where
  start : Reachable name (run 0)
  next : ∀ n, ∃ event, Step (run n) event (run (n + 1))
  contract : ∀ n, (run n).Contract name
  /-- Time does not stand still. -/
  time : ∀ moment, ∃ n, moment ≤ (run n).world.now
  /-- Every task has its turn again. -/
  turns : ∀ n, ∀ t ∈ (run n).world.tasks,
    ∃ k ≥ n, run (k + 1) = { run k with world := (run k).world.stepTask t.mailbox }
  /-- A call goes on, once it need not wait. -/
  calls : ∀ n i u, (run n).calls i = some u →
    (∀ mailbox, u.awaits = some mailbox → (run n).world.hasEnded mailbox = true) →
      ∃ k ≥ n, (run k).calls i ≠ some u

namespace Fair

variable {run : Nat → Engine σ} {n k i : Nat} {t : RunningTask} {c : Controller} {u : Undertaking}

theorem reachable (h : Fair name run) (n : Nat) : Reachable name (run n) := by
  induction n with
  | zero => exact h.start
  | succ n ih =>
    obtain ⟨event, hs⟩ := h.next n
    exact .step ih hs (h.contract (n + 1))

theorem sound (h : Fair name run) (n : Nat) : (run n).Sound name := (h.reachable n).sound

theorem now_mono (h : Fair name run) : Monotone fun n => (run n).world.now :=
  monotone_nat_of_le_succ fun n =>
    let ⟨_, hs⟩ := h.next n
    hs.now (h.sound n)

theorem there (h : Fair name run) (hc : (run n).world.clients[i]? = some c) (hk : n ≤ k) :
    ∃ c', (run k).world.clients[i]? = some c' := by
  induction k, hk using Nat.le_induction with
  | base => exact ⟨c, hc⟩
  | succ k _ ih =>
    obtain ⟨c', hc'⟩ := ih
    obtain ⟨event, hs⟩ := h.next k
    exact hs.there (h.sound k) hc'

/-- A task that winds down has less to go some time, or is kept. -/
theorem kept (h : Fair name run) (ht : t ∈ (run n).world.tasks) (winding : t.task.Winding)
    (hk : n ≤ k) :
    (∃ m ≥ n, ∃ t' ∈ (run m).world.tasks, t'.mailbox = t.mailbox ∧ t'.client = t.client ∧
      t'.task.Winding ∧ t'.task.toGo < t.task.toGo) ∨ ∃ t' ∈ (run k).world.tasks, t.Kept t' := by
  induction k, hk using Nat.le_induction with
  | base => exact .inr ⟨t, ht, .refl t⟩
  | succ k hk ih =>
    rcases ih with hless | ⟨t₁, ht₁, hkept⟩
    · exact .inl hless
    obtain ⟨event, hs⟩ := h.next k
    obtain ⟨t₂, ht₂, hafter | ⟨c, s, hstep, hafter⟩⟩ := hs.tasks (h.sound k).accounts.distinct ht₁
    · exact .inr ⟨t₂, ht₂, hkept.trans hafter⟩
    · obtain ⟨hmailbox, hclient, hwinding, hless⟩ :=
        (h.sound k).toGo (h.contract k) ht₁ (hkept.winding winding) hstep hafter
      exact .inl ⟨k + 1, Nat.le_succ_of_le hk, t₂, ht₂, hmailbox.trans hkept.mailbox,
        hclient.trans hkept.client, hwinding, hkept.toGo ▸ hless⟩

/-- A task that winds down ends. -/
theorem ends (h : Fair name run) (ht : t ∈ (run n).world.tasks) (winding : t.task.Winding)
    (hc : (run n).world.clients[t.client]? = some c) :
    ∃ k ≥ n, (run k).world.hasEnded t.mailbox = true := by
  induction hgo : t.task.toGo using WellFoundedLT.induction generalizing n t c with
  | ind _ ih =>
  subst hgo
  have hless : (∃ m ≥ n, ∃ t' ∈ (run m).world.tasks, t'.mailbox = t.mailbox ∧ t'.client = t.client ∧
      t'.task.Winding ∧ t'.task.toGo < t.task.toGo) →
        ∃ k ≥ n, (run k).world.hasEnded t.mailbox = true := by
    rintro ⟨m, hm, t', ht', hmailbox, hclient, hwinding, hless⟩
    obtain ⟨c', hc'⟩ := h.there hc hm
    rw [← hclient] at hc'
    obtain ⟨k, hk, hended⟩ := ih _ hless ht' hwinding hc' rfl
    exact ⟨k, Nat.le_trans hm hk, hmailbox ▸ hended⟩
  by_cases hended : t.task.isEnded = true
  · refine ⟨n, Nat.le_refl n, (World.hasEnded_iff (h.sound n).accounts.distinct).mpr fun u hu hsame => ?_⟩
    rwa [(h.sound n).accounts.distinct.eq hu ht hsame]
  -- Its deadline passes, if it has one, and then it has its turn.
  obtain ⟨m, hm, hdue⟩ : ∃ m ≥ n, ∀ deadline fault, t.task.phase = .draining deadline fault →
      deadline ≤ (run m).world.now := by
    cases hp : t.task.phase with
    | draining deadline fault =>
      obtain ⟨m, hm⟩ := h.time deadline
      refine ⟨max n m, Nat.le_max_left .., ?_⟩
      rintro _ _ ⟨⟩
      exact Nat.le_trans hm (h.now_mono (Nat.le_max_right ..))
    | running | leaving | ended => exact ⟨n, Nat.le_refl n, nofun⟩
  rcases h.kept ht winding hm with hfound | ⟨t₁, ht₁, hkept₁⟩
  · exact hless hfound
  obtain ⟨k, hk, hturn⟩ := h.turns m t₁ ht₁
  rw [hkept₁.mailbox] at hturn
  have hnk := Nat.le_trans hm hk
  rcases h.kept ht winding hnk with hfound | ⟨t₂, ht₂, hkept₂⟩
  · exact hless hfound
  obtain ⟨c', hc'⟩ := h.there hc hnk
  have hwinding := hkept₂.winding winding
  rw [← hkept₂.client] at hc'
  rcases (h.sound k).turn ht₂ hc' with hnone | ⟨t₃, ht₃, s, hstep, hkept₃⟩
  · rcases hwinding.waits (DispatchTask.step_eq_none_iff.mp hnone) with hover | ⟨deadline, fault, hp, hearly⟩
    · exact absurd (hkept₂.isEnded.symm.trans hover) hended
    · have hpassed := hdue deadline fault (hkept₂.phase ▸ hp)
      exact absurd (Nat.le_trans hpassed (h.now_mono hk)) (Nat.not_le_of_lt hearly)
  · obtain ⟨hmailbox, hclient, hwinding', hlt⟩ :=
      (h.sound k).toGo (h.contract k) ht₂ hwinding hstep hkept₃
    refine hless ⟨k + 1, Nat.le_succ_of_le hnk, t₃, ?_, hmailbox.trans hkept₂.mailbox,
      hclient.trans hkept₂.client, hwinding', hkept₂.toGo ▸ hlt⟩
    rw [hturn, ← hkept₂.mailbox]
    exact ht₃

/-- No call waits for ever. -/
theorem goes_on (h : Fair name run) (hc : (run n).world.clients[i]? = some c)
    (calling : (run n).calls i = some u) : ∃ k ≥ n, (run k).calls i ≠ some u := by
  cases hawaits : u.awaits with
  | none => exact h.calls n i u calling fun mailbox hsome => by rw [hawaits] at hsome; cases hsome
  | some mailbox =>
    -- If the call did not go on by itself, its task would end, and then it does.
    by_contra hstays
    simp only [not_exists, not_and, not_not] at hstays
    have hserves : c.serves ((run n).calls i) = some mailbox := by
      rw [calling]
      exact hawaits
    obtain ⟨t, ht, rfl, rfl⟩ := (h.reachable n).attended i c mailbox hc hserves
    have hended : ∃ k ≥ n, (run k).world.hasEnded t.mailbox = true := by
      cases hover : t.task.isEnded with
      | true => exact h.ends ht (.inr (by rw [DispatchTask.isEnded_iff.mp hover]; decide)) hc
      | false => exact h.ends ht ((h.sound n).roles.winding t ht hover (by rw [calling]; rfl)) hc
    obtain ⟨k, hk, hended⟩ := hended
    obtain ⟨m, hm, hgone⟩ := h.calls k t.client u (hstays k hk) fun other hother => by
      rw [hawaits] at hother
      cases hother
      exact hended
    exact hgone (hstays m (Nat.le_trans hk hm))

/-- Every call ends, and one to close ends in closed. -/
theorem call_ends (h : Fair name run) (hc : (run n).world.clients[i]? = some c)
    (calling : (run n).calls i = some u) :
    ∃ k ≥ n, (run k).calls i = none ∧ (u.closing = true → (run k).state? i = some .closed) := by
  induction hleft : u.left using Nat.strong_induction_on generalizing n u c with
  | _ _ ih =>
  subst hleft
  -- The moment at which the call goes on.
  obtain ⟨m, hm, hbefore, hafter⟩ :
      ∃ m ≥ n, (run m).calls i = some u ∧ (run (m + 1)).calls i ≠ some u := by
    obtain ⟨k, hk, hgone⟩ := h.goes_on hc calling
    by_contra hnever
    simp only [not_exists, not_and, not_not] at hnever
    exact hgone (Nat.le_induction calling (fun m hm hstays => hnever m hm hstays) k hk)
  obtain ⟨event, hs⟩ := h.next m
  rcases hs.calls hbefore with hsame | ⟨c', hc', hproceed⟩
  · exact absurd hsame hafter
  have hcalls : (run (m + 1)).calls i = ((run m).world.proceed i c' u).2 := by
    rw [hproceed, calls_proceed]
  cases hnext : ((run m).world.proceed i c' u).2 with
  | none =>
    refine ⟨m + 1, Nat.le_succ_of_le hm, hcalls.trans hnext, fun hclosing => ?_⟩
    rw [hproceed]
    exact closed_proceed hc' hclosing hnext
  | some v =>
    obtain ⟨hnearer, hclosing⟩ := ((run m).world.proceeded i c' u).nearer v hnext
    obtain ⟨c'', hc''⟩ := hs.there (h.sound m) hc'
    obtain ⟨k, hk, hnone, hclosed⟩ := ih _ hnearer hc'' (hcalls.trans hnext) rfl
    exact ⟨k, Nat.le_trans (Nat.le_succ_of_le hm) hk, hnone, fun hc => hclosed (hclosing hc)⟩

end Fair

end Engine

end UsbVideo
