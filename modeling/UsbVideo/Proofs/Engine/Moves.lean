import UsbVideo.Proofs.Dispatch.InFlight

/-!
# The steps of a task

`DispatchTask.step` decides what a task does next. Here are the moves it can make, each with what has to
hold before (`Move`), and what follows for all of them at once:

    running   stop │ receive │ retry        leaving   leave        draining   reclaim │ finish

A task that makes no move can only wait (`Waits`): for a completion, for the time to try again, or while
it drains for its deadline. A run makes moves until then (`run_ran`).
-/

namespace UsbVideo

namespace Post

/-- The posts of one mailbox are not among those of others. -/
theorem completionsFor_own {mailbox : Mailbox} {posts others : List Post}
    (h : others = posts.filter fun post => !(post.mailbox == mailbox)) :
    completionsFor mailbox others = [] := by
  subst h
  simp [completionsFor, List.filter_filter]

/-- Without those of one mailbox, the posts of another are the same. -/
theorem completionsFor_others {mailbox other : Mailbox} {posts others : List Post}
    (hne : other ≠ mailbox) (h : others = posts.filter fun post => !(post.mailbox == mailbox)) :
    completionsFor other others = completionsFor other posts := by
  subst h
  rw [completionsFor, List.filter_filter, completionsFor]
  congr 2
  funext post
  by_cases hpost : post.mailbox = other
  · simp [hpost, hne]
  · simp [hpost]

end Post

namespace DispatchTask

variable {σ κ ν : Type} [Transport σ] [StreamClient κ ν]

/-- What a task does next, and when. -/
inductive Move (t : DispatchTask) (now : Nat) (client : κ) (device : σ) : TaskStep σ κ ν → Prop where
  | stop (since : Nat) (phase : t.phase = .running since) (told : t.stopRequested = true) :
      Move t now client device { task := { t with phase := .leaving none }, client, device }
  | receive (since : Nat) (c : Completion) (inbox : List Completion)
      (phase : t.phase = .running since) (told : t.stopRequested = false)
      (arrived : t.inbox = c :: inbox) :
      Move t now client device
        ({ t with inbox }.follow now client true (t.dispatch.receive c device))
  | retry (since : Nat) (phase : t.phase = .running since) (told : t.stopRequested = false) :
      Move t now client device (t.follow now client false (t.dispatch.refill device))
  | leave (fault : Option StreamFault) (phase : t.phase = .leaving fault) :
      Move t now client device
        { task :=
            { t with
              inbox := t.inbox ++ Post.completionsFor t.dispatch.mailbox (t.dispatch.cancelAll device).1
              phase := .draining (now + t.dispatch.plan.cancelTimeout) fault }
          client
          device := (t.dispatch.cancelAll device).2
          posts := (t.dispatch.cancelAll device).1.filter fun post =>
            !(post.mailbox == t.dispatch.mailbox) }
  | reclaim (deadline : Nat) (fault : Option StreamFault) (c : Completion) (inbox : List Completion)
      (phase : t.phase = .draining deadline fault) (arrived : t.inbox = c :: inbox) :
      Move t now client device
        { task := { t with inbox, dispatch := t.dispatch.reclaim c }, client, device }
  | finish (deadline : Nat) (fault : Option StreamFault) (before : List (Effect ν))
      (phase : t.phase = .draining deadline fault)
      (nothing : t.dispatch.inFlight.isEmpty = true ∨ deadline ≤ now) :
      Move t now client device (t.conclude fault before client device)

/-- A task can only wait. -/
def Waits (t : DispatchTask) (now : Nat) : Prop :=
  match t.phase with
  | .running since =>
    t.stopRequested = false ∧ t.inbox = [] ∧ (t.dispatch.idle.isEmpty ∨ now < since + retryPause)
  | .leaving _ => False
  | .draining deadline _ => t.dispatch.inFlight.isEmpty = false ∧ t.inbox = [] ∧ now < deadline
  | .ended => True

/-- A task that is bound to end: it was told to, or is on its way. -/
def Winding (t : DispatchTask) : Prop := t.stopRequested = true ∨ t.phase.rank ≤ 2

/-- Cancelled transfers are not waited for any longer. -/
def DueBy (t : DispatchTask) (limit : Nat) : Prop :=
  ∀ deadline fault, t.phase = .draining deadline fault → deadline ≤ limit

variable {t : DispatchTask} {now : Nat} {client : κ} {device : σ} {s : TaskStep σ κ ν}

theorem step_move (h : t.step now client device = some s) : Move t now client device s := by
  unfold step at h
  cases hp : t.phase with
  | ended => simp [hp] at h
  | running since =>
    simp only [hp] at h
    split at h
    · next hstop =>
      cases h
      exact .stop since hp hstop
    · next hstop =>
      split at h
      next c inbox hinbox =>
        cases h
        rw [← hp]
        exact .receive since c inbox hp (by simpa using hstop) hinbox
      next =>
        split at h
        · cases h
        · cases h
          exact .retry since hp (by simpa using hstop)
  | leaving fault =>
    simp only [hp, List.partition_eq_filter_filter] at h
    cases h
    exact .leave fault hp
  | draining deadline fault =>
    simp only [hp] at h
    split at h
    · next hidle =>
      cases h
      exact .finish deadline fault [] hp (.inl hidle)
    · split at h
      next c inbox hinbox =>
        cases h
        rw [← hp]
        exact .reclaim deadline fault c inbox hp hinbox
      next =>
        split at h
        · cases h
        · next hdue =>
          cases h
          exact .finish deadline fault _ hp (.inr (Nat.le_of_not_lt hdue))

theorem step_eq_none_iff : t.step now client device = none ↔ t.Waits now := by
  unfold step Waits
  cases hp : t.phase with
  | ended => simp
  | leaving fault => simp
  | running since =>
    cases hstop : t.stopRequested with
    | true => simp
    | false =>
      cases hinbox : t.inbox with
      | nil => simp [or_iff_not_imp_left]
      | cons c inbox => simp
  | draining deadline fault =>
    cases hidle : t.dispatch.inFlight.isEmpty with
    | true => simp
    | false =>
      cases hinbox : t.inbox with
      | nil => simp
      | cons c inbox => simp

/-! ### What all moves have in common -/

theorem isEnded_iff {t : DispatchTask} : t.isEnded = true ↔ t.phase = .ended := beq_iff_eq

omit [Transport σ] [StreamClient κ ν] in
theorem goes_of_rank {t : DispatchTask} (h : 2 ≤ t.phase.rank) : t.isEnded = false := by
  cases hended : t.isEnded with
  | false => rfl
  | true =>
    rw [isEnded_iff.mp hended] at h
    exact absurd h (Nat.not_succ_le_zero 1)

/-- A task that makes a step has not ended. -/
theorem goes_of_step (h : t.step now client device = some s) : t.isEnded = false := by
  cases hended : t.isEnded with
  | false => rfl
  | true => simp [step, isEnded_iff.mp hended] at h

section Shapes

variable (t : DispatchTask) (now : Nat) (client : κ) (device : σ) (mayClose : Bool)
  (d : DispatchStep σ) (fault : Option StreamFault) (before : List (Effect ν))

omit [Transport σ] in
@[simp] theorem conclude_task :
    (t.conclude fault before client device).task = { t with phase := .ended } := by
  cases fault <;> rfl

omit [Transport σ] in
@[simp] theorem conclude_device : (t.conclude fault before client device).device = device := by
  cases fault <;> rfl

omit [Transport σ] in
@[simp] theorem conclude_posts : (t.conclude fault before client device).posts = [] := by
  cases fault <;> rfl

omit [Transport σ] in
/-- After a step of its dispatch a task neither drains nor has ended. -/
theorem follow_rank : 2 ≤ (t.follow (ν := ν) now client mayClose d).task.phase.rank := by
  rcases (follow_phase (ν := ν) t now client mayClose d).2 with hrunning | hrank
  · rw [hrunning]
    exact Nat.le_succ 2
  · exact Nat.le_of_eq hrank.symm

end Shapes

/-- The phase never goes back. -/
theorem step_rank (h : t.step now client device = some s) : s.task.phase.rank ≤ t.phase.rank := by
  rcases step_nearer h with hless | ⟨hsame, -⟩
  · exact Nat.le_of_lt hless
  · exact Nat.le_of_eq hsame

/-- What is bound to end stays so: nobody takes a request to stop back. -/
theorem step_winding (h : t.step now client device = some s) (hw : t.Winding) : s.task.Winding := by
  refine hw.imp (fun hstop => ?_) fun hrank => Nat.le_trans (step_rank h) hrank
  cases step_move h with
  | finish deadline fault before => simpa using hstop
  | stop | receive | retry | leave | reclaim => exact hstop

/-- Only a task that leaves posts to others. -/
theorem step_cancels (h : t.step now client device = some s) (hposts : s.posts ≠ []) :
    2 ≤ t.phase.rank ∧ s.task.phase.rank ≤ 1 := by
  cases step_move h with
  | leave fault phase =>
    rw [phase]
    exact ⟨Nat.le_refl 2, Nat.le_refl 1⟩
  | finish deadline fault before => simp at hposts
  | stop | receive | retry | reclaim => exact absurd rfl hposts

omit [Transport σ] [StreamClient κ ν] in
theorem drains_of_rank {t : DispatchTask} (h : t.phase.rank ≤ 1) :
    t.isEnded = true ∨ ∃ deadline fault, t.phase = .draining deadline fault := by
  cases hp : t.phase with
  | ended => exact .inl (isEnded_iff.mpr hp)
  | draining deadline fault => exact .inr ⟨deadline, fault, rfl⟩
  | running | leaving =>
    rw [hp] at h
    simp [DispatchPhase.rank] at h

omit [Transport σ] [StreamClient κ ν] in
/-- Only a task that drains has a deadline. -/
theorem dueBy_of_rank {t : DispatchTask} (h : t.phase.rank ≠ 1) (limit : Nat) : t.DueBy limit := by
  intro deadline fault hp
  rw [hp] at h
  exact absurd rfl h

/-- A deadline is set once, when the task leaves. -/
theorem step_dueBy (h : t.step now client device = some s) {limit : Nat}
    (early : t.phase.rank ≤ 1 ∨ now + t.dispatch.plan.cancelTimeout ≤ limit) (due : t.DueBy limit) :
    s.task.DueBy limit := by
  cases step_move h with
  | stop since phase =>
    apply dueBy_of_rank
    exact Nat.succ_ne_self 1
  | receive since c inbox phase =>
    apply dueBy_of_rank
    exact Nat.ne_of_gt (follow_rank ..)
  | retry since phase =>
    apply dueBy_of_rank
    exact Nat.ne_of_gt (follow_rank ..)
  | leave fault phase =>
    rintro _ _ ⟨⟩
    refine early.resolve_left ?_
    rw [phase]
    exact Nat.not_succ_le_self 1
  | reclaim deadline fault c inbox phase => exact due
  | finish deadline fault before phase =>
    apply dueBy_of_rank
    rw [conclude_task]
    exact Nat.zero_ne_one

/-! ### Waiting -/

section Waits

variable {t : DispatchTask}

/-- Who can only wait is not due. -/
theorem Waits.lt_due (h : t.Waits now) {time : Nat} (due : t.dueAt = some time) : now < time := by
  unfold Waits at h
  unfold dueAt at due
  cases hp : t.phase with
  | running since =>
    simp only [hp] at h due
    split at due
    · cases due
    · next hbusy =>
      cases due
      exact h.2.2.resolve_left hbusy
  | draining deadline fault =>
    simp only [hp] at h due
    cases due
    exact h.2.2
  | leaving | ended =>
    rw [hp] at due
    cases due

/-- A task that runs and is bound to end was told so. -/
theorem Winding.told (h : t.Winding) {since : Nat} (hp : t.phase = .running since) :
    t.stopRequested = true := by
  refine h.resolve_right fun hrank => ?_
  rw [hp] at hrank
  exact absurd hrank (Nat.not_succ_le_self 2)

/-- A task that is bound to end waits for nothing but its deadline. -/
theorem Winding.waits (h : t.Winding) (hw : t.Waits now) :
    t.isEnded = true ∨ ∃ deadline fault, t.phase = .draining deadline fault ∧ now < deadline := by
  unfold Waits at hw
  cases hp : t.phase with
  | ended => exact .inl (isEnded_iff.mpr hp)
  | running since =>
    simp only [hp, h.told hp] at hw
    cases hw.1
  | leaving fault =>
    rw [hp] at hw
    exact hw.elim
  | draining deadline fault =>
    simp only [hp] at hw
    exact .inr ⟨deadline, fault, rfl, hw.2.2⟩

theorem Winding.rank_le (h : t.Winding) (hw : t.Waits now) : t.phase.rank ≤ 1 := by
  rcases h.waits hw with hended | ⟨deadline, fault, hp, -⟩
  · rw [isEnded_iff.mp hended]
    exact Nat.zero_le 1
  · rw [hp]
    exact Nat.le_refl 1

end Waits

theorem run_eq_self (h : t.step now client device = none) :
    t.run now client device = { task := t, client, device } := by
  rw [run]
  split
  · rfl
  · next s hstep =>
    rw [h] at hstep
    cases hstep

/-- A run is a step and the run after it. -/
theorem run_of_step (h : t.step now client device = some s) :
    let last := s.task.run now s.client s.device
    t.run now client device =
      { last with posts := s.posts ++ last.posts, effects := s.effects ++ last.effects } := by
  intro last
  rw [run]
  split
  · next hnone =>
    rw [h] at hnone
    cases hnone
  · next s' hstep =>
    rw [h] at hstep
    cases hstep
    rfl

/-- A task runs until it can only wait. -/
theorem waits_run (t : DispatchTask) (now : Nat) (client : κ) (device : σ) :
    (t.run now client device).task.Waits now := by
  fun_induction run t now client device with
  | case1 t client device hnone => exact step_eq_none_iff.mp hnone
  | case2 t client device s hstep last =>
    rename_i ih
    exact ih

end DispatchTask

end UsbVideo
