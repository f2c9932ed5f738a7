import UsbVideo.Proofs.Engine.Background
import UsbVideo.Proofs.Engine.Schedulers

/-!
# Meanwhile

While a caller waits, anything may happen to a device and its schedulers, in any order and any number
of times (`Meanwhile`). What a world does by itself is a part of it.

What every step preserves holds afterwards. Here are the invariants that need no more than that, and
what a step makes of one task that is there (`Becomes`):

    kept       what arrived for it was posted meanwhile
    stepped    the step was its own
-/

namespace UsbVideo

namespace World

variable {σ κ ν : Type} [Transport σ] [StreamClient κ ν] {w w' : World (Ledger σ) κ ν}

/-- Things happen to a device and its schedulers, and no sink panics. -/
def Meanwhile : World (Ledger σ) κ ν → World (Ledger σ) κ ν → Prop :=
  Relation.ReflTransGen (SchedulerStep · .none ·)

theorem BackgroundStep.calm (h : BackgroundStep w w') : SchedulerStep w .none w' := by
  cases h with
  | task ht there hstep => exact .task ht there hstep
  | client index =>
    unfold runClient
    split
    · exact .schedule w.ready w.memory
    · exact .sinks _ _ (Nat.le_of_eq List.length_set.symm)
  | pass time => exact .pass time
  | schedule ready => exact .schedule ready w.memory

theorem Background.meanwhile (h : Background w w') : Meanwhile w w' := by
  induction h with
  | refl => exact .refl
  | tail _ hstep ih => exact .tail ih hstep.calm

theorem Shape.now_le (h : Shape w .none w') (distinct : Distinct w.tasks) : w.now ≤ w'.now := by
  cases h with
  | kept f keeps tasks claims now => exact now
  | begun there begun => exact Nat.le_of_eq begun.now.symm
  | stepped ht hstep =>
    obtain ⟨ready, heq⟩ := afterSteps_eq distinct ht (DispatchTask.step_books hstep).mailbox
    rw [heq]

namespace Meanwhile

theorem served (h : Meanwhile w w') (served : w.Served) : w'.Served := by
  induction h with
  | refl => exact served
  | tail _ hs ih => exact (hs.shape ih.distinct).served ih

theorem records (h : Meanwhile w w') (served : w.Served) {rest : List ClaimKey}
    (records : w.claims.Records (liveClaims w.tasks ++ rest)) :
    w'.claims.Records (liveClaims w'.tasks ++ rest) := by
  induction h with
  | refl => exact records
  | tail h hs ih =>
    have hdistinct := (Meanwhile.served h served).distinct
    exact (hs.shape hdistinct).records hdistinct ih

end Meanwhile

/-! ### A claim -/

/-- Of the tasks that go on, only those from this mailbox on have this claim. -/
structure Vacant (key : ClaimKey) (first : Mailbox) (w : World (Ledger σ) κ ν) : Prop where
  next : first ≤ w.nextMailbox
  later : ∀ t ∈ w.tasks, t.task.isEnded = false → t.claim = key → first ≤ t.mailbox

theorem Vacant.shape {key : ClaimKey} {first : Mailbox} (h : Vacant key first w)
    (shape : Shape w .none w') (distinct : Distinct w.tasks) : Vacant key first w' := by
  cases shape with
  | kept f keeps tasks _ _ _ next =>
    refine ⟨by rw [next]; exact h.next, fun t' ht' hgoes hclaim => ?_⟩
    rw [tasks] at ht'
    obtain ⟨t, ht, rfl⟩ := List.mem_map.mp ht'
    rw [(keeps t).isEnded] at hgoes
    rw [(keeps t).claim] at hclaim
    rw [(keeps t).mailbox]
    exact h.later t ht hgoes hclaim
  | @begun _ client plan u there begun =>
    refine ⟨by rw [begun.next]; exact Nat.le_succ_of_le h.next, fun t ht hgoes hclaim => ?_⟩
    rw [begun.tasks, List.mem_append, List.mem_singleton] at ht
    rcases ht with hold | rfl
    · exact h.later t hold hgoes hclaim
    · rw [begun.mailbox]
      exact h.next
  | @stepped u client s hu hstep =>
    have hbooks := DispatchTask.step_books hstep
    obtain ⟨ready, heq⟩ := afterSteps_eq distinct hu hbooks.mailbox
    rw [heq]
    refine ⟨h.next, fun t' ht' hgoes hclaim => ?_⟩
    obtain ⟨t, ht, rfl⟩ := List.mem_map.mp ht'
    have hkept := RunningTask.keeps_receive s.posts t
    rw [hkept.isEnded] at hgoes
    rw [hkept.claim] at hclaim
    rw [hkept.mailbox]
    rcases mem_changed.mp ht with ⟨hold, -⟩ | rfl
    · exact h.later t hold hgoes hclaim
    · rw [RunningTask.mailbox, hbooks.mailbox]
      exact h.later u hu (DispatchTask.goes_of_step hstep) hclaim

theorem Vacant.meanwhile {key : ClaimKey} {first : Mailbox} (h : Vacant key first w)
    (elapsed : Meanwhile w w') (served : w.Served) : Vacant key first w' := by
  induction elapsed with
  | refl => exact h
  | tail helapsed hs ih =>
    have hdistinct := (Meanwhile.served helapsed served).distinct
    exact ih.shape (hs.shape hdistinct) hdistinct

/-! ### One task among the others -/

/-- What a step of the world makes of a task: it is kept, and whatever arrived for it was posted, or it
made the step itself. -/
inductive Becomes (w w' : World (Ledger σ) κ ν) (t : RunningTask) : RunningTask → Prop where
  | kept {t' : RunningTask} (posts : List Post) (kept : t.Kept t')
      (inbox : ∀ c ∈ t'.task.inbox, c ∈ t.task.inbox ∨ c ∈ Post.completionsFor t.mailbox posts)
      (posted : w'.device.posted = w.device.posted ++ posts) : Becomes w w' t t'
  | stepped {client : κ} {s : TaskStep (Ledger σ) κ ν}
      (step : t.task.step w.now client w.device = some s) (after : w' = w.afterSteps t s) :
      Becomes w w' t { t with task := s.task }

/-- Nothing arrives. -/
theorem Becomes.same {t t' : RunningTask} (kept : t.Kept t') (inbox : t'.task.inbox = t.task.inbox)
    (posted : w'.device.posted = w.device.posted) : Becomes w w' t t' := by
  refine .kept [] kept (fun c hc => .inl ?_) (by rw [posted, List.append_nil])
  rwa [inbox] at hc

/-- What is posted arrives. -/
theorem Becomes.receive {t : RunningTask} {others posts : List Post}
    (arrives : Post.completionsFor t.mailbox others = Post.completionsFor t.mailbox posts)
    (posted : w'.device.posted = w.device.posted ++ posts) : Becomes w w' t (t.receive others) := by
  refine .kept posts (RunningTask.keeps_receive others t) (fun c hc => ?_) posted
  unfold RunningTask.receive at hc
  split at hc
  · exact .inl hc
  · rw [← arrives]
    exact List.mem_append.mp hc

theorem SchedulerStep.becomes (hs : SchedulerStep w .none w') (served : w.Served) {t : RunningTask}
    (ht : t ∈ w.tasks) : ∃ t' ∈ w'.tasks, Becomes w w' t t' := by
  -- To stop a task and to drop it both tell it to stop.
  have htold : ∀ (mailbox : Mailbox) (ready : List Job),
      ∃ t' ∈ w.tasks.map (RunningTask.told mailbox),
        Becomes w { w with tasks := w.tasks.map (RunningTask.told mailbox), ready } t t' := by
    intro mailbox ready
    refine ⟨_, List.mem_map_of_mem ht, .same (RunningTask.keeps_told mailbox t) ?_ rfl⟩
    unfold RunningTask.told
    split <;> rfl
  cases hs with
  | start client plan there =>
    rcases w.tryStart_begun client plan with hsame | ⟨u, begun⟩
    · rw [hsame]
      exact ⟨t, ht, .same (.refl t) rfl rfl⟩
    · obtain ⟨pool, hpool⟩ := begun.pool
      obtain ⟨n, hsubmitted, -, -⟩ :=
        ({ plan, mailbox := w.nextMailbox } : Dispatch).submitPool_submitted w.device pool
      refine ⟨t, ?_, .same (.refl t) rfl ?_⟩
      · rw [begun.tasks]
        exact List.mem_append_left _ ht
      · rw [← hsubmitted.posted, hpool]
  | stop mailbox =>
    rcases w.askStop_eq mailbox with hsame | ⟨ready, heq⟩
    · rw [hsame]
      exact ⟨t, ht, .same (.refl t) rfl rfl⟩
    · rw [heq]
      exact htold mailbox ready
  | drop mailbox =>
    obtain ⟨ready, heq⟩ := w.requestStop_eq mailbox
    rw [heq]
    exact htold mailbox ready
  | @task u client s hu there hstep =>
    have hbooks := DispatchTask.step_books hstep
    obtain ⟨posts, hgrew, hothers⟩ := hbooks.grew
    obtain ⟨ready, heq⟩ := afterSteps_eq served.distinct hu hbooks.mailbox
    -- The step is its own, or posts arrive from that of another.
    by_cases hown : t.mailbox = u.mailbox
    · obtain rfl := served.distinct.eq ht hu hown
      exact ⟨_, mem_afterSteps served.distinct ht hbooks.mailbox (Post.completionsFor_own hothers),
        .stepped hstep rfl⟩
    · refine ⟨t.receive s.posts, ?_, .receive (Post.completionsFor_others hown hothers) ?_⟩
      · rw [heq]
        exact List.mem_map_of_mem (mem_changed.mpr (.inl ⟨ht, hown⟩))
      · rw [heq]
        exact hgrew.posted
  | sinks clients trace more => exact ⟨t, ht, .same (.refl t) rfl rfl⟩
  | device device posts =>
    obtain ⟨ready, heq⟩ := act_eq served.distinct device posts
    rw [heq]
    exact ⟨_, List.mem_map_of_mem ht, .receive rfl rfl⟩
  | pass time =>
    obtain ⟨ready, heq⟩ := w.advanceTo_eq time
    rw [heq]
    exact ⟨t, ht, .same (.refl t) rfl rfl⟩
  | schedule ready => exact ⟨t, ht, .same (.refl t) rfl rfl⟩

end World

end UsbVideo
