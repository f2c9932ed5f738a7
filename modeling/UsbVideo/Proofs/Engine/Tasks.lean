import Mathlib.Data.List.Nodup
import UsbVideo.Engine.Controller
import UsbVideo.Proofs.Engine.Books

/-!
# The tasks of a world

What happens to a world happens to all its tasks: a completion arrives in one inbox, a step changes one
task and may bring completions to the others. Here is what each operation on a world does to its tasks
(`deliverAll_eq`, `afterSteps_eq`), and the invariant of the books, which is about all of them at once:

    a task that goes on    its account is in order (`Booked`)
    a task that has ended  nothing of it is pending

The order of jobs in `World.ready` plays no part: whatever it is, these equations say `∃ ready`.
-/

namespace UsbVideo

/-! ### Tasks by mailbox -/

namespace RunningTask

/-- Completions arrive in the inbox of a task that goes on. -/
def receive (posts : List Post) (t : RunningTask) : RunningTask :=
  if t.task.isEnded then t
  else
    { t with
      task := { t.task with inbox := t.task.inbox ++ Post.completionsFor t.mailbox posts } }

section Receive

variable (posts later : List Post) (t : RunningTask)

@[simp] theorem receive_dispatch : (t.receive posts).task.dispatch = t.task.dispatch := by
  unfold receive
  split <;> rfl

@[simp] theorem receive_mailbox : (t.receive posts).mailbox = t.mailbox :=
  congrArg Dispatch.mailbox (t.receive_dispatch posts)

@[simp] theorem receive_phase : (t.receive posts).task.phase = t.task.phase := by
  unfold receive
  split <;> rfl

@[simp] theorem receive_isEnded : (t.receive posts).task.isEnded = t.task.isEnded :=
  congrArg (· == DispatchPhase.ended) (t.receive_phase posts)

@[simp] theorem receive_client : (t.receive posts).client = t.client := by
  unfold receive
  split <;> rfl

@[simp] theorem receive_claim : (t.receive posts).claim = t.claim := by
  unfold receive
  split <;> rfl

@[simp] theorem receive_stopRequested :
    (t.receive posts).task.stopRequested = t.task.stopRequested := by
  unfold receive
  split <;> rfl

/-- Only completions of its own matter to a task. -/
theorem receive_congr {posts later : List Post} {t : RunningTask}
    (h : Post.completionsFor t.mailbox posts = Post.completionsFor t.mailbox later) :
    t.receive posts = t.receive later := by
  rw [receive, receive, h]

/-- Completions of others pass a task by. -/
theorem receive_none (h : Post.completionsFor t.mailbox posts = []) : t.receive posts = t := by
  unfold receive
  split
  · rfl
  · rw [h, List.append_nil]

theorem receive_append : (t.receive posts).receive later = t.receive (posts ++ later) := by
  by_cases hended : t.task.isEnded = true
  · simp [receive, hended]
  · have hsame : ({ t with task := { t.task with
        inbox := t.task.inbox ++ Post.completionsFor t.mailbox posts } } : RunningTask).mailbox =
          t.mailbox := rfl
    have hgoes : ¬ ({ t.task with
        inbox := t.task.inbox ++ Post.completionsFor t.mailbox posts }).isEnded = true := hended
    simp [receive, hended, hgoes, hsame]

end Receive

/-- The task of a mailbox is told to wind down. -/
def told (mailbox : Mailbox) (t : RunningTask) : RunningTask :=
  if t.mailbox = mailbox then { t with task := { t.task with stopRequested := true } } else t

/-- The same task later, before its next step: only its inbox changed, or it was told to wind down. -/
structure Kept (t t' : RunningTask) : Prop where
  dispatch : t'.task.dispatch = t.task.dispatch
  client : t'.client = t.client
  claim : t'.claim = t.claim
  phase : t'.task.phase = t.task.phase
  stop : t.task.stopRequested = true → t'.task.stopRequested = true

namespace Kept

variable {t t' t'' : RunningTask}

protected theorem refl (t : RunningTask) : Kept t t := ⟨rfl, rfl, rfl, rfl, id⟩

theorem trans (h : Kept t t') (h' : Kept t' t'') : Kept t t'' where
  dispatch := h'.dispatch.trans h.dispatch
  client := h'.client.trans h.client
  claim := h'.claim.trans h.claim
  phase := h'.phase.trans h.phase
  stop := fun hstop => h'.stop (h.stop hstop)

theorem mailbox (h : Kept t t') : t'.mailbox = t.mailbox := congrArg Dispatch.mailbox h.dispatch

theorem isEnded (h : Kept t t') : t'.task.isEnded = t.task.isEnded :=
  congrArg (· == DispatchPhase.ended) h.phase

theorem dueAt (h : Kept t t') : t'.task.dueAt = t.task.dueAt := by
  rw [DispatchTask.dueAt, h.phase, h.dispatch, DispatchTask.dueAt]

theorem winding (h : Kept t t') (hw : t.task.Winding) : t'.task.Winding := by
  rcases hw with hstop | hrank
  · exact .inl (h.stop hstop)
  · exact .inr (by rwa [h.phase])

end Kept

/-- A change of tasks that keeps every one. -/
def Keeps (f : RunningTask → RunningTask) : Prop := ∀ t, Kept t (f t)

theorem Keeps.id : Keeps id := Kept.refl

theorem keeps_receive (posts : List Post) : Keeps (·.receive posts) := fun t =>
  ⟨receive_dispatch posts t, receive_client posts t, receive_claim posts t, receive_phase posts t,
    fun hstop => (receive_stopRequested posts t).trans hstop⟩

theorem keeps_told (mailbox : Mailbox) : Keeps (·.told mailbox) := by
  intro t
  dsimp only [told]
  split
  · exact ⟨rfl, rfl, rfl, rfl, fun _ => rfl⟩
  · exact .refl t

theorem winding_told {t : RunningTask} {mailbox : Mailbox} (h : (t.told mailbox).mailbox = mailbox) :
    (t.told mailbox).task.Winding := by
  rw [(keeps_told mailbox t).mailbox] at h
  exact .inl (by simp [told, h])

end RunningTask

namespace World

variable {σ κ ν : Type} {w : World σ κ ν}

/-- No two tasks have the same mailbox. -/
def Distinct (tasks : List RunningTask) : Prop := (tasks.map RunningTask.mailbox).Nodup

theorem Distinct.eq {tasks : List RunningTask} (h : Distinct tasks) {t u : RunningTask}
    (ht : t ∈ tasks) (hu : u ∈ tasks) (same : t.mailbox = u.mailbox) : t = u :=
  List.inj_on_of_nodup_map h ht hu same

theorem mailboxes_map {f : RunningTask → RunningTask} (h : RunningTask.Keeps f)
    (tasks : List RunningTask) :
    (tasks.map f).map RunningTask.mailbox = tasks.map RunningTask.mailbox := by
  rw [List.map_map]
  exact List.map_congr_left fun t _ => (h t).mailbox

theorem Distinct.map {tasks : List RunningTask} (distinct : Distinct tasks)
    {f : RunningTask → RunningTask} (h : RunningTask.Keeps f) : Distinct (tasks.map f) := by
  rwa [Distinct, mailboxes_map h]

theorem Distinct.receive {tasks : List RunningTask} (h : Distinct tasks) (posts : List Post) :
    Distinct (tasks.map (·.receive posts)) := h.map (RunningTask.keeps_receive posts)

/-- The task found under a mailbox is one of it. -/
theorem mem_of_task? {mailbox : Mailbox} {t : RunningTask} (h : w.task? mailbox = some t) :
    t ∈ w.tasks ∧ t.mailbox = mailbox :=
  ⟨List.mem_of_find?_eq_some h, by simpa using List.find?_some h⟩

theorem task?_eq (distinct : Distinct w.tasks) {t : RunningTask} (ht : t ∈ w.tasks) :
    w.task? t.mailbox = some t := by
  cases hfind : w.task? t.mailbox with
  | none => exact absurd (beq_self_eq_true t.mailbox) (List.find?_eq_none.mp hfind t ht)
  | some u =>
    obtain ⟨hu, hmailbox⟩ := mem_of_task? hfind
    rw [distinct.eq hu ht hmailbox]

/-- When a mailbox has ended, so has every task of it. -/
theorem hasEnded_iff (distinct : Distinct w.tasks) {mailbox : Mailbox} :
    w.hasEnded mailbox = true ↔
      ∀ t ∈ w.tasks, t.mailbox = mailbox → t.task.isEnded = true := by
  unfold hasEnded
  cases hfind : w.task? mailbox with
  | none =>
    refine ⟨fun _ t ht hmailbox => ?_, fun _ => rfl⟩
    exact absurd (by simpa using hmailbox) (List.find?_eq_none.mp hfind t ht)
  | some u =>
    obtain ⟨hu, hmailbox⟩ := mem_of_task? hfind
    refine ⟨fun hended t ht hsame => ?_, fun hall => hall u hu hmailbox⟩
    rwa [distinct.eq ht hu (hsame.trans hmailbox.symm)]

/-- The tasks are one of them and those with other mailboxes. -/
theorem perm_others {tasks : List RunningTask} (distinct : Distinct tasks) {t : RunningTask}
    (ht : t ∈ tasks) : tasks.Perm (t :: tasks.filter (·.mailbox ≠ t.mailbox)) := by
  induction tasks with
  | nil => cases ht
  | cons u rest ih =>
    obtain ⟨hnew, hrest⟩ := List.nodup_cons.mp distinct
    rcases List.mem_cons.mp ht with rfl | hmem
    · have hall : rest.filter (·.mailbox ≠ t.mailbox) = rest := by
        rw [List.filter_eq_self]
        intro u hu
        exact decide_eq_true fun same => hnew (List.mem_map.mpr ⟨u, hu, same⟩)
      rw [List.filter_cons_of_neg (by simp), hall]
    · have hother : u.mailbox ≠ t.mailbox := fun same =>
        hnew (List.mem_map.mpr ⟨t, hmem, same.symm⟩)
      rw [List.filter_cons_of_pos (by simpa using hother)]
      exact ((ih hrest hmem).cons u).trans (.swap t u _)

/-- The tasks after one of them changed; that one is the last now. -/
def changed (tasks : List RunningTask) (t : RunningTask) (task : DispatchTask) : List RunningTask :=
  tasks.filter (·.mailbox ≠ t.mailbox) ++ [{ t with task }]

theorem mem_changed {tasks : List RunningTask} {t u : RunningTask} {task : DispatchTask} :
    u ∈ changed tasks t task ↔ u ∈ tasks ∧ u.mailbox ≠ t.mailbox ∨ u = { t with task } := by
  rw [changed, List.mem_append, List.mem_filter, decide_eq_true_iff, List.mem_singleton]

/-- The mailboxes stay the same. -/
theorem mailboxes_changed {tasks : List RunningTask} (distinct : Distinct tasks) {t : RunningTask}
    (ht : t ∈ tasks) {task : DispatchTask} (mailbox : task.dispatch.mailbox = t.mailbox) :
    ((changed tasks t task).map RunningTask.mailbox).Perm (tasks.map RunningTask.mailbox) := by
  have hself : ({ t with task } : RunningTask).mailbox = t.mailbox := mailbox
  rw [changed, List.map_append, List.map_singleton, hself]
  exact (List.perm_append_singleton t.mailbox _).trans
    ((perm_others distinct ht).map RunningTask.mailbox).symm

theorem Distinct.changed {tasks : List RunningTask} (h : Distinct tasks) {t : RunningTask}
    (ht : t ∈ tasks) {task : DispatchTask} (mailbox : task.dispatch.mailbox = t.mailbox) :
    Distinct (changed tasks t task) := (mailboxes_changed h ht mailbox).nodup_iff.mpr h

/-! ### What operations do to the tasks -/

theorem wake_eq (w : World σ κ ν) (job : Job) : ∃ ready, w.wake job = { w with ready } := by
  unfold wake
  split
  · exact ⟨w.ready, rfl⟩
  · exact ⟨_, rfl⟩

theorem deliver_eq (distinct : Distinct w.tasks) (post : Post) :
    ∃ ready, w.deliver post = { w with tasks := w.tasks.map (·.receive [post]), ready } := by
  unfold deliver
  split
  · next hended =>
    rw [hasEnded_iff distinct] at hended
    have hsame : w.tasks.map (·.receive [post]) = w.tasks.map id := by
      refine List.map_congr_left fun t ht => ?_
      by_cases hmailbox : t.mailbox = post.mailbox
      · simp [RunningTask.receive, hended t ht hmailbox]
      · exact t.receive_none _ (by simp [Post.completionsFor, Ne.symm hmailbox])
    rw [hsame, List.map_id]
    exact ⟨w.ready, rfl⟩
  · next hgoes =>
    simp only [hasEnded_iff distinct, not_forall] at hgoes
    obtain ⟨u, hu, hmailbox, hrunning⟩ := hgoes
    obtain ⟨ready, hwake⟩ :=
      (w.modifyTask post.mailbox fun t => { t with inbox := t.inbox ++ [post.completion] }).wake_eq
        (.task post.mailbox)
    refine ⟨ready, hwake.trans ?_⟩
    have hsame : ∀ t ∈ w.tasks,
        (if t.mailbox = post.mailbox then
          { t with task := { t.task with inbox := t.task.inbox ++ [post.completion] } } else t) =
            t.receive [post] := by
      intro t ht
      by_cases h : t.mailbox = post.mailbox
      · obtain rfl := distinct.eq ht hu (h.trans hmailbox.symm)
        simp [RunningTask.receive, hrunning, Post.completionsFor, h]
      · rw [if_neg h]
        exact (t.receive_none _ (by simp [Post.completionsFor, Ne.symm h])).symm
    simp only [modifyTask]
    rw [List.map_congr_left hsame]

/-- Completions arrive at all tasks that go on. -/
theorem deliverAll_eq (distinct : Distinct w.tasks) (posts : List Post) :
    ∃ ready, w.deliverAll posts = { w with tasks := w.tasks.map (·.receive posts), ready } := by
  induction posts generalizing w with
  | nil =>
    have hsame : w.tasks.map (·.receive []) = w.tasks.map id :=
      List.map_congr_left fun t _ => t.receive_none [] rfl
    refine ⟨w.ready, ?_⟩
    rw [hsame, List.map_id]
    rfl
  | cons post posts ih =>
    obtain ⟨first, hfirst⟩ := deliver_eq distinct post
    obtain ⟨ready, hrest⟩ :=
      ih (w := { w with tasks := w.tasks.map (·.receive [post]), ready := first })
        (distinct.receive [post])
    refine ⟨ready, ?_⟩
    show (w.deliver post).deliverAll posts = _
    rw [hfirst, hrest]
    simp [RunningTask.receive_append, Function.comp_def]

/-- The device does something, and completions arrive. -/
theorem act_eq {w : World (Ledger σ) κ ν} (distinct : Distinct w.tasks) (device : σ)
    (posts : List Post) :
    ∃ ready, (w.act fun l => ((), posts, l.act device posts)).2 =
      { w with
        device := w.device.act device posts
        tasks := w.tasks.map (·.receive posts)
        ready } :=
  deliverAll_eq (w := { w with device := w.device.act device posts }) distinct posts

/-- Steps of a task change its client and itself, and the others get what it posted. Its claim goes when
it ends. -/
theorem afterSteps_eq (distinct : Distinct w.tasks) {t : RunningTask} (ht : t ∈ w.tasks)
    {s : TaskStep σ κ ν} (mailbox : s.task.dispatch.mailbox = t.mailbox) :
    ∃ ready, w.afterSteps t s =
      { w with
        device := s.device
        clients := w.clients.set t.client s.client
        claims := if s.task.isEnded && !t.task.isEnded then w.claims.release t.claim else w.claims
        tasks := (changed w.tasks t s.task).map (·.receive s.posts)
        ready
        trace := w.trace ++ s.effects } := by
  exact deliverAll_eq
    (w := { w with
      device := s.device
      clients := w.clients.set t.client s.client
      claims := if s.task.isEnded && !t.task.isEnded then w.claims.release t.claim else w.claims
      tasks := changed w.tasks t s.task
      trace := w.trace ++ s.effects }) (distinct.changed ht mailbox) s.posts

theorem requestStop_eq (w : World σ κ ν) (mailbox : Mailbox) :
    ∃ ready, w.requestStop mailbox = { w with tasks := w.tasks.map (·.told mailbox), ready } :=
  wake_eq { w with tasks := w.tasks.map (·.told mailbox) } (.task mailbox)

theorem advanceTo_eq (w : World σ κ ν) (time : Nat) :
    ∃ ready, w.advanceTo time = { w with now := max w.now time, ready } := by
  have hwake : ∀ (mailboxes : List Mailbox) (w : World σ κ ν),
      ∃ ready, mailboxes.foldl (fun w mailbox => w.wake (.task mailbox)) w = { w with ready } := by
    intro mailboxes
    induction mailboxes with
    | nil => exact fun w => ⟨w.ready, rfl⟩
    | cons mailbox rest ih =>
      intro w
      obtain ⟨first, hfirst⟩ := w.wake_eq (.task mailbox)
      obtain ⟨ready, hrest⟩ := ih { w with ready := first }
      refine ⟨ready, ?_⟩
      rw [List.foldl_cons, hfirst, hrest]
  exact hwake _ _

end World

/-! ### The account of a task -/

/-- Either the account of a task is in order, or it has ended and nothing of it is pending. -/
def RunningTask.Accounted {σ : Type} (t : RunningTask) (l : Ledger σ) : Prop :=
  if t.task.isEnded then l.pending t.mailbox = [] else Booked t.task.dispatch t.task.inbox l

namespace RunningTask.Accounted

variable {σ : Type} {t : RunningTask} {l l' : Ledger σ}

/-- What is posted arrives, and accounts stay in order. -/
theorem receive {posts : List Post} (h : t.Accounted l)
    (accepted : l'.acceptedFor t.mailbox = l.acceptedFor t.mailbox)
    (posted : l'.posted = l.posted ++ posts) : (t.receive posts).Accounted l' := by
  unfold Accounted at h ⊢
  rw [receive_isEnded, receive_mailbox]
  split
  · next hended =>
    rw [if_pos hended] at h
    exact Ledger.pending_nil_of_posted h accepted posted
  · next hgoes =>
    rw [if_neg hgoes] at h
    simp only [RunningTask.receive, hgoes]
    exact h.arrive_other accepted posted

/-- Being told to wind down is nothing to the account. -/
theorem told (h : t.Accounted l) (mailbox : Mailbox) : (t.told mailbox).Accounted l := by
  unfold RunningTask.told
  split
  · exact h
  · exact h

end RunningTask.Accounted

/-- The books of all tasks: no two share a mailbox, every submission was made by one of them, and all
accounts are in order. New tasks get mailboxes from `next` on. -/
structure Accounts {σ : Type} (tasks : List RunningTask) (next : Mailbox) (l : Ledger σ) : Prop where
  distinct : World.Distinct tasks
  fresh : ∀ t ∈ tasks, t.mailbox < next
  known : ∀ entry ∈ l.accepted, ∃ t ∈ tasks, t.mailbox = entry.1
  accounted : ∀ t ∈ tasks, t.Accounted l

namespace Accounts

variable {σ : Type} {tasks : List RunningTask} {next : Mailbox} {l l' : Ledger σ}

/-- Tasks stay who they are, and nothing is accepted meanwhile. -/
theorem map (h : Accounts tasks next l) {f : RunningTask → RunningTask} (hf : RunningTask.Keeps f)
    (accepted : l'.accepted = l.accepted) (accounted : ∀ t ∈ tasks, (f t).Accounted l') :
    Accounts (tasks.map f) next l' where
  distinct := h.distinct.map hf
  fresh := by
    intro t ht
    obtain ⟨u, hu, rfl⟩ := List.mem_map.mp ht
    rw [(hf u).mailbox]
    exact h.fresh u hu
  known := by
    intro entry hentry
    obtain ⟨t, ht, hmailbox⟩ := h.known entry (accepted ▸ hentry)
    exact ⟨f t, List.mem_map_of_mem ht, (hf t).mailbox.trans hmailbox⟩
  accounted := by
    intro t ht
    obtain ⟨u, hu, rfl⟩ := List.mem_map.mp ht
    exact accounted u hu

/-- The bus stack posts completions, and accepts nothing meanwhile. -/
theorem arrive {posts : List Post} (h : Accounts tasks next l) (accepted : l'.accepted = l.accepted)
    (posted : l'.posted = l.posted ++ posts) : Accounts (tasks.map (·.receive posts)) next l' :=
  h.map (RunningTask.keeps_receive posts) accepted fun t ht =>
    (h.accounted t ht).receive (by rw [Ledger.acceptedFor, accepted]; rfl) posted

/-- A task is told to wind down. -/
theorem told (h : Accounts tasks next l) (mailbox : Mailbox) :
    Accounts (tasks.map (·.told mailbox)) next l :=
  h.map (RunningTask.keeps_told mailbox) rfl fun t ht => (h.accounted t ht).told mailbox

/-- The bus stack answers requests that concern no transfer. -/
theorem quiet (h : Accounts tasks next l) (accepted : l'.accepted = l.accepted)
    (posted : l'.posted = l.posted) : Accounts tasks next l' := by
  have hnothing : l'.posted = l.posted ++ [] := by rw [posted, List.append_nil]
  have harrived := h.arrive accepted hnothing
  have hsame : tasks.map (·.receive []) = tasks.map id :=
    List.map_congr_left fun t _ => t.receive_none [] rfl
  rwa [hsame, List.map_id] at harrived

/-- Nothing was accepted for a mailbox that no task has, and nothing was posted to it. -/
theorem booked_fresh (h : Accounts tasks next l) (honest : l.Honest next) (plan : TransferPlan) :
    Booked { plan, mailbox := next } [] l := by
  have haccepted : l.acceptedFor next = [] := by
    rw [Ledger.acceptedFor, List.map_eq_nil_iff, List.filter_eq_nil_iff]
    intro entry hentry hmailbox
    obtain ⟨t, ht, hsame⟩ := h.known entry hentry
    have hlt := h.fresh t ht
    rw [hsame, beq_iff_eq.mp hmailbox] at hlt
    exact Nat.lt_irrefl _ hlt
  have hposted : l.postedTo next = [] := by
    rw [Ledger.Honest, haccepted, List.subperm_nil, List.map_eq_nil_iff] at honest
    exact honest
  exact ⟨Nat.le_refl 1, haccepted, [], by rw [hposted]; rfl, List.Perm.refl _⟩

variable [Transport σ]

/-- A pool is submitted in a fresh mailbox, and a task takes it over. -/
theorem add (h : Accounts tasks next l) (honest : l.Honest next) (plan : TransferPlan)
    (pool : List Transfer) {t : RunningTask} (goes : ¬ t.task.isEnded = true)
    (inbox : t.task.inbox = [])
    (dispatch : t.task.dispatch = (({ plan, mailbox := next } : Dispatch).submitPool l pool).2.1) :
    Accounts (tasks ++ [t]) (next + 1)
      (({ plan, mailbox := next } : Dispatch).submitPool l pool).2.2 := by
  obtain ⟨n, hsubmitted, -, -⟩ := ({ plan, mailbox := next } : Dispatch).submitPool_submitted l pool
  have hgrew := ({ plan, mailbox := next } : Dispatch).submitPool_grew l pool
  have hmailbox : t.mailbox = next := by
    rw [RunningTask.mailbox, dispatch]
    exact hsubmitted.mailbox
  have hother : ∀ u ∈ tasks, u.mailbox ≠ next := fun u hu => Nat.ne_of_lt (h.fresh u hu)
  refine ⟨?_, ?_, ?_, ?_⟩
  · rw [World.Distinct, List.map_append, List.map_singleton, hmailbox]
    refine (List.perm_append_singleton _ _).nodup_iff.mpr (List.nodup_cons.mpr ⟨?_, h.distinct⟩)
    intro hmem
    obtain ⟨u, hu, hsame⟩ := List.mem_map.mp hmem
    exact hother u hu hsame
  · intro u hu
    rcases List.mem_append.mp hu with hold | hnew
    · exact Nat.lt_succ_of_lt (h.fresh u hold)
    · rw [List.mem_singleton.mp hnew, hmailbox]
      exact Nat.lt_succ_self next
  · intro entry hentry
    rcases hgrew.mem_accepted hentry with hold | hnew
    · obtain ⟨u, hu, hsame⟩ := h.known entry hold
      exact ⟨u, List.mem_append_left _ hu, hsame⟩
    · exact ⟨t, List.mem_append_right _ (List.mem_singleton_self t), hmailbox.trans hnew.symm⟩
  · intro u hu
    rcases List.mem_append.mp hu with hold | hnew
    · have hkept := (h.accounted u hold).receive (hgrew.acceptedFor_other (hother u hold))
        hgrew.posted
      rwa [u.receive_none [] rfl] at hkept
    · rw [List.mem_singleton.mp hnew, RunningTask.Accounted, if_neg goes, dispatch, inbox]
      exact (h.booked_fresh honest plan).submit hsubmitted

/-- A task makes a step, and the others get what it posted. On a prompt bus stack no task ends with a
transfer pending. -/
theorem step {κ ν : Type} [StreamClient κ ν] (h : Accounts tasks next l) {t : RunningTask}
    (ht : t ∈ tasks) {now : Nat} {client : κ} {s : TaskStep (Ledger σ) κ ν}
    (hs : t.task.step now client l = some s) (honest : l.Honest t.mailbox)
    (prompt : ∀ deadline fault, t.task.phase = .draining deadline fault → deadline ≤ now →
      l.pending t.mailbox = []) :
    Accounts ((World.changed tasks t s.task).map (·.receive s.posts)) next s.device := by
  have hgoes : ¬ t.task.isEnded = true := by simp [DispatchTask.goes_of_step hs]
  have hbooked := h.accounted t ht
  rw [RunningTask.Accounted, if_neg hgoes] at hbooked
  obtain ⟨hmailbox, -, ⟨posts, hgrew, hothers⟩, hafter, hended⟩ := DispatchTask.step_books hs
  replace hafter := hafter hbooked honest
  have hdistinct := h.distinct.changed ht hmailbox
  have hself : ({ t with task := s.task } : RunningTask).mailbox = t.mailbox := hmailbox
  refine ⟨hdistinct.receive s.posts, ?_, ?_, ?_⟩
  · intro u hu
    obtain ⟨v, hv, rfl⟩ := List.mem_map.mp hu
    rw [RunningTask.receive_mailbox]
    rcases World.mem_changed.mp hv with ⟨hold, -⟩ | rfl
    · exact h.fresh v hold
    · rw [hself]
      exact h.fresh t ht
  · intro entry hentry
    have hmake : ∀ v ∈ World.changed tasks t s.task, v.mailbox = entry.1 →
        ∃ u ∈ (World.changed tasks t s.task).map (·.receive s.posts), u.mailbox = entry.1 :=
      fun v hv hsame =>
        ⟨_, List.mem_map_of_mem hv, (v.receive_mailbox s.posts).trans hsame⟩
    have hnew : ({ t with task := s.task } : RunningTask) ∈ World.changed tasks t s.task :=
      World.mem_changed.mpr (.inr rfl)
    by_cases hmine : entry.1 = t.mailbox
    · exact hmake _ hnew (hself.trans hmine.symm)
    · obtain ⟨u, hu, hsame⟩ := h.known entry ((hgrew.mem_accepted hentry).resolve_right hmine)
      exact hmake u (World.mem_changed.mpr (.inl ⟨hu, by rwa [hsame]⟩)) hsame
  · intro u hu
    obtain ⟨v, hv, rfl⟩ := List.mem_map.mp hu
    rcases World.mem_changed.mp hv with ⟨hold, hother⟩ | rfl
    · -- The others have their own posts among those of the step.
      have hsame : v.receive s.posts = v.receive posts :=
        RunningTask.receive_congr (Post.completionsFor_others hother hothers)
      rw [hsame]
      exact (h.accounted v hold).receive (hgrew.acceptedFor_other hother) hgrew.posted
    · -- The posts to the task itself are in its inbox already.
      rw [RunningTask.receive_none _ _ (by rw [hself]; exact Post.completionsFor_own hothers)]
      unfold RunningTask.Accounted
      split
      · next hend =>
        rcases hended hend with hidle | ⟨deadline, fault, hphase, hdue, hsame⟩
        · exact hafter.pending_of_idle hidle
        · rw [hself, hsame]
          exact prompt deadline fault hphase hdue
      · exact hafter

end Accounts

end UsbVideo
