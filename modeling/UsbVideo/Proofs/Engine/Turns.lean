import Mathlib.Data.Bool.Basic
import Mathlib.Data.List.Perm.Subperm
import UsbVideo.Proofs.Engine.Tasks

/-!
# Enough turns

`World.runReady` runs the jobs that are awake, for a number of turns worked out beforehand. The number
is enough: a task that runs wakes its controller, and it wakes other tasks only when it cancels its
transfers, which it does once. So every turn makes the work that is left less (`World.effort`), and
when the turns are over no job is awake (`runReady_ready`).

`World.Turn` says what else a turn does, task by task, and `World.Served` what holds of all worlds:
every task has a mailbox of its own and a controller.
-/

namespace UsbVideo

/-! ### Jobs -/

namespace Job

def isTask : Job → Bool
  | task _ => true
  | client _ => false

/-- Turns that jobs may take: one each, and for a task that of the controller it wakes. -/
def load (jobs : List Job) : Nat := jobs.length + jobs.countP isTask

theorem load_task (mailbox : Mailbox) (jobs : List Job) :
    load (task mailbox :: jobs) = load jobs + 2 := by
  simp only [load, List.length_cons, List.countP_cons, isTask, if_true]
  omega

theorem load_cons_lt (job : Job) (jobs : List Job) : load jobs < load (job :: jobs) := by
  simp only [load, List.length_cons, List.countP_cons]
  omega

theorem load_le (jobs : List Job) : load jobs ≤ 2 * jobs.length := by
  have hcount : jobs.countP isTask ≤ jobs.length := List.countP_le_length
  unfold load
  omega

/-- The jobs that were awake still are, and some of these were woken. -/
def Woke (among ready ready' : List Job) : Prop :=
  ∃ new : List Job, ready' = ready ++ new ∧ new.Nodup ∧ ∀ job ∈ new, job ∉ ready ∧ job ∈ among

namespace Woke

variable {among ready ready' ready'' : List Job} {job : Job}

protected theorem refl (among ready : List Job) : Woke among ready ready :=
  ⟨[], (List.append_nil _).symm, List.nodup_nil, fun _ hjob => absurd hjob List.not_mem_nil⟩

theorem trans (h : Woke among ready ready') (h' : Woke among ready' ready'') :
    Woke among ready ready'' := by
  obtain ⟨new, rfl, hnodup, hnew⟩ := h
  obtain ⟨later, rfl, hnodup', hlater⟩ := h'
  refine ⟨new ++ later, List.append_assoc .., List.nodup_append'.mpr ⟨hnodup, hnodup', ?_⟩, ?_⟩
  · exact fun job hmem hmem' => (hlater job hmem').1 (List.mem_append_right _ hmem)
  · intro job hmem
    rcases List.mem_append.mp hmem with hfirst | hsecond
    · exact hnew job hfirst
    · obtain ⟨hasleep, hamong⟩ := hlater job hsecond
      exact ⟨fun hready => hasleep (List.mem_append_left _ hready), hamong⟩

theorem mono {among' : List Job} (h : Woke among ready ready') (hsub : among ⊆ among') :
    Woke among' ready ready' := by
  obtain ⟨new, heq, hnodup, hnew⟩ := h
  exact ⟨new, heq, hnodup, fun job hjob => (hnew job hjob).imp_right fun hmem => hsub hmem⟩

theorem stays (h : Woke among ready ready') (hjob : job ∈ ready) : job ∈ ready' := by
  obtain ⟨new, rfl, -, -⟩ := h
  exact List.mem_append_left _ hjob

/-- No job is woken twice. -/
theorem load_le (h : Woke among ready ready') : load ready' ≤ load ready + load among := by
  obtain ⟨new, rfl, hnodup, hnew⟩ := h
  have hsub : new.Subperm among := hnodup.subperm fun job hjob => (hnew job hjob).2
  have hlength := hsub.length_le
  have hcount := hsub.countP_le isTask
  simp only [load, List.length_append, List.countP_append]
  omega

end Woke

end Job

namespace World

section Waking

variable {σ κ ν : Type} {w : World σ κ ν}

theorem wake_woke (w : World σ κ ν) {job : Job} {among : List Job} (h : job ∈ among) :
    Job.Woke among w.ready (w.wake job).ready := by
  unfold wake
  split
  · exact .refl among w.ready
  · next hasleep =>
    refine ⟨[job], rfl, List.nodup_singleton job, fun other hother => ?_⟩
    rw [List.mem_singleton.mp hother]
    exact ⟨hasleep, h⟩

theorem mem_wake (w : World σ κ ν) (job : Job) : job ∈ (w.wake job).ready := by
  unfold wake
  split
  · next hawake => exact hawake
  · exact List.mem_append_right _ (List.mem_singleton_self job)

/-- The jobs of tasks. -/
def taskJobs (tasks : List RunningTask) : List Job := (tasks.map RunningTask.mailbox).map Job.task

theorem load_taskJobs (tasks : List RunningTask) : Job.load (taskJobs tasks) = 2 * tasks.length := by
  have hcount : (taskJobs tasks).countP Job.isTask = (taskJobs tasks).length := by
    rw [List.countP_eq_length]
    intro job hjob
    obtain ⟨mailbox, -, rfl⟩ := List.mem_map.mp hjob
    rfl
  rw [Job.load, hcount, taskJobs, List.length_map, List.length_map]
  omega

theorem taskJobs_map {f : RunningTask → RunningTask} (h : RunningTask.Keeps f)
    (tasks : List RunningTask) : taskJobs (tasks.map f) = taskJobs tasks := by
  rw [taskJobs, mailboxes_map h, taskJobs]

theorem deliver_woke (w : World σ κ ν) (post : Post) :
    Job.Woke (taskJobs w.tasks) w.ready (w.deliver post).ready := by
  unfold deliver hasEnded
  cases hfind : w.task? post.mailbox with
  | none => exact .refl _ w.ready
  | some t =>
    obtain ⟨ht, hmailbox⟩ := mem_of_task? hfind
    have hjob : Job.task post.mailbox ∈ taskJobs w.tasks :=
      List.mem_map_of_mem (List.mem_map.mpr ⟨t, ht, hmailbox⟩)
    split
    · exact .refl _ w.ready
    · exact wake_woke (w.modifyTask post.mailbox _) hjob

/-- Who gets a completion is woken. -/
theorem deliverAll_woke (distinct : Distinct w.tasks) (posts : List Post) :
    Job.Woke (taskJobs w.tasks) w.ready (w.deliverAll posts).ready := by
  induction posts generalizing w with
  | nil => exact .refl _ w.ready
  | cons post posts ih =>
    have hfirst := w.deliver_woke post
    obtain ⟨ready, heq⟩ := deliver_eq distinct post
    show Job.Woke _ _ ((w.deliver post).deliverAll posts).ready
    rw [heq] at hfirst ⊢
    have hrest := ih (w := { w with tasks := w.tasks.map (·.receive [post]), ready })
      (distinct.receive [post])
    rw [taskJobs_map (RunningTask.keeps_receive [post])] at hrest
    exact hfirst.trans hrest

end Waking

/-! ### What every world keeps -/

variable {σ κ ν : Type} {w w' : World (Ledger σ) κ ν}

/-- Every task has a mailbox of its own and a controller, and once it drains, no more time than it was
given for that. -/
structure Served (w : World (Ledger σ) κ ν) : Prop where
  distinct : Distinct w.tasks
  fresh : ∀ t ∈ w.tasks, t.mailbox < w.nextMailbox
  clients : ∀ t ∈ w.tasks, t.client < w.clients.length
  due : ∀ t ∈ w.tasks, t.task.DueBy (w.now + t.task.dispatch.plan.cancelTimeout)

namespace Served

/-- Tasks are kept, and time passes. -/
theorem map (served : w.Served) {f : RunningTask → RunningTask} (hf : RunningTask.Keeps f)
    (tasks : w'.tasks = w.tasks.map f) (now : w.now ≤ w'.now)
    (clients : w'.clients.length = w.clients.length) (next : w'.nextMailbox = w.nextMailbox) :
    w'.Served := by
  have horigin : ∀ t' ∈ w'.tasks, ∃ t ∈ w.tasks, t.Kept t' := by
    rw [tasks]
    intro t' ht'
    obtain ⟨t, ht, rfl⟩ := List.mem_map.mp ht'
    exact ⟨t, ht, hf t⟩
  refine ⟨?_, ?_, ?_, ?_⟩
  · rw [tasks]
    exact served.distinct.map hf
  · intro t' ht'
    obtain ⟨t, ht, hkept⟩ := horigin t' ht'
    rw [hkept.mailbox, next]
    exact served.fresh t ht
  · intro t' ht'
    obtain ⟨t, ht, hkept⟩ := horigin t' ht'
    rw [hkept.client, clients]
    exact served.clients t ht
  · intro t' ht' deadline fault hphase
    obtain ⟨t, ht, hkept⟩ := horigin t' ht'
    rw [hkept.phase] at hphase
    rw [hkept.dispatch]
    exact Nat.le_trans (served.due t ht deadline fault hphase) (Nat.add_le_add_right now _)

/-- The tasks stay as they are, and time passes. -/
theorem same (served : w.Served) (tasks : w'.tasks = w.tasks) (now : w.now ≤ w'.now)
    (clients : w'.clients.length = w.clients.length) (next : w'.nextMailbox = w.nextMailbox) :
    w'.Served :=
  served.map .id (tasks.trans (List.map_id _).symm) now clients next

theorem advanceTo (served : w.Served) (time : Nat) : (w.advanceTo time).Served := by
  obtain ⟨ready, heq⟩ := w.advanceTo_eq time
  rw [heq]
  exact served.same rfl (Nat.le_max_left ..) rfl rfl

/-- A task is started in a fresh mailbox. -/
theorem add (served : w.Served) {t : RunningTask} (mailbox : t.mailbox = w.nextMailbox)
    (client : t.client < w.clients.length) (runs : 2 ≤ t.task.phase.rank)
    (tasks : w'.tasks = w.tasks ++ [t]) (now : w'.now = w.now)
    (clients : w'.clients.length = w.clients.length) (next : w'.nextMailbox = w.nextMailbox + 1) :
    w'.Served := by
  rw [← clients] at client
  refine ⟨?_, ?_, ?_, ?_⟩
  · rw [tasks, Distinct, List.map_append, List.map_singleton, mailbox]
    refine (List.perm_append_singleton _ _).nodup_iff.mpr (List.nodup_cons.mpr ⟨?_, served.distinct⟩)
    intro hmem
    obtain ⟨u, hu, hsame⟩ := List.mem_map.mp hmem
    exact Nat.ne_of_lt (served.fresh u hu) hsame
  all_goals
    intro u hu
    rw [tasks, List.mem_append, List.mem_singleton] at hu
  · rcases hu with hold | rfl
    · rw [next]
      exact Nat.lt_succ_of_lt (served.fresh u hold)
    · rw [next, mailbox]
      exact Nat.lt_succ_self _
  · rcases hu with hold | rfl
    · rw [clients]
      exact served.clients u hold
    · exact client
  · rcases hu with hold | rfl
    · rw [now]
      exact served.due u hold
    · exact DispatchTask.dueBy_of_rank (Nat.ne_of_gt runs) _

/-- A task makes steps. -/
theorem afterSteps (served : w.Served) {t : RunningTask} (ht : t ∈ w.tasks)
    {s : TaskStep (Ledger σ) κ ν} (ran : t.task.Ran s.task w.now s.posts) :
    (w.afterSteps t s).Served := by
  obtain ⟨ready, heq⟩ := afterSteps_eq served.distinct ht ran.mailbox
  have hself : ({ t with task := s.task } : RunningTask).mailbox = t.mailbox := ran.mailbox
  have hchanged : { w with
      clients := w.clients.set t.client s.client
      tasks := changed w.tasks t s.task }.Served := by
    refine ⟨served.distinct.changed ht ran.mailbox, ?_, ?_, ?_⟩
    all_goals
      intro u hu
      rcases mem_changed.mp hu with ⟨hold, -⟩ | rfl
    · exact served.fresh u hold
    · rw [hself]
      exact served.fresh t ht
    · rw [List.length_set]
      exact served.clients u hold
    · rw [List.length_set]
      exact served.clients t ht
    · exact served.due u hold
    · dsimp only
      rw [ran.plan]
      exact ran.dueBy _ (.inr (Nat.le_refl _)) (served.due t ht)
  rw [heq]
  exact hchanged.map (RunningTask.keeps_receive s.posts) rfl (Nat.le_refl _) rfl rfl

end Served

/-! ### One turn -/

/-- What a turn does to a task: it is kept, and awake if it was; or it runs until it can only wait. -/
def Turned (w w' : World (Ledger σ) κ ν) (t t' : RunningTask) : Prop :=
  t.Kept t' ∧ (.task t.mailbox ∈ w.ready → .task t.mailbox ∈ w'.ready) ∨
    t'.client = t.client ∧ (∃ posts, t.task.Ran t'.task w.now posts) ∧ t'.task.Waits w.now

/-- Whether a task may still cancel its transfers. -/
def mayCancel (t : RunningTask) : Bool := 2 ≤ t.task.phase.rank

/-- Turns it may take until no job is awake. -/
def effort (w : World (Ledger σ) κ ν) : Nat :=
  Job.load w.ready + 2 * (w.tasks.length * w.tasks.countP mayCancel)

/-- What a turn leads to. -/
structure Turn (w w' : World (Ledger σ) κ ν) : Prop where
  served : w'.Served
  now : w'.now = w.now
  mailboxes : (w'.tasks.map RunningTask.mailbox).Perm (w.tasks.map RunningTask.mailbox)
  tasks : ∀ t' ∈ w'.tasks, ∃ t ∈ w.tasks, Turned w w' t t'
  less : w'.effort < w.effort

theorem effort_le (w : World (Ledger σ) κ ν) : w.effort ≤ w.enoughTurns := by
  have hload := Job.load_le w.ready
  have hcount : w.tasks.length * w.tasks.countP mayCancel ≤
      (w.tasks.length + 1) * (w.tasks.length + 1) :=
    Nat.mul_le_mul (Nat.le_succ _) (Nat.le_succ_of_le List.countP_le_length)
  unfold effort enoughTurns
  omega

/-- A job that leaves all tasks as they are: none of them was waiting for it. -/
theorem Turn.of_tasks {job : Job} (served : w'.Served) (hready : w.ready = job :: w'.ready)
    (now : w'.now = w.now) (tasks : w'.tasks = w.tasks)
    (waits : ∀ t ∈ w.tasks, job = .task t.mailbox → t.task.Waits w.now) : Turn w w' where
  served := served
  now := now
  mailboxes := by rw [tasks]
  tasks := by
    rw [tasks]
    intro t ht
    refine ⟨t, ht, ?_⟩
    by_cases hjob : job = .task t.mailbox
    · exact .inr ⟨rfl, ⟨[], .refl t.task w.now⟩, waits t ht hjob⟩
    · refine .inl ⟨.refl t, fun hawake => ?_⟩
      rw [hready] at hawake
      exact (List.mem_cons.mp hawake).resolve_left (Ne.symm hjob)
  less := by
    have hload := Job.load_cons_lt job w'.ready
    rw [effort, effort, hready, tasks]
    omega

theorem countP_changed {tasks : List RunningTask} (distinct : Distinct tasks) {t : RunningTask}
    (ht : t ∈ tasks) (task : DispatchTask) (p : RunningTask → Bool) :
    (changed tasks t task).countP p + (p t).toNat = tasks.countP p + (p { t with task }).toNat := by
  rw [(perm_others distinct ht).countP_eq]
  simp only [changed, List.countP_append, List.countP_cons, List.countP_nil]
  cases p t <;> cases p { t with task } <;> simp

/-- A task wakes others once, and then there is one fewer that may. -/
theorem effort_ran {tasks : List RunningTask} (distinct : Distinct tasks) {t : RunningTask}
    (ht : t ∈ tasks) {task : DispatchTask} {now : Nat} {posts : List Post}
    (ran : t.task.Ran task now posts) :
    Job.load (if posts = [] then [] else taskJobs tasks) +
        2 * (tasks.length * (changed tasks t task).countP mayCancel) ≤
      2 * (tasks.length * tasks.countP mayCancel) := by
  have hcount := countP_changed distinct ht task mayCancel
  split
  · have hle : (mayCancel { t with task }).toNat ≤ (mayCancel t).toNat := by
      refine Bool.toNat_le_toNat fun hmay => ?_
      exact decide_eq_true (Nat.le_trans (of_decide_eq_true hmay) ran.rank)
    have hmul : tasks.length * (changed tasks t task).countP mayCancel ≤
        tasks.length * tasks.countP mayCancel := Nat.mul_le_mul_left _ (by omega)
    rw [Job.load, List.length_nil, List.countP_nil, Nat.zero_add]
    omega
  · next hposts =>
    obtain ⟨hbefore, hafter⟩ := ran.cancels hposts
    have hmay : mayCancel t = true := decide_eq_true hbefore
    have hdone : mayCancel { t with task } = false :=
      decide_eq_false (Nat.not_le_of_lt (Nat.lt_succ_of_le hafter))
    rw [hmay, hdone] at hcount
    have hfewer : tasks.countP mayCancel = (changed tasks t task).countP mayCancel + 1 := hcount.symm
    rw [load_taskJobs, hfewer, Nat.mul_succ]
    omega

/-- Only who gets a completion is woken when a task makes steps. -/
theorem afterSteps_woke (distinct : Distinct w.tasks) {t : RunningTask} (ht : t ∈ w.tasks)
    {s : TaskStep (Ledger σ) κ ν} (mailbox : s.task.dispatch.mailbox = t.mailbox) :
    Job.Woke (if s.posts = [] then [] else taskJobs w.tasks) w.ready (w.afterSteps t s).ready := by
  split
  · next hnone =>
    rw [afterSteps, hnone]
    exact .refl [] w.ready
  · refine (deliverAll_woke (distinct.changed ht mailbox) s.posts).mono ?_
    exact ((mailboxes_changed distinct ht mailbox).map Job.task).subset

/-- The turn of a task that runs until it can only wait. -/
theorem afterSteps_turn (served : w.Served) {t : RunningTask} (ht : t ∈ w.tasks) {ready : List Job}
    (hready : w.ready = .task t.mailbox :: ready) {s : TaskStep (Ledger σ) κ ν}
    (ran : t.task.Ran s.task w.now s.posts) (waits : s.task.Waits w.now) :
    Turn w (({ w with ready }.afterSteps t s).wake (.client t.client)) := by
  obtain ⟨awake, heq⟩ := afterSteps_eq (w := { w with ready }) served.distinct ht ran.mailbox
  have hwoke := afterSteps_woke (w := { w with ready }) served.distinct ht ran.mailbox
  have hstepped : ({ w with ready }.afterSteps t s).Served :=
    (served.same rfl (Nat.le_refl _) rfl rfl : { w with ready }.Served).afterSteps ht ran
  obtain ⟨last, hlast⟩ := wake_eq ({ w with ready }.afterSteps t s) (.client t.client)
  have hwoke' := wake_woke ({ w with ready }.afterSteps t s)
    (List.mem_singleton_self (.client t.client))
  rw [hlast] at hwoke' ⊢
  rw [heq] at hwoke hwoke' hstepped ⊢
  refine ⟨hstepped.same rfl (Nat.le_refl _) rfl rfl, rfl, ?_, ?_, ?_⟩
  · rw [mailboxes_map (RunningTask.keeps_receive s.posts)]
    exact mailboxes_changed served.distinct ht ran.mailbox
  · intro t' ht'
    obtain ⟨u, hu, rfl⟩ := List.mem_map.mp ht'
    have hkeeps := RunningTask.keeps_receive s.posts
    rcases mem_changed.mp hu with ⟨hold, hother⟩ | rfl
    · refine ⟨u, hold, .inl ⟨hkeeps u, fun hawake => ?_⟩⟩
      rw [hready] at hawake
      have hmine : Job.task u.mailbox ≠ .task t.mailbox := fun hsame => hother (Job.task.inj hsame)
      exact hwoke'.stays (hwoke.stays ((List.mem_cons.mp hawake).resolve_left hmine))
    · have hself : ({ t with task := s.task } : RunningTask).mailbox = t.mailbox := ran.mailbox
      rw [RunningTask.receive_none _ _ (by rw [hself]; exact ran.others)]
      exact ⟨t, ht, .inr ⟨rfl, ⟨s.posts, ran⟩, waits⟩⟩
  · have heffort := effort_ran served.distinct ht ran
    have hload := Nat.le_trans hwoke'.load_le (Nat.add_le_add_right hwoke.load_le _)
    have hlength := (mailboxes_changed served.distinct ht ran.mailbox).length_eq
    rw [List.length_map, List.length_map] at hlength
    have hsame : mayCancel ∘ (·.receive s.posts) = mayCancel := by
      funext u
      simp [mayCancel]
    rw [effort, effort, hready, Job.load_task]
    simp only [List.length_map, List.countP_map, hsame, hlength] at hload ⊢
    have hclient : Job.load [.client t.client] = 1 := rfl
    omega

variable [Transport σ] [StreamClient κ ν]

/-- The turn of a task. -/
theorem runTask_turn (served : w.Served) {mailbox : Mailbox} {ready : List Job}
    (hready : w.ready = .task mailbox :: ready) : Turn w ({ w with ready }.runTask mailbox) := by
  have hidle : (∀ t ∈ w.tasks, t.mailbox = mailbox → t.task.Waits w.now) → Turn w { w with ready } :=
    fun hwaits => .of_tasks (served.same rfl (Nat.le_refl _) rfl rfl) hready rfl rfl
      fun t ht hjob => hwaits t ht (Job.task.inj hjob).symm
  unfold runTask
  split
  · next hnone =>
    refine hidle fun t ht hmailbox => ?_
    have htask := task?_eq served.distinct ht
    rw [hmailbox] at htask
    cases htask.symm.trans hnone
  · next t htask =>
    obtain ⟨ht, rfl⟩ := mem_of_task? htask
    split
    · next hnone =>
      exact absurd (served.clients t ht) (Nat.not_lt.mpr (List.getElem?_eq_none_iff.mp hnone))
    · next c there =>
      split
      · next hwaits =>
        refine hidle fun u hu hsame => ?_
        rw [served.distinct.eq hu ht hsame]
        exact DispatchTask.step_eq_none_iff.mp (Option.isNone_iff_eq_none.mp hwaits)
      · exact afterSteps_turn served ht hready (DispatchTask.run_ran ..) (DispatchTask.waits_run ..)

/-- The turn of any job. -/
theorem runJob_turn (served : w.Served) {job : Job} {ready : List Job}
    (hready : w.ready = job :: ready) : Turn w ({ w with ready }.runJob job) := by
  cases job with
  | task mailbox => exact runTask_turn served hready
  | client index =>
    have hnobody : ∀ t ∈ w.tasks, Job.client index = .task t.mailbox → t.task.Waits w.now :=
      fun t _ hjob => nomatch hjob
    show Turn w (runClient _ index)
    unfold runClient
    split
    · exact .of_tasks (served.same rfl (Nat.le_refl _) rfl rfl) hready rfl rfl hnobody
    · exact .of_tasks (served.same rfl (Nat.le_refl _) List.length_set rfl) hready rfl rfl hnobody

/-! ### Many turns -/

/-- What every turn preserves holds after any number of them. -/
theorem runTurns_induction {P : World (Ledger σ) κ ν → Prop}
    (turn : ∀ {w w' : World (Ledger σ) κ ν}, w.Served → Turn w w' → P w → P w') (turns : Nat)
    (served : w.Served) (h : P w) : (w.runTurns turns).Served ∧ P (w.runTurns turns) := by
  induction turns generalizing w with
  | zero => exact ⟨served, h⟩
  | succ turns ih =>
    unfold runTurns
    split
    · exact ⟨served, h⟩
    · next job ready hready =>
      have hturn := runJob_turn served hready
      exact ih hturn.served (turn served hturn h)

/-- When the turns are over no job is awake. -/
theorem runTurns_ready (turns : Nat) (served : w.Served) (enough : w.effort ≤ turns) :
    (w.runTurns turns).ready = [] := by
  induction turns generalizing w with
  | zero =>
    have hload : Job.load w.ready = 0 := by
      unfold effort at enough
      omega
    exact List.length_eq_zero_iff.mp (Nat.eq_zero_of_add_eq_zero_right hload)
  | succ turns ih =>
    unfold runTurns
    split
    · next hnone => exact hnone
    · next job ready hready =>
      have hturn := runJob_turn served hready
      exact ih hturn.served (Nat.le_of_lt_succ (Nat.lt_of_lt_of_le hturn.less enough))

/-- Every job that is awake gets its turn. -/
theorem runReady_ready (served : w.Served) : w.runReady.ready = [] :=
  runTurns_ready _ served w.effort_le

end World

end UsbVideo
