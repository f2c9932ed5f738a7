import Mathlib.Logic.Relation
import UsbVideo.Proofs.Engine.Turns

/-!
# What happens in the background

The world runs its jobs in turn: a task until it can only wait, a client until its work is done, and
while somebody waits, time passes from one due task to the next. All of it is made of four things, each
of which may happen at any time (`BackgroundStep`):

    runTask    =  a step of the task, a step of the task, …
    runReady   =  runTask and runClient        awaitEnd  =  runReady, time passes, runReady, …

Whatever these four preserve holds after a wait.
-/

namespace UsbVideo

namespace World

variable {σ κ ν : Type}

/-! ### Steps of one task -/

/-- The tasks after one of them changed, and then once more. -/
theorem changed_changed {tasks : List RunningTask} {t : RunningTask} {task task' : DispatchTask}
    {posts later : List Post} (mailbox : task.dispatch.mailbox = t.mailbox)
    (mailbox' : task'.dispatch.mailbox = t.mailbox)
    (others : Post.completionsFor t.mailbox posts = []) :
    (changed ((changed tasks t task).map (·.receive posts)) { t with task } task').map
      (·.receive later) = (changed tasks t task').map (·.receive (posts ++ later)) := by
  have hself : ({ t with task } : RunningTask).mailbox = t.mailbox := mailbox
  have hself' : ({ t with task := task' } : RunningTask).mailbox = t.mailbox := mailbox'
  have hsame : ({ t with task := task' } : RunningTask).receive later =
      ({ t with task := task' } : RunningTask).receive (posts ++ later) := by
    apply RunningTask.receive_congr
    rw [Post.completionsFor_append, hself', others, List.nil_append]
  have hfilter : ((changed tasks t task).map (·.receive posts)).filter (·.mailbox ≠ t.mailbox) =
      (tasks.filter (·.mailbox ≠ t.mailbox)).map (·.receive posts) := by
    simp [changed, List.filter_map, Function.comp_def, hself]
  rw [changed, hself, hfilter, changed]
  simp only [List.map_append, List.map_map, List.map_cons, List.map_nil, hsame]
  congr 1
  exact List.map_congr_left fun u _ => u.receive_append posts later

/-- After its steps a task is there, and none of what it posted was for itself. -/
theorem mem_afterSteps {w : World σ κ ν} (distinct : Distinct w.tasks) {t : RunningTask}
    (ht : t ∈ w.tasks) {s : TaskStep σ κ ν} (mailbox : s.task.dispatch.mailbox = t.mailbox)
    (others : Post.completionsFor t.mailbox s.posts = []) :
    { t with task := s.task } ∈ (w.afterSteps t s).tasks := by
  obtain ⟨ready, heq⟩ := afterSteps_eq distinct ht mailbox
  have hself : ({ t with task := s.task } : RunningTask).receive s.posts = { t with task := s.task } :=
    RunningTask.receive_none _ _ (by rw [RunningTask.mailbox, mailbox]; exact others)
  rw [heq]
  exact List.mem_map.mpr ⟨_, mem_changed.mpr (.inr rfl), hself⟩

/-- Steps of a task, and then more of them, are steps of the task. -/
theorem afterSteps_afterSteps {w : World σ κ ν} (distinct : Distinct w.tasks) {t : RunningTask}
    (ht : t ∈ w.tasks) {s last : TaskStep σ κ ν} (mailbox : s.task.dispatch.mailbox = t.mailbox)
    (mailbox' : last.task.dispatch.mailbox = t.mailbox) (goes : t.task.isEnded = false)
    (goes' : s.task.isEnded = false) (others : Post.completionsFor t.mailbox s.posts = []) :
    ∃ ready, (w.afterSteps t s).afterSteps { t with task := s.task } last =
      { w.afterSteps t
          { last with posts := s.posts ++ last.posts, effects := s.effects ++ last.effects } with
        ready } := by
  obtain ⟨first, hfirst⟩ := afterSteps_eq distinct ht mailbox
  obtain ⟨whole, hwhole⟩ := afterSteps_eq
    (s := { last with posts := s.posts ++ last.posts, effects := s.effects ++ last.effects })
    distinct ht mailbox'
  have hmem := mem_afterSteps distinct ht mailbox others
  have hdistinct : Distinct (w.afterSteps t s).tasks := by
    rw [hfirst]
    exact (distinct.changed ht mailbox).receive s.posts
  obtain ⟨second, hsecond⟩ := afterSteps_eq (s := last) hdistinct hmem (mailbox'.trans mailbox.symm)
  refine ⟨second, ?_⟩
  rw [hsecond, hwhole, hfirst]
  simp [goes, goes', changed_changed mailbox mailbox' others, List.append_assoc]

variable [Transport σ] [StreamClient κ ν]

/-! ### The background -/

/-- One thing happens of what a world does by itself. -/
inductive BackgroundStep (w : World (Ledger σ) κ ν) : World (Ledger σ) κ ν → Prop where
  | task {t : RunningTask} {client : κ} {s : TaskStep (Ledger σ) κ ν} (ht : t ∈ w.tasks)
      (there : w.clients[t.client]? = some client)
      (step : t.task.step w.now client w.device = some s) : BackgroundStep w (w.afterSteps t s)
  /-- A client does its background work. -/
  | client (index : Nat) : BackgroundStep w (w.runClient index)
  | pass (time : Nat) : BackgroundStep w (w.advanceTo time)
  /-- Jobs are scheduled in any order. -/
  | schedule (ready : List Job) : BackgroundStep w { w with ready }

/-- By itself the one world becomes the other. -/
def Background : World (Ledger σ) κ ν → World (Ledger σ) κ ν → Prop :=
  Relation.ReflTransGen BackgroundStep

variable {w w' : World (Ledger σ) κ ν}

theorem BackgroundStep.served (h : BackgroundStep w w') (served : w.Served) : w'.Served := by
  cases h with
  | task ht there hstep => exact served.afterSteps ht (DispatchTask.step_ran hstep)
  | client index =>
    unfold runClient
    split
    · exact served
    · exact served.same rfl (Nat.le_refl _) List.length_set rfl
  | pass time => exact served.advanceTo time
  | schedule ready => exact served.same rfl (Nat.le_refl _) rfl rfl

namespace Background

theorem served (h : Background w w') (served : w.Served) : w'.Served := by
  induction h with
  | refl => exact served
  | tail _ hstep ih => exact hstep.served ih

/-- Nothing is started in the background. -/
theorem nextMailbox (h : Background w w') (served : w.Served) :
    w'.nextMailbox = w.nextMailbox := by
  induction h with
  | refl => rfl
  | tail h hstep ih =>
    have hdistinct := (Background.served h served).distinct
    rw [← ih]
    cases hstep with
    | task ht there hstep =>
      obtain ⟨ready, heq⟩ := afterSteps_eq hdistinct ht (DispatchTask.step_books hstep).mailbox
      rw [heq]
    | client index =>
      unfold runClient
      split <;> rfl
    | pass time =>
      obtain ⟨ready, heq⟩ := advanceTo_eq _ time
      rw [heq]
    | schedule ready => rfl

theorem wake (w : World (Ledger σ) κ ν) (job : Job) : Background w (w.wake job) := by
  obtain ⟨ready, heq⟩ := w.wake_eq job
  rw [heq]
  exact .single (.schedule ready)

/-- After one step of a task comes the rest of its run. -/
theorem rest (task : DispatchTask) (now : Nat) (client : κ) (l : Ledger σ) :
    ∀ {w : World (Ledger σ) κ ν} {t : RunningTask} {s : TaskStep (Ledger σ) κ ν}, w.Served →
      t ∈ w.tasks → w.clients[t.client]? = some client → t.task = task → w.now = now →
        w.device = l → task.step now client l = some s →
          Background (w.afterSteps t s) (w.afterSteps t (task.run now client l)) := by
  -- The world is taken in only here, for it is another one after each step of the run.
  fun_induction DispatchTask.run task now client l with
  | case1 task client l hnone =>
    intro w t s _ _ _ _ _ _ hstep
    rw [hnone] at hstep
    cases hstep
  | case2 task client l s hstep last =>
    rename_i ih
    intro w t s' served ht there htask hnow hdevice hstep'
    obtain rfl : s = s' := Option.some.inj (hstep.symm.trans hstep')
    subst htask hnow hdevice
    cases hnext : s.task.step w.now s.client s.device with
    | none =>
      have hlast : last = { task := s.task, client := s.client, device := s.device } :=
        DispatchTask.run_eq_self hnext
      rw [hlast, List.append_nil, List.append_nil]
      exact .refl
    | some s' =>
      have hbooks := DispatchTask.step_books hstep
      obtain ⟨_, -, hothers⟩ := hbooks.grew
      have hnone := Post.completionsFor_own hothers
      have hran := DispatchTask.run_ran s.task w.now s.client s.device
      have hmem := mem_afterSteps served.distinct ht hbooks.mailbox hnone
      obtain ⟨ready, htwice⟩ := afterSteps_afterSteps served.distinct ht hbooks.mailbox
        (hran.mailbox.trans hbooks.mailbox) (DispatchTask.goes_of_step hstep)
        (DispatchTask.goes_of_step hnext) hnone
      obtain ⟨_, hafter⟩ := afterSteps_eq served.distinct ht hbooks.mailbox
      have hthere : (w.afterSteps t s).clients[t.client]? = some s.client := by
        rw [hafter, List.getElem?_set_self (List.getElem?_eq_some_iff.mp there).1]
      -- What the task does from here it does in the world after its first step.
      have hlater := ih (served.afterSteps ht (DispatchTask.step_ran hstep)) hmem hthere rfl
        (by rw [hafter]) (by rw [hafter]) hnext
      have hsecond : BackgroundStep (w.afterSteps t s)
          ((w.afterSteps t s).afterSteps { t with task := s.task } s') := by
        refine .task hmem hthere ?_
        rw [hafter]
        exact hnext
      rw [htwice] at hlater
      exact (Relation.ReflTransGen.head hsecond hlater).tail (.schedule _)

/-- A task that is woken and runs. -/
theorem runTask (served : w.Served) (mailbox : Mailbox) : Background w (w.runTask mailbox) := by
  unfold World.runTask
  split
  · exact .refl
  · next t htask =>
    have ht := (mem_of_task? htask).1
    split
    · exact .refl
    · next client there =>
      cases hstep : t.task.step w.now client w.device with
      | none => exact .refl
      | some s =>
        have hrest := rest t.task w.now client w.device served ht there rfl rfl rfl hstep
        exact (Relation.ReflTransGen.head (.task ht there hstep) hrest).trans (wake _ _)

theorem runJob (served : w.Served) (job : Job) : Background w (w.runJob job) := by
  cases job with
  | task mailbox => exact runTask served mailbox
  | client index => exact .single (.client index)

theorem runTurns (turns : Nat) (served : w.Served) : Background w (w.runTurns turns) := by
  induction turns generalizing w with
  | zero => exact .refl
  | succ turns ih =>
    unfold World.runTurns
    split
    · exact .refl
    · next job ready _ =>
      have hready : BackgroundStep w { w with ready } := .schedule ready
      have hjob : Background w _ := .head hready (runJob (hready.served served) job)
      exact hjob.trans (ih (hjob.served served))

theorem runReady (served : w.Served) : Background w w.runReady := runTurns _ served

theorem awaitTurns (turns : Nat) (mailbox : Mailbox) (served : w.Served) :
    Background w (w.awaitTurns mailbox turns) := by
  induction turns generalizing w with
  | zero => exact .refl
  | succ turns ih =>
    have hready := runReady served
    unfold World.awaitTurns
    dsimp only
    split
    · exact hready
    · split
      · exact hready
      · next time _ =>
        have hpass : Background w _ := hready.tail (.pass time)
        exact hpass.trans (ih (hpass.served served))

theorem awaitEnd (served : w.Served) (mailbox : Mailbox) : Background w (w.awaitEnd mailbox) := by
  unfold World.awaitEnd
  split
  · exact .refl
  · exact awaitTurns _ mailbox served

theorem passTurns (turns : Nat) (time : Nat) (served : w.Served) :
    Background w (w.passTurns time turns) := by
  have hlast : ∀ {v : World (Ledger σ) κ ν} (time : Nat), v.Served →
      Background v (v.advanceTo time).runReady := by
    intro v time hv
    have hpass : BackgroundStep v (v.advanceTo time) := .pass time
    exact .head hpass (runReady (hpass.served hv))
  induction turns generalizing w with
  | zero => exact hlast time served
  | succ turns ih =>
    unfold World.passTurns
    split
    · next due _ =>
      have hready := hlast due served
      exact hready.trans (ih (hready.served served))
    · exact hlast time served

/-- The usual course of events. -/
theorem settle (milliseconds : Nat) (served : w.Served) : Background w (w.settle milliseconds) := by
  have hready := runReady served
  exact hready.trans (passTurns _ _ (hready.served served))

end Background

end World

end UsbVideo
