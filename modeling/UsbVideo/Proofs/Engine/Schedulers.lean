import UsbVideo.Proofs.Engine.Course

/-!
# Schedulers without a controller

A controller starts a scheduler for its pipeline, and whoever has another sink starts one for that. Here
is everything that can happen to a device whose schedulers are started, stopped and dropped one by one,
in any order, for sinks of any kind (`SchedulerStep`):

    start ──▶ running ──stop, drop, fault, sink closed──▶ leaving ──▶ draining ──▶ ended
      └──refused──▶ nothing happens, or a task takes back what was accepted

A sink that panics ends its task at once, and the transfers in flight are nobody's from then on. This is
the one `Incident`; everything else leaves a task its transfers until they are back.

`RunningTask.Origin` says where a task comes from that is there after a step, in a world of controllers
and in one of other sinks alike. From it follows which endpoint a task has a claim on
(`Origin.assigned`) and what is in flight when it ends (`Origin.drained`).
-/

namespace UsbVideo

variable {σ κ ν : Type}

/-- What may go wrong in a step. -/
inductive Incident where
  | none
  | panic

/-! ### Where tasks come from -/

namespace RunningTask

variable {t t' : RunningTask} {name : String}

/-- A task has the claim on the endpoint it dispatches. -/
def Assigned (name : String) (t : RunningTask) : Prop :=
  t.claim = .endpoint name t.task.dispatch.plan.endpoint

/-- Once a task has ended, none of its transfers is in flight. -/
def Drained (t : RunningTask) : Prop :=
  t.task.isEnded = true → t.task.dispatch.inFlight.toList = []

theorem Assigned.kept (h : t.Assigned name) (hkept : t.Kept t') : t'.Assigned name := by
  rw [Assigned, hkept.claim, hkept.dispatch]
  exact h

theorem Drained.kept (h : t.Drained) (hkept : t.Kept t') : t'.Drained := by
  rw [Drained, hkept.isEnded, hkept.dispatch]
  exact h

variable [Transport σ] [StreamClient κ ν]

/-- Where a task comes from that is there after a step: it was there and perhaps made a step of its own,
or it was started, or its sink panicked. -/
inductive Origin (w : World (Ledger σ) κ ν) : Incident → RunningTask → Prop where
  | kept {incident : Incident} {t t' : RunningTask} (ht : t ∈ w.tasks) (kept : t.Kept t') :
      Origin w incident t'
  | stepped {incident : Incident} {t t' : RunningTask} {client : κ} {s : TaskStep (Ledger σ) κ ν}
      (ht : t ∈ w.tasks) (step : t.task.step w.now client w.device = some s)
      (kept : Kept { t with task := s.task } t') : Origin w incident t'
  | started {incident : Incident} {t' : RunningTask} (goes : t'.task.isEnded = false)
      (assigned : t'.Assigned (Transport.deviceId w.device)) : Origin w incident t'
  | lost {t t' : RunningTask} (ht : t ∈ w.tasks)
      (kept : Kept { t with task := { t.task with phase := .ended } } t') : Origin w .panic t'

namespace Origin

variable {w : World (Ledger σ) κ ν} {incident : Incident}

/-- All tasks are kept. -/
theorem of_map {tasks : List RunningTask} {f : RunningTask → RunningTask} (hf : Keeps f)
    (htasks : tasks = w.tasks.map f) (ht : t' ∈ tasks) : Origin w incident t' := by
  rw [htasks] at ht
  obtain ⟨u, hu, rfl⟩ := List.mem_map.mp ht
  exact .kept hu (hf u)

/-- All tasks stay as they are. -/
theorem of_same {tasks : List RunningTask} (htasks : tasks = w.tasks) (ht : t' ∈ tasks) :
    Origin w incident t' :=
  of_map .id (htasks.trans (List.map_id _).symm) ht

/-- One task changes, and the others may get completions. -/
theorem of_afterSteps (distinct : World.Distinct w.tasks) (ht : t ∈ w.tasks)
    {s : TaskStep (Ledger σ) κ ν} (mailbox : s.task.dispatch.mailbox = t.mailbox)
    (changed : ∀ t', Kept { t with task := s.task } t' → Origin w incident t')
    (ht' : t' ∈ (w.afterSteps t s).tasks) : Origin w incident t' := by
  obtain ⟨ready, heq⟩ := World.afterSteps_eq distinct ht mailbox
  rw [heq] at ht'
  obtain ⟨u, hu, rfl⟩ := List.mem_map.mp ht'
  have hkept := keeps_receive s.posts u
  rcases World.mem_changed.mp hu with ⟨hold, -⟩ | rfl
  · exact .kept hold hkept
  · exact changed _ hkept

/-- Wherever a task comes from, it has the claim on its endpoint. -/
theorem assigned (h : Origin w incident t') (named : Transport.deviceId w.device = name)
    (before : ∀ t ∈ w.tasks, t.Assigned name) : t'.Assigned name := by
  cases h with
  | kept ht hkept => exact (before _ ht).kept hkept
  | @stepped _ t _ _ s ht hstep hkept =>
    have hself : ({ t with task := s.task } : RunningTask).Assigned name := by
      have hclaim := before t ht
      rwa [Assigned, (DispatchTask.step_books hstep).plan]
    exact hself.kept hkept
  | started goes assigned =>
    rw [named] at assigned
    exact assigned
  | @lost t _ ht hkept =>
    have hself : ({ t with task := { t.task with phase := .ended } } : RunningTask).Assigned name :=
      before t ht
    exact hself.kept hkept

/-- Unless a sink panics, a task ends without transfers in flight. -/
theorem drained (h : Origin w .none t') (before : ∀ t ∈ w.tasks, t.Drained)
    (accounted : ∀ t ∈ w.tasks, t.Accounted w.device)
    (prompt : ∀ t ∈ w.tasks, ∀ deadline fault, t.task.phase = .draining deadline fault →
      deadline ≤ w.now → w.device.pending t.mailbox = []) : t'.Drained := by
  cases h with
  | kept ht hkept => exact (before _ ht).kept hkept
  | @stepped _ t _ _ s ht hstep hkept =>
    have hbooked := accounted t ht
    rw [Accounted, DispatchTask.goes_of_step hstep, if_neg Bool.false_ne_true] at hbooked
    have hself : ({ t with task := s.task } : RunningTask).Drained := fun hended =>
      DispatchTask.step_drained hstep hended hbooked (prompt t ht)
    exact hself.kept hkept
  | started goes assigned =>
    intro hended
    rw [goes] at hended
    cases hended

end Origin

end RunningTask

namespace World

variable [Transport σ]

/-! ### Starting -/

/-- A scheduler was started: its endpoint is claimed, and a task goes on with its transfers. -/
structure Begun (w : World (Ledger σ) κ ν) (client : Nat) (plan : TransferPlan) (t : RunningTask)
    (w' : World (Ledger σ) κ ν) : Prop where
  acquired : w.claims.acquire t.claim = some w'.claims
  assigned : t.Assigned (Transport.deviceId w.device)
  client : t.client = client
  mailbox : t.mailbox = w.nextMailbox
  runs : 2 ≤ t.task.phase.rank
  inbox : t.task.inbox = []
  pool : ∃ pool, ({ plan, mailbox := w.nextMailbox } : Dispatch).submitPool w.device pool =
    ((({ plan, mailbox := w.nextMailbox } : Dispatch).submitPool w.device pool).1,
      t.task.dispatch, w'.device)
  tasks : w'.tasks = w.tasks ++ [t]
  now : w'.now = w.now
  clients : w'.clients = w.clients
  next : w'.nextMailbox = w.nextMailbox + 1

/-- Whoever starts a scheduler gets one, or nothing happens. -/
theorem tryStart_begun (w : World (Ledger σ) κ ν) (client : Nat) (plan : TransferPlan) :
    (w.tryStart client plan).2 = w ∨ ∃ t, Begun w client plan t (w.tryStart client plan).2 := by
  rcases w.tryStart_cases client plan with ⟨error, heq⟩ | ⟨claims, size, pool, acquired, heq⟩
  · rw [heq]
    exact .inl rfl
  · obtain ⟨refused, t, ready, trace, hclient, hclaim, hmailbox, hruns, hinbox, hdispatch, -, hlaunch⟩ :=
      { w with claims }.launch_eq client _ plan size pool
    obtain ⟨n, hsubmitted, -, -⟩ :=
      ({ plan, mailbox := w.nextMailbox } : Dispatch).submitPool_submitted w.device pool
    rw [heq, hlaunch]
    refine .inr ⟨t, ?_, ?_, hclient, hmailbox, hruns, hinbox, ⟨pool, ?_⟩, rfl, rfl, rfl, rfl⟩
    · rwa [hclaim]
    · rw [RunningTask.Assigned, hclaim, hdispatch, hsubmitted.plan]
    · rw [hdispatch]

/-- An endpoint that is taken is refused, and nothing happens: its claim stays where it is. -/
theorem tryStart_busy (w : World (Ledger σ) κ ν) (client : Nat) {plan : TransferPlan} {size : Nat}
    (shape : Dispatch.poolShape plan = .ok size)
    (held : ClaimKey.endpoint (Transport.deviceId w.device) plan.endpoint ∈ w.claims.held) :
    w.tryStart client plan = (.error (.deviceBusy plan.endpoint), w) := by
  have hnone : w.claims.acquire (.endpoint (Transport.deviceId w.device) plan.endpoint) = none := by
    rw [ClaimRegistry.acquire, if_pos held]
  rw [tryStart, shape]
  dsimp only
  rw [hnone]

namespace Begun

variable {w w' : World (Ledger σ) κ ν} {client : Nat} {plan : TransferPlan} {t : RunningTask}

theorem goes (h : Begun w client plan t w') : t.task.isEnded = false :=
  DispatchTask.goes_of_rank h.runs

theorem served (h : Begun w client plan t w') (served : w.Served)
    (there : client < w.clients.length) : w'.Served :=
  served.add h.mailbox (by rwa [h.client]) h.runs h.tasks h.now (by rw [h.clients]) h.next

theorem records (h : Begun w client plan t w') {rest : List ClaimKey}
    (records : w.claims.Records (liveClaims w.tasks ++ rest)) :
    w'.claims.Records (liveClaims w'.tasks ++ rest) := by
  rw [h.tasks]
  exact records.launched h.goes h.acquired

theorem accounts (h : Begun w client plan t w') (accounts : Accounts w.tasks w.nextMailbox w.device)
    (honest : ∀ mailbox, w.device.Honest mailbox) :
    Accounts w'.tasks w'.nextMailbox w'.device := by
  obtain ⟨pool, hpool⟩ := h.pool
  have hadd := accounts.add (honest _) plan pool (by simp [h.goes]) h.inbox (by rw [hpool])
  rw [hpool] at hadd
  rw [h.tasks, h.next]
  exact hadd

theorem origin [StreamClient κ ν] (h : Begun w client plan t w') {incident : Incident}
    {t' : RunningTask} (ht' : t' ∈ w'.tasks) : RunningTask.Origin w incident t' := by
  rw [h.tasks, List.mem_append, List.mem_singleton] at ht'
  rcases ht' with hold | rfl
  · exact .kept hold (.refl t')
  · exact .started h.goes h.assigned

end Begun

variable [StreamClient κ ν]

/-! ### Everything that can happen -/

/-- One thing happens to a device and its schedulers. -/
inductive SchedulerStep (w : World (Ledger σ) κ ν) : Incident → World (Ledger σ) κ ν → Prop where
  /-- Start a scheduler for a sink. -/
  | start (client : Nat) (plan : TransferPlan) (there : client < w.clients.length) :
      SchedulerStep w .none (w.tryStart client plan).2
  /-- A scheduler is stopped: its task is told to wind down. -/
  | stop (mailbox : Mailbox) : SchedulerStep w .none (w.askStop mailbox)
  /-- A scheduler goes away. Its task is told to wind down and left alone. -/
  | drop (mailbox : Mailbox) : SchedulerStep w .none (w.requestStop mailbox)
  /-- A task makes a step, which may be its last. -/
  | task {t : RunningTask} {client : κ} {s : TaskStep (Ledger σ) κ ν} (ht : t ∈ w.tasks)
      (there : w.clients[t.client]? = some client)
      (step : t.task.step w.now client w.device = some s) : SchedulerStep w .none (w.afterSteps t s)
  /-- A sink panics while its task makes a step, and takes the task with it. -/
  | panic {t : RunningTask} (ht : t ∈ w.tasks) (goes : t.task.isEnded = false) (client : κ)
      (effects : List (Effect ν)) :
      SchedulerStep w .panic
        (w.afterSteps t
          { task := { t.task with phase := .ended }, client, device := w.device, effects })
  /-- Sinks come, and those that are there go on. -/
  | sinks (clients : List κ) (trace : List (Effect ν)) (more : w.clients.length ≤ clients.length) :
      SchedulerStep w .none { w with clients, trace }
  /-- The device does something, and completions of any kind are posted. -/
  | device (device : σ) (posts : List Post) :
      SchedulerStep w .none (w.act fun l => ((), posts, l.act device posts)).2
  | pass (time : Nat) : SchedulerStep w .none (w.advanceTo time)
  /-- Jobs are scheduled in any order, and memory comes and goes. -/
  | schedule (ready : List Job) (memory : Memory) : SchedulerStep w .none { w with ready, memory }

omit [Transport σ] [StreamClient κ ν] in
/-- A task that is told to stop goes on until it has wound down. -/
theorem askStop_eq (w : World (Ledger σ) κ ν) (mailbox : Mailbox) :
    w.askStop mailbox = w ∨
      ∃ ready, w.askStop mailbox = { w with tasks := w.tasks.map (·.told mailbox), ready } := by
  unfold askStop
  split
  · exact .inl rfl
  · exact .inr (w.requestStop_eq mailbox)

omit [Transport σ] [StreamClient κ ν] in
/-- The end of a task whose sink panicked, as one of its steps. -/
theorem ran_panic (t : DispatchTask) (now : Nat) : t.Ran { t with phase := .ended } now [] where
  mailbox := rfl
  rank := Nat.zero_le _
  cancels := fun hposts => absurd rfl hposts
  others := rfl
  winding := fun _ => .inr (Nat.zero_le 2)
  plan := rfl
  dueBy := fun _ _ _ _ _ hphase => DispatchPhase.noConfusion hphase

/-- What a step amounts to: the tasks are kept and nothing is claimed, or one task begins, makes a step
or is lost with its sink. -/
inductive Shape (w : World (Ledger σ) κ ν) : Incident → World (Ledger σ) κ ν → Prop where
  | kept {w' : World (Ledger σ) κ ν} (f : RunningTask → RunningTask) (keeps : RunningTask.Keeps f)
      (tasks : w'.tasks = w.tasks.map f) (claims : w'.claims = w.claims) (now : w.now ≤ w'.now)
      (clients : w.clients.length ≤ w'.clients.length) (next : w'.nextMailbox = w.nextMailbox)
      (accepted : w'.device.accepted = w.device.accepted)
      (accounted : ∀ t : RunningTask, t.Accounted w.device → (f t).Accounted w'.device) :
      Shape w .none w'
  | begun {w' : World (Ledger σ) κ ν} {client : Nat} {plan : TransferPlan} {t : RunningTask}
      (there : client < w.clients.length) (begun : Begun w client plan t w') : Shape w .none w'
  | stepped {t : RunningTask} {client : κ} {s : TaskStep (Ledger σ) κ ν} (ht : t ∈ w.tasks)
      (step : t.task.step w.now client w.device = some s) : Shape w .none (w.afterSteps t s)
  | lost {t : RunningTask} (ht : t ∈ w.tasks) (goes : t.task.isEnded = false)
      {s : TaskStep (Ledger σ) κ ν} (task : s.task = { t.task with phase := .ended })
      (posts : s.posts = []) : Shape w .panic (w.afterSteps t s)

variable {w w' : World (Ledger σ) κ ν} {incident : Incident}

/-- Nothing happens to the tasks, and nothing is submitted. -/
theorem Shape.of_same (tasks : w'.tasks = w.tasks) (claims : w'.claims = w.claims)
    (now : w.now ≤ w'.now) (clients : w.clients.length ≤ w'.clients.length)
    (next : w'.nextMailbox = w.nextMailbox) (device : w'.device = w.device) : Shape w .none w' := by
  refine .kept id .id (tasks.trans (List.map_id _).symm) claims now clients next ?_ fun t haccount => ?_
  · rw [device]
  · rw [device]
    exact haccount

theorem Shape.refl (w : World (Ledger σ) κ ν) : Shape w .none w :=
  .of_same rfl rfl (Nat.le_refl _) (Nat.le_refl _) rfl rfl

theorem SchedulerStep.shape (hs : SchedulerStep w incident w') (distinct : Distinct w.tasks) :
    Shape w incident w' := by
  have htold : ∀ (mailbox : Mailbox) (ready : List Job),
      Shape w .none { w with tasks := w.tasks.map (RunningTask.told mailbox), ready } := by
    intro mailbox ready
    exact .kept _ (RunningTask.keeps_told mailbox) rfl rfl (Nat.le_refl _) (Nat.le_refl _) rfl rfl
      fun t haccount => haccount.told mailbox
  cases hs with
  | start client plan there =>
    rcases w.tryStart_begun client plan with hsame | ⟨t, begun⟩
    · rw [hsame]
      exact .refl w
    · exact .begun there begun
  | stop mailbox =>
    rcases w.askStop_eq mailbox with hsame | ⟨ready, heq⟩
    · rw [hsame]
      exact .refl w
    · rw [heq]
      exact htold mailbox ready
  | drop mailbox =>
    obtain ⟨ready, heq⟩ := w.requestStop_eq mailbox
    rw [heq]
    exact htold mailbox ready
  | task ht there hstep => exact .stepped ht hstep
  | panic ht goes client effects => exact .lost ht goes rfl rfl
  | sinks clients trace more =>
    exact .of_same rfl rfl (Nat.le_refl _) more rfl rfl
  | device device posts =>
    obtain ⟨ready, heq⟩ := act_eq distinct device posts
    rw [heq]
    exact .kept _ (RunningTask.keeps_receive posts) rfl rfl (Nat.le_refl _) (Nat.le_refl _) rfl rfl
      fun t haccount => haccount.receive rfl rfl
  | pass time =>
    obtain ⟨ready, heq⟩ := w.advanceTo_eq time
    rw [heq]
    exact .of_same rfl rfl (Nat.le_max_left ..) (Nat.le_refl _) rfl rfl
  | schedule ready =>
    exact .of_same rfl rfl (Nat.le_refl _) (Nat.le_refl _) rfl rfl

namespace Shape

theorem served (shape : Shape w incident w') (served : w.Served) : w'.Served := by
  cases shape with
  | kept f keeps tasks _ now clients next =>
    have hkept : { w' with clients := w.clients }.Served := served.map keeps tasks now rfl next
    exact ⟨hkept.distinct, hkept.fresh,
      fun t ht => Nat.lt_of_lt_of_le (hkept.clients t ht) clients, hkept.due⟩
  | begun there begun => exact begun.served served there
  | stepped ht hstep => exact served.afterSteps ht (DispatchTask.step_ran hstep)
  | @lost t ht goes s task posts =>
    refine served.afterSteps ht ?_
    rw [task, posts]
    exact ran_panic t.task w.now

/-- The registry holds the claims of the tasks that go on, and the rest it held. -/
theorem records (shape : Shape w incident w') (distinct : Distinct w.tasks) {rest : List ClaimKey}
    (h : w.claims.Records (liveClaims w.tasks ++ rest)) :
    w'.claims.Records (liveClaims w'.tasks ++ rest) := by
  have hafter : ∀ {t : RunningTask} {s : TaskStep (Ledger σ) κ ν}, t ∈ w.tasks →
      t.task.isEnded = false → s.task.dispatch.mailbox = t.mailbox →
        (w.afterSteps t s).claims.Records (liveClaims (w.afterSteps t s).tasks ++ rest) := by
    intro t s ht hgoes hmailbox
    obtain ⟨ready, heq⟩ := afterSteps_eq distinct ht hmailbox
    rw [heq, liveClaims_map (RunningTask.keeps_receive s.posts)]
    exact h.stepped distinct ht hgoes s.task
  cases shape with
  | kept f keeps tasks claims =>
    rw [tasks, claims, liveClaims_map keeps]
    exact h
  | begun there begun => exact begun.records h
  | stepped ht hstep =>
    exact hafter ht (DispatchTask.goes_of_step hstep) (DispatchTask.step_books hstep).mailbox
  | lost ht goes task posts =>
    refine hafter ht goes ?_
    rw [task]
    rfl

theorem origin (shape : Shape w incident w') (distinct : Distinct w.tasks) {t' : RunningTask}
    (ht' : t' ∈ w'.tasks) : RunningTask.Origin w incident t' := by
  cases shape with
  | kept f keeps tasks => exact .of_map keeps tasks ht'
  | begun there begun => exact begun.origin ht'
  | stepped ht hstep =>
    exact .of_afterSteps distinct ht (DispatchTask.step_books hstep).mailbox
      (fun _ hkept => .stepped ht hstep hkept) ht'
  | @lost t ht goes s task posts =>
    have hmailbox : s.task.dispatch.mailbox = t.mailbox := by
      rw [task]
      rfl
    refine .of_afterSteps distinct ht hmailbox (fun _ hkept => .lost ht ?_) ht'
    rwa [task] at hkept

/-- On an honest and prompt bus stack the accounts stay in order, unless a sink panics. -/
theorem accounts (shape : Shape w .none w') (h : Accounts w.tasks w.nextMailbox w.device)
    (honest : ∀ mailbox, w.device.Honest mailbox)
    (prompt : ∀ t ∈ w.tasks, ∀ deadline fault, t.task.phase = .draining deadline fault →
      deadline ≤ w.now → w.device.pending t.mailbox = []) :
    Accounts w'.tasks w'.nextMailbox w'.device := by
  cases shape with
  | kept f keeps tasks _ _ _ next accepted accounted =>
    rw [tasks, next]
    exact h.map keeps accepted fun t ht => accounted t (h.accounted t ht)
  | begun there begun => exact begun.accounts h honest
  | @stepped t client s ht hstep =>
    obtain ⟨ready, heq⟩ := afterSteps_eq h.distinct ht (DispatchTask.step_books hstep).mailbox
    rw [heq]
    exact h.step ht hstep (honest _) (prompt t ht)

end Shape

end World

/-! ### Controllers -/

namespace World

variable [Transport σ] {w : World (Ledger σ) Controller Call} {i : Nat} {c : Controller}

/-- Only the part of opening that starts the transfers does anything to the tasks. -/
theorem origin_proceed (u : Undertaking) {t' : RunningTask}
    (ht' : t' ∈ (w.proceed i c u).1.tasks) : RunningTask.Origin w .none t' := by
  cases u with
  | agree request =>
    obtain ⟨device, trace, -, ⟨error, heq⟩ | ⟨config, catalog, heq⟩⟩ := w.agreeFor_eq i c request
    · simp only [proceed, heq] at ht'
      exact .of_same rfl ht'
    · simp only [proceed, heq] at ht'
      exact .of_same rfl ht'
  | select config =>
    obtain ⟨device, -, ⟨error, heq⟩ | heq⟩ := w.selectFor_eq i config
    · simp only [proceed, heq] at ht'
      exact .of_same rfl ht'
    · simp only [proceed, heq] at ht'
      exact .of_same rfl ht'
  | launch config =>
    have hsame : (w.proceed i c (.launch config)).1.tasks =
        (w.tryStart i (config.plan c.settings.transfer)).2.tasks := by
      simp only [proceed]
      split
      · next heq => rw [heq]; rfl
      · next heq => rw [heq]
      · next heq => rw [heq]
    rw [hsame] at ht'
    rcases w.tryStart_begun i (config.plan c.settings.transfer) with hnone | ⟨t, begun⟩
    · rw [hnone] at ht'
      exact .of_same rfl ht'
    · exact begun.origin ht'
  | reset config error =>
    obtain ⟨device, trace, -, heq⟩ := w.resetInterface_eq config.interface
    simp only [proceed, heq] at ht'
    exact .of_same rfl ht'
  | release config =>
    obtain ⟨device, trace, -, heq⟩ := w.endClose_eq i config
    simp only [proceed, heq] at ht'
    exact .of_same rfl ht'
  | unwind | giveUp | drain => exact .of_same rfl ht'

end World

namespace Engine

variable [Transport σ] {a b : Engine σ} {event : Event}

theorem Step.origin (hs : Step a event b) (distinct : World.Distinct a.world.tasks)
    {t' : RunningTask} (ht' : t' ∈ b.world.tasks) : RunningTask.Origin a.world .none t' := by
  cases hs with
  | proceed index c u => exact World.origin_proceed u ht'
  | close index c s =>
    obtain ⟨tasks, ready, ⟨rfl, -⟩ | rfl, heq⟩ := a.world.beginClose_eq index s.mailbox
    · rw [closing, heq] at ht'
      exact .of_same rfl ht'
    · rw [closing, heq] at ht'
      exact .of_map (RunningTask.keeps_told s.mailbox) rfl ht'
  | disconnect index =>
    rcases a.world.notifyDisconnect_eq index with hsame | ⟨c, c', trace, -, -, heq⟩
    · rw [hsame] at ht'
      exact .of_same rfl ht'
    · rw [heq] at ht'
      exact .of_same rfl ht'
  | drop index =>
    rcases a.world.abandon_eq index with ⟨-, heq⟩ | ⟨s, device, ready, trace, -, -, heq⟩
    · rw [dropped, heq] at ht'
      exact .of_same rfl ht'
    · rw [dropped, heq] at ht'
      exact .of_map (RunningTask.keeps_told s.mailbox) rfl ht'
  | task mailbox =>
    rcases a.world.stepTask_cases mailbox with hsame | ⟨t, c, s, ht, -, hstep, heq⟩
    · rw [hsame] at ht'
      exact .of_same rfl ht'
    · rw [heq] at ht'
      exact .of_afterSteps distinct ht (DispatchTask.step_books hstep).mailbox
        (fun _ hkept => .stepped ht hstep hkept) ht'
  | worker index worker =>
    rcases a.world.onPipeline_eq index worker.onward with hsame | ⟨c, c', trace, -, -, heq⟩
    · rw [hsame] at ht'
      exact .of_same rfl ht'
    · rw [heq] at ht'
      exact .of_same rfl ht'
  | device device posts =>
    obtain ⟨ready, heq⟩ := World.act_eq distinct device posts
    rw [heq] at ht'
    exact .of_map (RunningTask.keeps_receive posts) rfl ht'
  | pass time =>
    obtain ⟨ready, heq⟩ := a.world.advanceTo_eq time
    rw [heq] at ht'
    exact .of_same rfl ht'
  | claim | listen | schedule | acquire | release => exact .of_same rfl ht'

end Engine

end UsbVideo
