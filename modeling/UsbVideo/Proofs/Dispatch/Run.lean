import UsbVideo.Device.Scripted
import UsbVideo.Engine.Recorder
import UsbVideo.Proofs.Dispatch.Submit

/-!
# Runs of a dispatch

A `Scene` is a dispatch task between its bus stack and its client, both of which keep books. From its
launch on a scene changes in four ways, in any order and at any time:

* `Step.run`: the task makes a step at any moment of the clock, if there is one to make;
* `Step.act`: the bus stack does something, and posts any completions it likes;
* `Step.client`: the client changes of itself;
* `Step.stop`: somebody asks for the end.

A `Happening` is one of these with all that it brings, and `after` what becomes of the scene.
`Reachable` are the scenes of all runs in which the bus stack keeps its contract. Nothing is assumed
of the order of completions, of their statuses, or of what is refused.

`Step.turn` says once what a step does to numbers, payloads and books: there are four kinds of turns,
and an invariant of runs is proved turn by turn.
-/

namespace UsbVideo

/-- Whether completions are taken in as they come. -/
def DispatchPhase.isRunning : DispatchPhase → Bool
  | running _ => true
  | _ => false

/-- A dispatch task between the two sides it serves. -/
structure Scene (σ κ : Type) where
  task : DispatchTask
  client : Transcribed κ
  device : Ledger σ

/-- Something that happens to a scene. -/
inductive Happening (σ κ : Type) where
  | run (now : Nat)
  | act (device : σ) (posts : List Post)
  | client (client : κ)
  | stop

namespace Scene

variable {σ κ ν : Type}

abbrev dispatch (s : Scene σ κ) : Dispatch := s.task.dispatch

/-- The completions posted to the task so far. -/
def posted (s : Scene σ κ) : List Completion := s.device.postedTo s.dispatch.mailbox

/-- The bus stack keeps its contract towards the task. -/
def Honest (s : Scene σ κ) : Prop := s.device.Honest s.dispatch.mailbox

/-- Whether the task takes completions in as they come. -/
def Running (s : Scene σ κ) : Prop := s.task.phase.isRunning = true

variable [Transport σ]

/-- A pool is submitted in a fresh mailbox. If the bus stack refuses any of it, the task winds down
at once. -/
def launch (plan : TransferPlan) (mailbox : Mailbox) (pool : List Transfer) (now : Nat) (client : κ)
    (device : σ) : Scene σ κ :=
  let (refused, dispatch, device) :=
    ({ plan, mailbox } : Dispatch).submitPool ({ device } : Ledger σ) pool
  { task := { dispatch, phase := if refused.isSome then .leaving none else .running now }
    client := { client }
    device }

omit [Transport σ] in
/-- The bus stack does something and posts completions; those of the task arrive in its inbox. -/
def act (s : Scene σ κ) (device : σ) (posts : List Post) : Scene σ κ :=
  { s with
    task :=
      { s.task with inbox := s.task.inbox ++ Post.completionsFor s.dispatch.mailbox posts }
    device := s.device.act device posts }

variable [StreamClient κ ν]

/-- The task makes a step, unless it can only wait. -/
def next (s : Scene σ κ) (now : Nat) : Scene σ κ :=
  match s.task.step now s.client s.device with
  | some t => { task := t.task, client := t.client, device := t.device }
  | none => s

/-- One thing happens. -/
inductive Step : Scene σ κ → Scene σ κ → Prop where
  | run (a : Scene σ κ) (now : Nat) : Step a (a.next now)
  | act (a : Scene σ κ) (device : σ) (posts : List Post) : Step a (a.act device posts)
  | client (a : Scene σ κ) (client : κ) : Step a { a with client := { a.client with client } }
  | stop (a : Scene σ κ) : Step a { a with task := { a.task with stopRequested := true } }

/-- What becomes of a scene when something happens. -/
def after (s : Scene σ κ) : Happening σ κ → Scene σ κ
  | .run now => s.next now
  | .act device posts => s.act device posts
  | .client client => { s with client := { s.client with client } }
  | .stop => { s with task := { s.task with stopRequested := true } }

theorem step_after (a : Scene σ κ) (h : Happening σ κ) : Step a (a.after h) := by
  cases h with
  | run now => exact .run a now
  | act device posts => exact .act a device posts
  | client client => exact .client a client
  | stop => exact .stop a

/-- A step is one thing that happens. -/
theorem Step.exists_after {a b : Scene σ κ} (h : Step a b) : ∃ happening, b = a.after happening := by
  cases h with
  | run now => exact ⟨.run now, rfl⟩
  | act device posts => exact ⟨.act device posts, rfl⟩
  | client client => exact ⟨.client client, rfl⟩
  | stop => exact ⟨.stop, rfl⟩

/-- The scenes of all runs on an honest bus stack. -/
inductive Reachable : Scene σ κ → Prop where
  | launch {size : Nat} {memory : Memory} (plan : TransferPlan) (mailbox : Mailbox)
      (pool : List Transfer) (now : Nat) (client : κ) (device : σ)
      (shape : Dispatch.poolShape plan = .ok size)
      (allocated : Dispatch.allocatePool memory plan size = .ok pool) :
      Reachable (launch plan mailbox pool now client device)
  | step {a b : Scene σ κ} (h : Reachable a) (hs : Step a b) (honest : b.Honest) : Reachable b

/-! ### Turns -/

omit [StreamClient κ ν] in
/-- What a step from `a` to `b` can do. -/
inductive Turn (a b : Scene σ κ) : Prop where
  /-- Completions arrive, or nothing that matters here happens. -/
  | arrival (posts : List Post) (dispatch : b.dispatch = a.dispatch)
      (inbox : b.task.inbox = a.task.inbox ++ Post.completionsFor a.dispatch.mailbox posts)
      (payloads : b.client.payloads = a.client.payloads)
      (accepted : b.device.accepted = a.device.accepted)
      (posted : b.device.posted = a.device.posted ++ posts) (running : b.Running → a.Running)
  /-- The oldest completion is taken in. -/
  | receive (c : Completion) (running : a.Running) (inbox : a.task.inbox = c :: b.task.inbox)
      (dispatch : b.dispatch = (a.dispatch.receive c a.device).dispatch)
      (payloads : b.client.payloads = a.client.payloads ++
        DispatchOutput.payloads (a.dispatch.receive c a.device).outputs)
      (device : b.device = (a.dispatch.receive c a.device).device)
      (fault : b.Running → (a.dispatch.receive c a.device).fault = none)
  /-- The transfers at hand are submitted again. -/
  | retry (running : a.Running) (inbox : b.task.inbox = a.task.inbox)
      (dispatch : b.dispatch = (a.dispatch.refill a.device).dispatch)
      (payloads : b.client.payloads = a.client.payloads ++
        DispatchOutput.payloads (a.dispatch.refill a.device).outputs)
      (device : b.device = (a.dispatch.refill a.device).device)
      (fault : b.Running → (a.dispatch.refill a.device).fault = none)
  /-- The oldest completion is taken in by a task that winds down. -/
  | reclaim (c : Completion) (inbox : a.task.inbox = c :: b.task.inbox)
      (dispatch : b.dispatch = a.dispatch.reclaim c)
      (payloads : b.client.payloads = a.client.payloads) (device : b.device = a.device)
      (running : ¬ b.Running)

omit [StreamClient κ ν] in
/-- A turn in which nothing arrives. -/
theorem Turn.quiet {a b : Scene σ κ} (dispatch : b.dispatch = a.dispatch)
    (inbox : b.task.inbox = a.task.inbox) (payloads : b.client.payloads = a.client.payloads)
    (device : b.device = a.device) (running : b.Running → a.Running) : Turn a b :=
  .arrival [] dispatch (by simp [inbox, Post.completionsFor]) payloads (by rw [device])
    (by simp [device]) running

/-- Asking for transfers back adds posts to the books and nothing else. -/
theorem cancelAll_books (d : Dispatch) (l : Ledger σ) :
    (d.cancelAll l).2.accepted = l.accepted ∧
      (d.cancelAll l).2.posted = l.posted ++ (d.cancelAll l).1 := by
  have hgo : ∀ (ids : List Nat) (l : Ledger σ),
      (Dispatch.cancelAll.go d ids l).2.accepted = l.accepted ∧
        (Dispatch.cancelAll.go d ids l).2.posted = l.posted ++ (Dispatch.cancelAll.go d ids l).1 := by
    intro ids
    induction ids with
    | nil => intro l; exact ⟨rfl, (List.append_nil _).symm⟩
    | cons id ids ih =>
      intro l
      obtain ⟨haccepted, hposted⟩ := ih (Transport.cancel d.plan.endpoint id l).2.2
      refine ⟨haccepted, ?_⟩
      show (Dispatch.cancelAll.go d ids (Transport.cancel d.plan.endpoint id l).2.2).2.posted = _
      rw [hposted]
      exact List.append_assoc _ _ _
  exact hgo d.inFlight.toList l

omit [Transport σ] in
/-- What following a step of the dispatch leads to; the task runs on only if there was no fault. -/
theorem follow_spec (t : DispatchTask) (now : Nat) (client : Transcribed κ) (mayClose : Bool)
    (s : DispatchStep (Ledger σ)) :
    let after := t.follow (ν := ν) now client mayClose s
    after.task.dispatch = s.dispatch ∧ after.task.inbox = t.inbox ∧ after.device = s.device ∧
      after.client.payloads = client.payloads ++ DispatchOutput.payloads s.outputs ∧
        (after.task.phase.isRunning = true → s.fault = none) := by
  refine ⟨rfl, rfl, rfl, Transcribed.payloads_relay client s.outputs, ?_⟩
  intro hrunning
  cases hfault : s.fault with
  | none => rfl
  | some fault => simp [DispatchTask.follow, hfault, DispatchPhase.isRunning] at hrunning

omit [Transport σ] in
/-- The end of a task changes nothing that matters here. -/
theorem conclude_spec (t : DispatchTask) (fault : Option StreamFault) (before : List (Effect ν))
    (client : Transcribed κ) (l : Ledger σ) :
    let after := t.conclude fault before client l
    after.task.dispatch = t.dispatch ∧ after.task.inbox = t.inbox ∧ after.device = l ∧
      after.client.payloads = client.payloads ∧ ¬ after.task.phase.isRunning = true := by
  cases fault with
  | none => exact ⟨rfl, rfl, rfl, rfl, Bool.false_ne_true⟩
  | some fault =>
    exact ⟨rfl, rfl, rfl, Transcribed.payloads_fault (ν := ν) client fault, Bool.false_ne_true⟩

/-- A step of the task is a turn. -/
theorem turn_of_task {a : Scene σ κ} {now : Nat} {s : TaskStep (Ledger σ) (Transcribed κ) ν}
    (h : a.task.step now a.client a.device = some s) :
    Turn a { task := s.task, client := s.client, device := s.device } := by
  unfold DispatchTask.step at h
  cases hp : a.task.phase with
  | ended => simp [hp] at h
  | running since =>
    have hrunning : a.Running := by simp [Running, hp, DispatchPhase.isRunning]
    simp only [hp] at h
    split at h
    · cases h
      exact .quiet rfl rfl rfl rfl fun _ => hrunning
    · split at h
      next c inbox hinbox =>
        cases h
        obtain ⟨hdispatch, -, hdevice, hpayloads, hfault⟩ :=
          follow_spec { a.task with inbox, phase := .running since } now a.client true
            (a.dispatch.receive c a.device)
        exact .receive c hrunning hinbox hdispatch hpayloads hdevice hfault
      next hinbox =>
        split at h
        · cases h
        · cases h
          obtain ⟨hdispatch, hbox, hdevice, hpayloads, hfault⟩ :=
            follow_spec a.task now a.client false (a.dispatch.refill a.device)
          exact .retry hrunning hbox hdispatch hpayloads hdevice hfault
  | leaving fault =>
    simp only [hp] at h
    cases h
    obtain ⟨haccepted, hposted⟩ := cancelAll_books a.dispatch a.device
    refine .arrival (a.dispatch.cancelAll a.device).1 rfl ?_ rfl haccepted hposted (fun h => nomatch h)
    simp [Post.completionsFor, List.partition_eq_filter_filter]
  | draining deadline fault =>
    simp only [hp] at h
    split at h
    · cases h
      obtain ⟨hdispatch, hbox, hdevice, hpayloads, hphase⟩ :=
        conclude_spec a.task fault [] a.client a.device
      exact .quiet hdispatch hbox hpayloads hdevice fun hrunning => absurd hrunning hphase
    · split at h
      next c inbox hinbox =>
        cases h
        exact .reclaim c hinbox rfl rfl rfl Bool.false_ne_true
      next hinbox =>
        split at h
        · cases h
        · cases h
          obtain ⟨hdispatch, hbox, hdevice, hpayloads, hphase⟩ :=
            conclude_spec (ν := ν) a.task fault _ a.client a.device
          exact .quiet hdispatch hbox hpayloads hdevice fun hrunning => absurd hrunning hphase

/-- Every step is a turn. -/
theorem Step.turn {a b : Scene σ κ} (h : Step a b) : Turn a b := by
  cases h with
  | run now =>
    unfold next
    split
    · next t h => exact turn_of_task h
    · exact .quiet rfl rfl rfl rfl id
  | act device posts => exact .arrival posts rfl rfl rfl rfl rfl id
  | client client => exact .quiet rfl rfl rfl rfl id
  | stop => exact .quiet rfl rfl rfl rfl id

/-! ### A short run -/

instance (s : Scene σ κ) : Decidable s.Honest :=
  inferInstanceAs (Decidable (List.Subperm _ _))

instance (s : Scene σ κ) : Decidable s.Running := inferInstanceAs (Decidable (_ = true))

/-- Three transfers. The second completes first, the first then stalls while a submission is refused,
and in the end the fourth overtakes the third. -/
def overtaken : Scene ScriptedTransport Recorder :=
  let plan : TransferPlan :=
    { endpoint := 0x81, kind := .bulk, packetSize := 4, packetsPerRequest := 1, requestCount := 3
      cancelTimeout := 500 }
  let pool := List.replicate 3 (Transfer.bulk 0x81 (Buffer.zeroed 4))
  let complete (s : Scene ScriptedTransport Recorder) (n : Nat) (status : TransferStatus)
      (data : Bytes) : Scene ScriptedTransport Recorder :=
    let completed := s.device.device.completeNth n status fun t => (t.fillBulk data).2
    s.act completed.2.2 completed.2.1
  let s := launch plan 0 pool 0 { name := 0 } {}
  let s := (complete s 1 .completed [7, 8]).next 1
  let s := s.act { s.device.device with submitScript := [some .busy] } []
  let s := (complete s 0 .stall []).next 2
  (complete s 1 .completed [9]).next 3

/-- The contract is kept all the way. -/
theorem reachable_overtaken : Reachable overtaken := by
  refine .step (.step (.step (.step (.step (.step (.step
    (@Reachable.launch _ _ _ _ _ 4 (.ofSize 240) _ _ _ _ _ _ ?_ ?_) (.act _ _ _) ?_) (.run _ _) ?_)
    (.act _ _ _) ?_) (.act _ _ _) ?_) (.run _ _) ?_) (.act _ _ _) ?_) (.run _ _) ?_
  · rfl
  · rfl
  all_goals decide +kernel

end Scene

end UsbVideo
