import UsbVideo.Proofs.Dispatch.Reclaim
import UsbVideo.Proofs.Engine.Meanwhile
import UsbVideo.Proofs.Engine.Waiting

/-!
# Starting a scheduler

Whoever starts a scheduler has all of it or nothing:

    sizes ──uncountable──▶ refused         claim ──taken──▶ refused        buffers ──none──▶ refused
    pool  ──accepted──▶ running
      └──refused──▶ leaving ──ask back──▶ draining ──all back, or time is up──▶ ended, claim released

The first three leave the world as it was. After a refused submission a task takes back those before
it, and the caller waits for its end, while anything may happen (`World.Starts`). `Becomes` says what a
step of the world makes of one task that is there, and `Unwinds` is what holds of the task that takes
transfers back, from the refusal to its end.

All transfers are back when the task has ended in time. A bus stack that does not return them in time
keeps them, and the claim is released nevertheless.
-/

namespace UsbVideo

/-! ### Submitting a pool -/

namespace Dispatch

variable {τ : Type} [Transport τ]

/-- A pool of equal transfers is accepted one after the other, up to the first refusal. -/
theorem submitPool_replicate (d : Dispatch) (l : Ledger (Overheard τ)) (transfer : Transfer)
    (count : Nat) :
    let r := d.submitPool l (List.replicate count transfer)
    ∃ n l', Submitted n d r.2.1 l r.2.2 ∧
      l.Heard ((List.range' d.nextId n).map fun id => .submit d.mailbox id true) l' ∧
      l'.accepted = l.accepted ++
        ((List.range' d.nextId n).map transfer.prepare).map (d.mailbox, ·) ∧
      (r.1 = none ∧ n = count ∧ r.2.2 = l' ∨
        ∃ refusal, n < count ∧ r.1 = some refusal.error ∧
          Transport.submit d.mailbox (transfer.prepare (d.nextId + n)) l' =
            (.error refusal, r.2.2)) := by
  induction count generalizing d l with
  | zero =>
    exact ⟨0, l, .none rfl rfl rfl rfl rfl, .refl l, (List.append_nil _).symm, .inl ⟨rfl, rfl, rfl⟩⟩
  | succ count ih =>
    rw [List.replicate_succ, submitPool]
    rcases hsubmit : d.submit transfer l with ⟨_ | refusal, d', l'⟩
    · obtain ⟨hone, -⟩ := submit_accepted hsubmit
      obtain ⟨hgranted, hfirst⟩ := submit_granted hsubmit
      obtain ⟨n, l'', hsubmitted, hheard, haccepted, hend⟩ := ih d' l'
      rw [hone.mailbox, hone.nextId] at hheard haccepted hend
      refine ⟨n + 1, l'', Nat.add_comm 1 n ▸ hone.trans hsubmitted, ?_, ?_, ?_⟩
      · rw [List.range'_succ]
        exact hgranted.trans hheard
      · rw [haccepted, hfirst, List.range'_succ, List.append_assoc]
        rfl
      · rw [Nat.add_assoc, Nat.add_comm 1 n] at hend
        rcases hend with ⟨hnone, rfl, hdevice⟩ | ⟨refusal, hlt, hsome, hrefused⟩
        · exact .inl ⟨hnone, rfl, hdevice⟩
        · exact .inr ⟨refusal, Nat.succ_lt_succ hlt, hsome, hrefused⟩
    · obtain ⟨rfl, haccepted, hposted⟩ := submit_refused hsubmit
      exact ⟨0, l, .none rfl rfl rfl haccepted hposted, .refl l, (List.append_nil _).symm,
        .inr ⟨refusal, Nat.succ_pos count, rfl, (submit_eq_some hsubmit).2⟩⟩

/-- Transfers 1 to `n` of the pool of a plan were accepted, their buffers zeroed, and the bus stack was
asked for nothing else. -/
structure Pooled (plan : TransferPlan) (mailbox : Mailbox) (n : Nat) (l l' : Ledger (Overheard τ)) :
    Prop where
  heard : l.Heard ((List.range' 1 n).map fun id => .submit mailbox id true) l'
  accepted : ∃ transfers : List Transfer, l'.accepted = l.accepted ++ transfers.map (mailbox, ·) ∧
    transfers.map (·.id) = List.range' 1 n ∧
      ∀ t ∈ transfers, t.endpoint = plan.endpoint ∧ t.kind = plan.kind ∧
        t.buffer = Buffer.zeroed (plan.packetSize * plan.packetsPerRequest)

/-- The pool of a plan is submitted under the numbers from 1 on, up to the first refusal. -/
theorem submitPool_pooled {memory : Memory} {plan : TransferPlan} {size : Nat} {pool : List Transfer}
    (shape : poolShape plan = .ok size) (allocated : allocatePool memory plan size = .ok pool)
    (mailbox : Mailbox) (l : Ledger (Overheard τ)) :
    let r := ({ plan, mailbox } : Dispatch).submitPool l pool
    ∃ n l', Submitted n { plan, mailbox } r.2.1 l r.2.2 ∧ Pooled plan mailbox n l l' ∧
      (r.1 = none ∧ n = plan.requestCount ∧ r.2.2 = l' ∨
        ∃ transfer refusal, n < plan.requestCount ∧ r.1 = some refusal.error ∧
          transfer.id = n + 1 ∧ Transport.submit mailbox transfer l' = (.error refusal, r.2.2)) := by
  obtain ⟨-, rfl⟩ := poolShape_eq_ok.mp shape
  obtain rfl := allocatePool_eq allocated
  obtain ⟨n, l', hsubmitted, hheard, haccepted, hend⟩ := submitPool_replicate { plan, mailbox } l
    (blank plan (plan.packetSize * plan.packetsPerRequest)) plan.requestCount
  refine ⟨n, l', hsubmitted, ⟨hheard, _, haccepted, ?_, ?_⟩, ?_⟩
  · rw [List.map_map]
    exact List.map_id _
  · intro t ht
    obtain ⟨id, -, rfl⟩ := List.mem_map.mp ht
    unfold blank
    cases plan.kind with
    | isochronous => exact ⟨rfl, rfl, rfl⟩
    | bulk => exact ⟨rfl, rfl, rfl⟩
  · rcases hend with hall | ⟨refusal, hlt, hsome, hrefused⟩
    · exact .inl hall
    · exact .inr ⟨_, refusal, hlt, hsome, Nat.add_comm 1 n, hrefused⟩

end Dispatch

/-! ### Taking back -/

namespace DispatchTask

section

variable {σ κ ν : Type} {ids : List Nat} {t : DispatchTask} {l : Ledger σ}

/-- Whatever of these transfers is not in flight any more came back. -/
structure Returns (ids : List Nat) (t : DispatchTask) (l : Ledger σ) : Prop where
  posted : ∀ c ∈ t.inbox, c ∈ l.postedTo t.dispatch.mailbox
  returned : ∀ id ∈ ids, id ∈ t.dispatch.inFlight.toList ∨
    id ∈ (l.postedTo t.dispatch.mailbox).map (·.transfer.id)

/-- What came back stays so, and what arrives was posted. -/
theorem Returns.arrive {t' : DispatchTask} {l' : Ledger σ} {posts : List Post} (h : Returns ids t l)
    (dispatch : t'.dispatch = t.dispatch)
    (inbox : ∀ c ∈ t'.inbox, c ∈ t.inbox ∨ c ∈ Post.completionsFor t.dispatch.mailbox posts)
    (posted : l'.posted = l.posted ++ posts) : Returns ids t' l' := by
  have hmore : l'.postedTo t.dispatch.mailbox =
      l.postedTo t.dispatch.mailbox ++ Post.completionsFor t.dispatch.mailbox posts := by
    rw [Ledger.postedTo, posted, Post.completionsFor_append, Ledger.postedTo]
  constructor
  · intro c hc
    rw [dispatch, hmore, List.mem_append]
    exact (inbox c hc).imp_left (h.posted c)
  · intro id hid
    rw [dispatch, hmore, List.map_append, List.mem_append]
    exact (h.returned id hid).imp_right .inl

variable [Transport σ] [StreamClient κ ν] {now : Nat} {client : κ} {s : TaskStep (Ledger σ) κ ν}

/-- A task that winds down gives up no transfer that did not come back. -/
theorem Returns.step (h : Returns ids t l) (hstep : t.step now client l = some s)
    (winds : t.phase.rank ≤ 2) : Returns ids s.task s.device := by
  cases step_move hstep with
  | stop since phase | receive since c inbox phase | retry since phase =>
    rw [phase] at winds
    exact absurd winds (Nat.not_succ_le_self 2)
  | leave fault phase =>
    obtain ⟨-, hposted⟩ := Scene.cancelAll_books t.dispatch l
    exact h.arrive rfl (fun c hc => List.mem_append.mp hc) hposted
  | reclaim deadline fault c inbox phase arrived =>
    have hback : c ∈ l.postedTo t.dispatch.mailbox := h.posted c (arrived ▸ List.mem_cons_self)
    constructor
    · intro c' hc'
      exact h.posted c' (arrived ▸ List.mem_cons_of_mem c hc')
    · intro id hid
      by_cases heq : id = c.transfer.id
      · exact .inr (heq ▸ List.mem_map_of_mem hback)
      · apply (h.returned id hid).imp_left
        intro hflies
        show id ∈ (t.dispatch.reclaim c).inFlight.toList
        rw [Dispatch.reclaim, Lineup.toList_eraseP]
        exact (List.mem_eraseP_of_neg (by simpa using heq)).mpr hflies
  | finish deadline fault before phase =>
    rw [conclude_task, conclude_device]
    exact ⟨h.posted, h.returned⟩

/-- While it drains a task takes in what comes back. It ends with no transfer in flight, or at its
deadline. -/
theorem step_draining {deadline : Nat} {fault : Option StreamFault}
    (hstep : t.step now client l = some s) (phase : t.phase = .draining deadline fault) :
    s.task.phase = .draining deadline fault ∨
      s.task.phase = .ended ∧ (s.task.dispatch.inFlight.toList = [] ∨ deadline ≤ now) := by
  have hended := (step_books hstep).ended
  cases step_move hstep with
  | stop since running | receive since c inbox running | retry since running =>
    rw [phase] at running
    cases running
  | leave fault leaving =>
    rw [phase] at leaving
    cases leaving
  | reclaim => exact .inl phase
  | finish =>
    refine .inr ⟨by rw [conclude_task], ?_⟩
    refine (hended (by rw [conclude_task]; rfl)).imp_right fun ⟨_, _, hphase, hlate, _⟩ => ?_
    rw [phase] at hphase
    cases hphase
    exact hlate

end

/-- A task that leaves asks for each of its transfers back, once and in order. -/
theorem step_leaving {τ κ ν : Type} [Transport τ] [StreamClient κ ν] {t : DispatchTask} {now : Nat}
    {client : κ} {l : Ledger (Overheard τ)} {s : TaskStep (Ledger (Overheard τ)) κ ν}
    {fault : Option StreamFault} (hstep : t.step now client l = some s)
    (phase : t.phase = .leaving fault) :
    s.task.phase = .draining (now + t.dispatch.plan.cancelTimeout) fault ∧
      ∃ asked, l.Heard asked s.device ∧ asked.map Asked.recall? =
        t.dispatch.inFlight.toList.map fun id => some (t.dispatch.plan.endpoint, id) := by
  cases step_move hstep with
  | leave fault' leaving =>
    rw [phase] at leaving
    cases leaving
    exact ⟨rfl, t.dispatch.cancelAll_heard l⟩
  | stop since other | receive since c inbox other | retry since other
  | reclaim deadline fault c inbox other | finish deadline fault before other =>
    rw [phase] at other
    cases other

end DispatchTask

namespace World

/-! ### Starting -/

section

variable {σ κ ν : Type} [Transport σ] [StreamClient κ ν] {w : World (Ledger σ) κ ν}

/-- A call to start a scheduler: it fails at once, or yields a scheduler, or a submission is refused and
the caller waits until the task that takes back the others has ended. -/
inductive Starts (w : World (Ledger σ) κ ν) (client : Nat) (plan : TransferPlan) :
    Except StartError Mailbox → World (Ledger σ) κ ν → Prop where
  | denied {error : StartError} {w' : World (Ledger σ) κ ν}
      (tried : w.tryStart client plan = (.error error, w')) : Starts w client plan (.error error) w'
  | running {mailbox : Mailbox} {w' : World (Ledger σ) κ ν}
      (tried : w.tryStart client plan = (.ok (mailbox, none), w')) :
      Starts w client plan (.ok mailbox) w'
  | undone {mailbox : Mailbox} {error : TransportError} {w₁ w' : World (Ledger σ) κ ν}
      (tried : w.tryStart client plan = (.ok (mailbox, some error), w₁)) (meanwhile : Meanwhile w₁ w')
      (ended : w'.hasEnded mailbox = true) : Starts w client plan (.error (.transport error)) w'

/-- The call itself, with nobody else around. -/
theorem starts_start (served : w.Served) {client : Nat} (there : client < w.clients.length)
    (plan : TransferPlan) :
    Starts w client plan (w.start client plan).1 (w.start client plan).2 ∧
      (w.start client plan).2.Served ∧ (w.start client plan).2.nextMailbox ≤ w.nextMailbox + 1 := by
  have hstep : SchedulerStep w .none (w.tryStart client plan).2 := .start client plan there
  have hserved := (hstep.shape served.distinct).served served
  rcases w.tryStart_cases client plan with ⟨error, heq⟩ | ⟨claims, size, pool, -, heq⟩
  · simp only [start, heq]
    exact ⟨.denied heq, served, Nat.le_succ _⟩
  · obtain ⟨refused, t, ready, trace, -, -, hmailbox, -, -, -, hwinding, hlaunch⟩ :=
      { w with claims }.launch_eq client _ plan size pool
    rw [hlaunch] at heq
    rw [heq] at hserved
    cases refused with
    | none =>
      simp only [start, heq]
      exact ⟨.running heq, hserved, Nat.le_refl _⟩
    | some error =>
      have ht : t ∈ w.tasks ++ [t] := List.mem_append_right _ (List.mem_singleton_self t)
      -- It is woken once and then waited for, which is the background at work.
      have hended := awaitEnd_runTask_ended hserved ht (hwinding rfl)
      have hrun := Background.runTask hserved t.mailbox
      have hwait : Background _ _ := hrun.trans (Background.awaitEnd (hrun.served hserved) t.mailbox)
      rw [hmailbox] at hended hwait
      simp only [start, heq]
      exact ⟨.undone heq hwait.meanwhile hended, hwait.served hserved,
        Nat.le_of_eq (hwait.nextMailbox hserved)⟩

end

/-! ### The task of a refused start -/

variable {τ κ ν : Type} [Transport τ] [StreamClient κ ν]
  {w w₁ w' : World (Ledger (Overheard τ)) κ ν}

/-- At this time the task of a mailbox made a step in which it asked for each of these transfers back,
once and in order, and for nothing else. -/
def Recalled (w₁ w : World (Ledger (Overheard τ)) κ ν) (mailbox : Mailbox) (endpoint : UInt8)
    (ids : List Nat) (time : Nat) : Prop :=
  ∃ (u : World (Ledger (Overheard τ)) κ ν) (t : RunningTask) (client : κ)
    (s : TaskStep (Ledger (Overheard τ)) κ ν) (asked : List Asked),
    Meanwhile w₁ u ∧ u.now = time ∧ t ∈ u.tasks ∧ t.mailbox = mailbox ∧
    t.task.step u.now client u.device = some s ∧ u.device.Heard asked s.device ∧
    asked.map Asked.recall? = ids.map (fun id => some (endpoint, id)) ∧
    Meanwhile (u.afterSteps t s) w

theorem Recalled.later {mailbox : Mailbox} {endpoint : UInt8} {ids : List Nat} {time : Nat}
    (h : Recalled w₁ w mailbox endpoint ids time) (hs : SchedulerStep w .none w') :
    Recalled w₁ w' mailbox endpoint ids time := by
  obtain ⟨u, t, client, s, asked, hbefore, hnow, ht, hmailbox, hstep, hheard, hasked, hafter⟩ := h
  exact ⟨u, t, client, s, asked, hbefore, hnow, ht, hmailbox, hstep, hheard, hasked, hafter.tail hs⟩

/-- How far a task has come that takes back the transfers of a dispatch. -/
inductive Unwinds (w₁ : World (Ledger (Overheard τ)) κ ν) (d : Dispatch)
    (w : World (Ledger (Overheard τ)) κ ν) (t : DispatchTask) : Prop where
  | leaving (phase : t.phase = .leaving none) (dispatch : t.dispatch = d)
  | draining (time : Nat) (recalled : Recalled w₁ w d.mailbox d.plan.endpoint d.inFlight.toList time)
      (phase : t.phase = .draining (time + d.plan.cancelTimeout) none)
  | ended (time : Nat) (recalled : Recalled w₁ w d.mailbox d.plan.endpoint d.inFlight.toList time)
      (phase : t.phase = .ended)
      (past : t.dispatch.inFlight.toList = [] ∨ time + d.plan.cancelTimeout ≤ w.now)

namespace Unwinds

variable {d : Dispatch} {t t' : DispatchTask}

theorem rank (h : Unwinds w₁ d w t) : t.phase.rank ≤ 2 := by
  cases h with
  | leaving phase =>
    rw [phase]
    exact Nat.le_refl 2
  | draining time recalled phase =>
    rw [phase]
    exact Nat.le_succ 1
  | ended time recalled phase =>
    rw [phase]
    exact Nat.zero_le 2

/-- Something else happens. -/
theorem other (h : Unwinds w₁ d w t) (hs : SchedulerStep w .none w') (distinct : Distinct w.tasks)
    (phase : t'.phase = t.phase) (dispatch : t'.dispatch = t.dispatch) : Unwinds w₁ d w' t' := by
  have hnow := (hs.shape distinct).now_le distinct
  cases h with
  | leaving before same => exact .leaving (phase.trans before) (dispatch.trans same)
  | draining time recalled before => exact .draining time (recalled.later hs) (phase.trans before)
  | ended time recalled before past =>
    refine .ended time (recalled.later hs) (phase.trans before) ?_
    rw [dispatch]
    exact past.imp_right fun hlate => Nat.le_trans hlate hnow

/-- The task itself makes a step. -/
theorem step {u : RunningTask} (h : Unwinds w₁ d w u.task) (elapsed : Meanwhile w₁ w)
    (distinct : Distinct w.tasks) (hu : u ∈ w.tasks) {client : κ}
    {s : TaskStep (Ledger (Overheard τ)) κ ν}
    (hstep : u.task.step w.now client w.device = some s)
    (hs : SchedulerStep w .none (w.afterSteps u s)) : Unwinds w₁ d (w.afterSteps u s) s.task := by
  cases h with
  | leaving phase dispatch =>
    obtain ⟨hphase, asked, hheard, hrecalled⟩ := DispatchTask.step_leaving hstep phase
    rw [dispatch] at hphase hrecalled
    have hmailbox : u.mailbox = d.mailbox := congrArg Dispatch.mailbox dispatch
    exact .draining w.now ⟨w, u, client, s, asked, elapsed, rfl, hu, hmailbox, hstep, hheard, hrecalled,
      .refl⟩ hphase
  | draining time recalled phase =>
    rcases DispatchTask.step_draining hstep phase with hphase | ⟨hphase, hover⟩
    · exact .draining time (recalled.later hs) hphase
    · obtain ⟨ready, heq⟩ := afterSteps_eq distinct hu (DispatchTask.step_books hstep).mailbox
      refine .ended time (recalled.later hs) hphase ?_
      rwa [heq]
  | ended time recalled phase =>
    have hgoes := DispatchTask.goes_of_step hstep
    rw [DispatchTask.isEnded_iff.mpr phase] at hgoes
    cases hgoes

/-- Whatever happens, the task of a refused start is there and takes its transfers back. -/
theorem meanwhile (h : Unwinds w₁ d w₁ t) (elapsed : Meanwhile w₁ w) (served : w₁.Served)
    {u : RunningTask} (there : u ∈ w₁.tasks) (task : u.task = t) {ids : List Nat}
    (returns : t.Returns ids w₁.device) :
    ∃ v ∈ w.tasks, v.mailbox = u.mailbox ∧ Unwinds w₁ d w v.task ∧ v.task.Returns ids w.device := by
  subst task
  -- By induction on what happens: each step is one of the task, or leaves it as it is.
  induction elapsed with
  | refl => exact ⟨u, there, rfl, h, returns⟩
  | @tail a b helapsed hs ih =>
    obtain ⟨v, hv, hmailbox, hunwinds, hreturns⟩ := ih
    have hserved := Meanwhile.served helapsed served
    obtain ⟨v', hv', hbecomes⟩ := hs.becomes hserved hv
    refine ⟨v', hv', ?_⟩
    cases hbecomes with
    | kept posts kept inbox posted =>
      exact ⟨kept.mailbox.trans hmailbox, hunwinds.other hs hserved.distinct kept.phase kept.dispatch,
        hreturns.arrive kept.dispatch inbox posted⟩
    | @stepped client s step after =>
      subst after
      have hbooks := DispatchTask.step_books step
      obtain ⟨ready, heq⟩ := afterSteps_eq hserved.distinct hv hbooks.mailbox
      have hdevice : (a.afterSteps v s).device = s.device := by rw [heq]
      rw [hdevice]
      exact ⟨hbooks.mailbox.trans hmailbox, hunwinds.step helapsed hserved.distinct hv step hs,
        hreturns.step step hunwinds.rank⟩

end Unwinds

/-! ### All or nothing -/

/-- A scheduler was started: all transfers of its pool are in flight, and it has the claim. -/
structure Underway (w : World (Ledger (Overheard τ)) κ ν) (client : Nat) (plan : TransferPlan)
    (w' : World (Ledger (Overheard τ)) κ ν) : Prop where
  pooled : Dispatch.Pooled plan w.nextMailbox plan.requestCount w.device w'.device
  claims : w'.claims.held =
    .endpoint (Transport.deviceId w.device) plan.endpoint :: w.claims.held
  task : ∃ t, w'.tasks = w.tasks ++ [t] ∧ t.client = client ∧ t.mailbox = w.nextMailbox ∧
    t.claim = .endpoint (Transport.deviceId w.device) plan.endpoint ∧
    t.task.phase = .running w.now ∧
    t.task.dispatch.inFlight.toList = List.range' 1 plan.requestCount

/-- A start was undone. `n` transfers of its pool were accepted, and the next was refused with this
error. -/
structure Undone (w : World (Ledger (Overheard τ)) κ ν) (plan : TransferPlan) (n : Nat)
    (error : TransportError) (w₁ w' : World (Ledger (Overheard τ)) κ ν) : Prop where
  few : n < plan.requestCount
  refused : ∃ l transfer refusal, Dispatch.Pooled plan w.nextMailbox n w.device l ∧
    transfer.id = n + 1 ∧
    Transport.submit w.nextMailbox transfer l = (.error refusal, w₁.device) ∧ refusal.error = error
  /-- They were asked back, and all of them came back or the time for it is over. -/
  recalled : ∃ time, Recalled w₁ w' w.nextMailbox plan.endpoint (List.range' 1 n) time ∧
    ((∀ id ∈ List.range' 1 n, id ∈ (w'.device.postedTo w.nextMailbox).map (·.transfer.id)) ∨
      time + plan.cancelTimeout ≤ w'.now)
  /-- The claim is free, or somebody who started since has it. -/
  released : .endpoint (Transport.deviceId w.device) plan.endpoint ∈ w'.claims.held →
    ∃ t ∈ w'.tasks, t.task.isEnded = false ∧
      t.claim = .endpoint (Transport.deviceId w.device) plan.endpoint ∧ w.nextMailbox < t.mailbox

section

variable {client : Nat} {plan : TransferPlan} {size : Nat} {pool : List Transfer}
  {mailbox : Mailbox} {error : TransportError}

omit [StreamClient κ ν] in
/-- With a plan that can be counted, a free claim and its buffers, whoever starts a scheduler submits
the pool. -/
theorem tryStart_free (client : Nat) (shape : Dispatch.poolShape plan = .ok size)
    (free : .endpoint (Transport.deviceId w.device) plan.endpoint ∉ w.claims.held)
    (allocated : Dispatch.allocatePool w.memory plan size = .ok pool) {refused : Option TransportError}
    {dispatch : Dispatch} {device : Ledger (Overheard τ)}
    (submitted : ({ plan, mailbox := w.nextMailbox } : Dispatch).submitPool w.device pool =
      (refused, dispatch, device)) :
    let key := ClaimKey.endpoint (Transport.deviceId w.device) plan.endpoint
    let phase := if refused.isSome then .leaving none else .running w.now
    ∃ ready trace, w.tryStart client plan =
      (.ok (w.nextMailbox, refused),
        { w with
          device
          claims := { held := key :: w.claims.held }
          nextMailbox := w.nextMailbox + 1
          tasks := w.tasks ++ [{ task := { dispatch, phase }, client, claim := key }]
          ready
          trace }) := by
  intro key phase
  obtain ⟨ready, trace, hlaunch⟩ :=
    { w with claims := { held := key :: w.claims.held } }.launch_submitted client key plan size submitted
  refine ⟨ready, trace, ?_⟩
  unfold tryStart ClaimRegistry.acquire
  rw [shape]
  simp only [free, if_false, allocated]
  rw [hlaunch]

omit [StreamClient κ ν] in
theorem tryStart_underway (shape : Dispatch.poolShape plan = .ok size)
    (free : .endpoint (Transport.deviceId w.device) plan.endpoint ∉ w.claims.held)
    (allocated : Dispatch.allocatePool w.memory plan size = .ok pool)
    (tried : w.tryStart client plan = (.ok (mailbox, none), w')) :
    mailbox = w.nextMailbox ∧ Underway w client plan w' := by
  obtain ⟨n, l, hsubmitted, hpooled, hend⟩ :=
    Dispatch.submitPool_pooled shape allocated w.nextMailbox w.device
  rcases hsubmit : ({ plan, mailbox := w.nextMailbox } : Dispatch).submitPool w.device pool with
    ⟨refused, dispatch, device⟩
  obtain ⟨ready, trace, hstart⟩ := tryStart_free client shape free allocated hsubmit
  rw [hstart] at tried
  cases tried
  rw [hsubmit] at hsubmitted hend
  rcases hend with ⟨-, rfl, rfl⟩ | ⟨transfer, refusal, -, hsome, -⟩
  · exact ⟨rfl, hpooled, rfl, _, rfl, rfl, hsubmitted.mailbox, rfl, rfl, hsubmitted.inFlight⟩
  · cases hsome

/-- Whatever happens until the task has ended that takes back what was accepted, the start is undone. -/
theorem tryStart_undone (served : w.Served) (there : client < w.clients.length) {rest : List ClaimKey}
    (records : w.claims.Records (liveClaims w.tasks ++ rest))
    (shape : Dispatch.poolShape plan = .ok size)
    (free : .endpoint (Transport.deviceId w.device) plan.endpoint ∉ w.claims.held)
    (allocated : Dispatch.allocatePool w.memory plan size = .ok pool)
    (tried : w.tryStart client plan = (.ok (mailbox, some error), w₁)) (elapsed : Meanwhile w₁ w')
    (ended : w'.hasEnded mailbox = true) : ∃ n, Undone w plan n error w₁ w' := by
  have hstart : SchedulerStep w .none w₁ := by
    have hstep : SchedulerStep w .none (w.tryStart client plan).2 := .start client plan there
    rwa [tried] at hstep
  have hshape := hstart.shape served.distinct
  have hserved := hshape.served served
  obtain ⟨n, l, hsubmitted, hpooled, hend⟩ :=
    Dispatch.submitPool_pooled shape allocated w.nextMailbox w.device
  rcases hsubmit : ({ plan, mailbox := w.nextMailbox } : Dispatch).submitPool w.device pool with
    ⟨refused, dispatch, device⟩
  rw [hsubmit] at hsubmitted hend
  obtain ⟨ready, trace, heq⟩ := tryStart_free client shape free allocated hsubmit
  rw [heq] at tried
  cases tried
  rcases hend with ⟨hnone, -, -⟩ | ⟨transfer, refusal, hfew, hsome, hnext, hrefused⟩
  · cases hnone
  cases hsome
  have hplan : dispatch.plan = plan := hsubmitted.plan
  have hflight : dispatch.inFlight.toList = List.range' 1 n := hsubmitted.inFlight
  -- The task leaves with what was accepted, and at the end it is there and has ended.
  have hleaves : DispatchTask.Returns (List.range' 1 n) { dispatch, phase := .leaving none } device :=
    ⟨nofun, fun id hid => .inl (hflight ▸ hid)⟩
  obtain ⟨v, hv, hmailbox, hunwinds, hreturns⟩ :=
    Unwinds.meanwhile (d := dispatch) (.leaving rfl rfl) elapsed hserved
      (List.mem_append_right _ (List.mem_singleton_self _)) rfl hleaves
  have hlast := Meanwhile.served elapsed hserved
  have hself : v.mailbox = w.nextMailbox := hmailbox.trans hsubmitted.mailbox
  have hphase := DispatchTask.isEnded_iff.mp ((hasEnded_iff hlast.distinct).mp ended v hv hself)
  refine ⟨n, hfew, ⟨l, transfer, refusal, hpooled, hnext, hrefused, rfl⟩, ?_, ?_⟩
  · cases hunwinds with
    | leaving before | draining time recalled before =>
      rw [hphase] at before
      cases before
    | ended time recalled _ past =>
      rw [hplan, hflight, show dispatch.mailbox = w.nextMailbox from hsubmitted.mailbox] at recalled
      refine ⟨time, recalled, past.imp ?_ ?_⟩
      · intro hidle id hid
        have hback := (hreturns.returned id hid).resolve_left (by rw [hidle]; exact List.not_mem_nil)
        rwa [show v.task.dispatch.mailbox = w.nextMailbox from hself] at hback
      · intro hlate
        rwa [hplan] at hlate
  · -- Whoever has the claim now has a task, and none from before has it: it was free then.
    intro hheld
    have hrecords := Meanwhile.records elapsed hserved (hshape.records served.distinct records)
    have hold : .endpoint (Transport.deviceId w.device) plan.endpoint ∉ liveClaims w.tasks ++ rest := by
      intro hmem
      exact free (records.perm.mem_iff.mpr hmem)
    have hvacant : Vacant (.endpoint (Transport.deviceId w.device) plan.endpoint) w.nextMailbox w :=
      ⟨Nat.le_refl _, fun t ht hgoes hclaim =>
        absurd (List.mem_append_left _ (mem_liveClaims.mpr ⟨t, ht, hgoes, hclaim⟩)) hold⟩
    rcases List.mem_append.mp (hrecords.perm.mem_iff.mp hheld) with hlive | hrest
    · obtain ⟨t, ht, hgoes, hclaim⟩ := mem_liveClaims.mp hlive
      have hlater := ((hvacant.shape hshape served.distinct).meanwhile elapsed hserved).later t ht
        hgoes hclaim
      refine ⟨t, ht, hgoes, hclaim, Nat.lt_of_le_of_ne hlater fun hsame => ?_⟩
      rw [(hasEnded_iff hlast.distinct).mp ended t ht hsame.symm] at hgoes
      cases hgoes
    · exact absurd (List.mem_append_right _ hrest) hold

/-- All of a start or nothing: an answer for each state of sizes, claim, buffers and submissions. -/
structure AllOrNothing (w : World (Ledger (Overheard τ)) κ ν) (client : Nat) (plan : TransferPlan)
    (answer : Except StartError Mailbox) (w' : World (Ledger (Overheard τ)) κ ν) : Prop where
  uncountable : ¬ plan.Countable →
    ∃ failure, Dispatch.poolShape plan = .error failure ∧
      answer = .error (.allocationFailure failure) ∧ w' = w
  busy : plan.Countable →
    .endpoint (Transport.deviceId w.device) plan.endpoint ∈ w.claims.held →
      answer = .error (.deviceBusy plan.endpoint) ∧ w' = w
  exhausted : plan.Countable →
    .endpoint (Transport.deviceId w.device) plan.endpoint ∉ w.claims.held →
      ¬ w.memory.Serves plan (plan.packetSize * plan.packetsPerRequest) →
        ∃ failure, Dispatch.allocatePool w.memory plan (plan.packetSize * plan.packetsPerRequest) =
          .error failure ∧ answer = .error (.allocationFailure failure) ∧ w' = w
  free : plan.Countable →
    .endpoint (Transport.deviceId w.device) plan.endpoint ∉ w.claims.held →
      w.memory.Serves plan (plan.packetSize * plan.packetsPerRequest) →
        (answer = .ok w.nextMailbox ∧ Underway w client plan w') ∨
          ∃ n error w₁, answer = .error (.transport error) ∧ Undone w plan n error w₁ w'

/-- Who is turned away at once leaves the world as it was. -/
theorem Starts.of_denied {answer : Except StartError Mailbox} {refusal : StartError}
    (hs : Starts w client plan answer w') (tried : w.tryStart client plan = (.error refusal, w)) :
    answer = .error refusal ∧ w' = w := by
  cases hs with
  | denied denied =>
    rw [tried] at denied
    cases denied
    exact ⟨rfl, rfl⟩
  | running granted | undone granted =>
    rw [tried] at granted
    cases granted

theorem Starts.allOrNothing {answer : Except StartError Mailbox} (hs : Starts w client plan answer w')
    (served : w.Served) (there : client < w.clients.length) {rest : List ClaimKey}
    (records : w.claims.Records (liveClaims w.tasks ++ rest)) : AllOrNothing w client plan answer w' := by
  have hshape : plan.Countable →
      Dispatch.poolShape plan = .ok (plan.packetSize * plan.packetsPerRequest) :=
    fun hcountable => Dispatch.poolShape_eq_ok.mpr ⟨hcountable, rfl⟩
  refine ⟨?_, ?_, ?_, ?_⟩
  · intro huncountable
    cases hpool : Dispatch.poolShape plan with
    | ok size => exact absurd (Dispatch.poolShape_eq_ok.mp hpool).1 huncountable
    | error failure =>
      have htried : w.tryStart client plan = (.error (.allocationFailure failure), w) := by
        rw [tryStart, hpool]
      obtain ⟨hanswer, hsame⟩ := hs.of_denied htried
      exact ⟨failure, rfl, hanswer, hsame⟩
  · intro hcountable hheld
    exact hs.of_denied (w.tryStart_busy client (hshape hcountable) hheld)
  · intro hcountable hfree hexhausted
    cases hpool : Dispatch.allocatePool w.memory plan (plan.packetSize * plan.packetsPerRequest) with
    | ok pool => exact absurd (Dispatch.allocatePool_eq_ok.mp hpool).1 hexhausted
    | error failure =>
      have htried : w.tryStart client plan = (.error (.allocationFailure failure), w) := by
        unfold tryStart ClaimRegistry.acquire
        rw [hshape hcountable]
        simp only [hfree, if_false, hpool]
      obtain ⟨hanswer, hsame⟩ := hs.of_denied htried
      exact ⟨failure, rfl, hanswer, hsame⟩
  · intro hcountable hfree hserves
    have hpool := Dispatch.allocatePool_eq_ok.mpr ⟨hserves, rfl⟩
    cases hs with
    | denied denied =>
      -- The pool is there, so something is submitted.
      rcases hsubmit : ({ plan, mailbox := w.nextMailbox } : Dispatch).submitPool w.device
          (List.replicate plan.requestCount
            (Dispatch.blank plan (plan.packetSize * plan.packetsPerRequest))) with
        ⟨refused, dispatch, device⟩
      obtain ⟨ready, trace, heq⟩ := tryStart_free client (hshape hcountable) hfree hpool hsubmit
      rw [heq] at denied
      cases denied
    | running tried =>
      obtain ⟨rfl, hunderway⟩ := tryStart_underway (hshape hcountable) hfree hpool tried
      exact .inl ⟨rfl, hunderway⟩
    | undone tried elapsed ended =>
      obtain ⟨n, hundone⟩ := tryStart_undone served there records (hshape hcountable) hfree hpool
        tried elapsed ended
      exact .inr ⟨n, _, _, rfl, hundone⟩

end

/-- **Starting a scheduler is all or nothing.** Sizes that cannot be counted are reported before the
claim is looked at, a claim that is taken before a buffer is allocated, and in these cases, and when a
buffer cannot be allocated, the world is as it was. If all transfers of the pool are accepted, numbers
from 1 on and zeroed buffers, the scheduler runs and has the claim. If one is refused, that error is
reported after those accepted before it were asked back, once each, and all of them came back or the time
for it is over; then the claim is released. This holds whatever happens meanwhile, and the call itself
comes to its end. -/
theorem start_all_or_nothing (served : w.Served) {client : Nat} (there : client < w.clients.length)
    {rest : List ClaimKey} (records : w.claims.Records (liveClaims w.tasks ++ rest))
    (plan : TransferPlan) :
    (∀ answer w', Starts w client plan answer w' → AllOrNothing w client plan answer w') ∧
    Starts w client plan (w.start client plan).1 (w.start client plan).2 ∧
    ∀ error, (w.start client plan).1 = .error (.transport error) →
      .endpoint (Transport.deviceId w.device) plan.endpoint ∉ (w.start client plan).2.claims.held := by
  obtain ⟨hstarts, hserved, hnext⟩ := starts_start served there plan
  have hall : ∀ answer w', Starts w client plan answer w' → AllOrNothing w client plan answer w' :=
    fun _ _ hs => hs.allOrNothing served there records
  refine ⟨hall, hstarts, ?_⟩
  intro error hanswer hheld
  have hcase := hall _ _ hstarts
  rw [hanswer] at hcase
  by_cases hcountable : plan.Countable
  · by_cases hbusy : .endpoint (Transport.deviceId w.device) plan.endpoint ∈ w.claims.held
    · cases (hcase.busy hcountable hbusy).1
    · by_cases hserves : w.memory.Serves plan (plan.packetSize * plan.packetsPerRequest)
      · rcases hcase.free hcountable hbusy hserves with ⟨hother, _⟩ | ⟨n, _, w₁, _, hundone⟩
        · cases hother
        · -- Nobody else has started anything since.
          obtain ⟨t, ht, -, -, hlater⟩ := hundone.released hheld
          exact absurd (Nat.lt_of_le_of_lt hlater (hserved.fresh t ht)) (Nat.not_lt.mpr hnext)
      · obtain ⟨_, _, hother, _⟩ := hcase.exhausted hcountable hbusy hserves
        cases hother
  · obtain ⟨_, -, hother, -⟩ := hcase.uncountable hcountable
    cases hother

/-! ### A bus stack that refuses the second transfer -/

/-- Two transfers on endpoint 0x81, and half a second to take them back. -/
def twoRequests : TransferPlan :=
  { endpoint := 0x81, kind := .bulk, packetSize := 4, packetsPerRequest := 1, requestCount := 2
    cancelTimeout := 500 }

/-- A bus stack that accepts one transfer and refuses the next, and a sink. -/
def narrow (cancelMode : CancelMode) : World (Ledger (Overheard ScriptedTransport)) Recorder Recording :=
  { device := { device := { device := { submitScript := [none, some .busy], cancelMode } } }
    clients := [{ name := 0 }] }

theorem served_narrow (cancelMode : CancelMode) : (narrow cancelMode).Served :=
  have hnone : ∀ t, t ∉ (narrow cancelMode).tasks := fun _ => List.not_mem_nil
  ⟨List.nodup_nil, fun t ht => absurd ht (hnone t), fun t ht => absurd ht (hnone t),
    fun t ht => absurd ht (hnone t)⟩

/-- The first transfer is taken back: the start has failed, and the claim is free. -/
theorem start_all_or_nothing_narrow :
    (narrow .honour).Served ∧ 0 < (narrow .honour).clients.length ∧
      (narrow .honour).claims.Records (liveClaims (narrow .honour).tasks ++ []) ∧
      ((narrow .honour).start 0 twoRequests).1 = .error (.transport .busy) ∧
      (∃ n w₁, Undone (narrow .honour) twoRequests n .busy w₁
        ((narrow .honour).start 0 twoRequests).2) ∧
      .endpoint "scripted" 0x81 ∉ ((narrow .honour).start 0 twoRequests).2.claims.held := by
  have hrecords : (narrow .honour).claims.Records (liveClaims (narrow .honour).tasks ++ []) :=
    ⟨.refl [], List.nodup_nil⟩
  have hbusy : ((narrow .honour).start 0 twoRequests).1 = .error (.transport .busy) := rfl
  have hthere : 0 < (narrow .honour).clients.length := Nat.one_pos
  obtain ⟨hall, hstarts, hfree⟩ :=
    start_all_or_nothing (served_narrow .honour) hthere hrecords twoRequests
  have hcountable : twoRequests.Countable := by
    unfold TransferPlan.Countable
    decide
  refine ⟨served_narrow .honour, hthere, hrecords, hbusy, ?_, hfree _ hbusy⟩
  have hcase := hall _ _ hstarts
  rw [hbusy] at hcase
  have hserves : (narrow .honour).memory.Serves twoRequests 4 :=
    ⟨⟨by decide, rfl⟩, fun _ _ => ⟨by decide, rfl⟩⟩
  rcases hcase.free hcountable List.not_mem_nil hserves with ⟨hother, _⟩ | ⟨n, _, w₁, hsame, h⟩
  · cases hother
  · cases hsame
    exact ⟨n, w₁, h⟩

/-! ### A bus stack that keeps the first -/

/-- A task makes one step. -/
def once {σ κ ν : Type} [Transport σ] [StreamClient κ ν] (w : World σ κ ν) (mailbox : Mailbox) :
    World σ κ ν :=
  match w.task? mailbox with
  | none => w
  | some t =>
    match w.clients[t.client]? with
    | none => w
    | some client =>
      match t.task.step w.now client w.device with
      | none => w
      | some s => (w.afterSteps t s).wake (.client t.client)

/-- Where a task can only wait after one step, it makes one step when it runs. -/
theorem runTask_once {σ κ ν : Type} [Transport σ] [StreamClient κ ν] {w : World σ κ ν}
    {mailbox : Mailbox}
    (waits : ((w.task? mailbox).bind fun t => w.clients[t.client]?.bind fun client =>
      (t.task.step w.now client w.device).bind fun s => s.task.step w.now s.client s.device).isNone) :
    w.runTask mailbox = w.once mailbox := by
  unfold runTask once
  cases htask : w.task? mailbox with
  | none => rfl
  | some t =>
    cases there : w.clients[t.client]? with
    | none => simp only [there]
    | some client =>
      cases hstep : t.task.step w.now client w.device with
      | none => simp only [there, hstep, Option.isNone_none, if_true]
      | some s =>
        have hlast : s.task.step w.now s.client s.device = none := by
          simpa [htask, there, hstep] using waits
        simp [there, hstep, DispatchTask.run_of_step hstep, DispatchTask.run_eq_self hlast]

/-- The bus stack takes no notice of the request to give the first transfer back. -/
def askedInVain : World (Ledger (Overheard ScriptedTransport)) Recorder Recording :=
  ((narrow .swallow).tryStart 0 twoRequests).2.once 0

/-- Half a second later the task is awake again, and gives up. -/
def overdue : World (Ledger (Overheard ScriptedTransport)) Recorder Recording :=
  askedInVain.runReady.advanceTo 500

def givenUp : World (Ledger (Overheard ScriptedTransport)) Recorder Recording :=
  ({ overdue with ready := [] }.once 0).runTurns 10

theorem start_narrow : (narrow .swallow).start 0 twoRequests = (.error (.transport .busy), givenUp) := by
  have hasked : ((narrow .swallow).tryStart 0 twoRequests).2.runTask 0 = askedInVain :=
    runTask_once (by decide +kernel)
  have hover : { overdue with ready := [] }.runTask 0 = { overdue with ready := [] }.once 0 :=
    runTask_once (by decide +kernel)
  have hgoes : askedInVain.hasEnded 0 = false ∧ askedInVain.runReady.hasEnded 0 = false ∧
      askedInVain.runReady.nextDue = some 500 := by decide +kernel
  have hready : overdue.enoughTurns = 11 ∧ overdue.ready = [.task 0] := by decide +kernel
  have hended : givenUp.hasEnded 0 = true := by decide +kernel
  have hlast : overdue.runReady = givenUp := by
    rw [runReady, hready.1, runTurns, hready.2]
    show ({ overdue with ready := [] }.runTask 0).runTurns 10 = givenUp
    rw [hover]
    rfl
  have hwait : askedInVain.awaitEnd 0 = overdue.awaitTurns 0 501 := by
    rw [awaitEnd, hgoes.1]
    show askedInVain.awaitTurns 0 502 = _
    rw [awaitTurns, hgoes.2.1, hgoes.2.2]
    rfl
  show (Except.error _, (((narrow .swallow).tryStart 0 twoRequests).2.runTask 0).awaitEnd 0) = _
  rw [hasked, hwait, awaitTurns, hlast, hended]
  rfl

/-- The start has failed and the claim is free, and the bus stack still has the first transfer. -/
theorem start_unreturned_narrow :
    ((narrow .swallow).start 0 twoRequests).1 = .error (.transport .busy) ∧
      ((narrow .swallow).start 0 twoRequests).2.claims.held = [] ∧
      ((narrow .swallow).start 0 twoRequests).2.device.acceptedFor 0 = [1] ∧
      ((narrow .swallow).start 0 twoRequests).2.device.pending 0 = [1] := by
  rw [start_narrow]
  decide +kernel

end World

end UsbVideo
