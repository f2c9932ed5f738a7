import UsbVideo.Proofs.Engine.Step

/-!
# What the parts of a call do

Each part of a call is described by one equation: the world after it is the world before it with these
fields changed. What a part asks of the bus stack besides submissions leaves the accounts alone
(`Ledger.Quiet`), so of the device nothing else needs to be known.
-/

namespace UsbVideo

variable {σ : Type}

/-! ### Requests that concern no transfer -/

/-- Nothing is accepted and nothing posted. -/
structure Ledger.Quiet (l l' : Ledger σ) : Prop where
  accepted : l'.accepted = l.accepted
  posted : l'.posted = l.posted

namespace Ledger.Quiet

variable {l l' l'' : Ledger σ}

protected theorem refl (l : Ledger σ) : Quiet l l := ⟨rfl, rfl⟩

theorem trans (h : Quiet l l') (h' : Quiet l' l'') : Quiet l l'' :=
  ⟨h'.accepted.trans h.accepted, h'.posted.trans h.posted⟩

/-- A request that leaves the books alone, with its answer. -/
theorem of_snd {α : Type} {answer : α} {asked : α × Ledger σ} (h : Quiet l asked.2)
    (heq : asked = (answer, l')) : Quiet l l' := by
  rwa [heq] at h

variable [Transport σ]

theorem readCatalog (l : Ledger σ) : Quiet l (readCatalog l).2 := by
  unfold UsbVideo.readCatalog
  split
  · next e l' hidentity => exact .of_snd ⟨rfl, rfl⟩ hidentity
  · next identity l' hidentity =>
    have hfirst : Quiet l l' := .of_snd ⟨rfl, rfl⟩ hidentity
    split
    · next e l'' hblock => exact hfirst.trans (.of_snd ⟨rfl, rfl⟩ hblock)
    · next block l'' hblock => exact hfirst.trans (.of_snd ⟨rfl, rfl⟩ hblock)

theorem negotiate (interface : UInt8) (uvcVersion : UInt16) (request : ProbeBlock) (timeout : Nat)
    (l : Ledger σ) : Quiet l (negotiate interface uvcVersion request timeout l).2 := by
  unfold UsbVideo.negotiate
  dsimp only
  split
  · next e l' hset => exact .of_snd ⟨rfl, rfl⟩ hset
  · next n l' hset =>
    have hfirst : Quiet l l' := .of_snd ⟨rfl, rfl⟩ hset
    split
    · next e l'' hget => exact hfirst.trans (.of_snd ⟨rfl, rfl⟩ hget)
    · next bytes l'' hget =>
      have hsecond : Quiet l l'' := hfirst.trans (.of_snd ⟨rfl, rfl⟩ hget)
      split
      · exact hsecond
      · split
        · next e l₃ hcommit => exact hsecond.trans (.of_snd ⟨rfl, rfl⟩ hcommit)
        · next n l₃ hcommit => exact hsecond.trans (.of_snd ⟨rfl, rfl⟩ hcommit)

theorem agree (settings : EngineSettings) (request : StreamRequest) (l : Ledger σ) :
    Quiet l (agree settings request l).2 := by
  unfold UsbVideo.agree
  split
  · next e l' hread => exact .of_snd (.readCatalog l) hread
  · next catalog l' hread =>
    have hfirst : Quiet l l' := .of_snd (.readCatalog l) hread
    dsimp only
    split
    · exact hfirst
    · exact hfirst.trans (.negotiate _ _ _ _ l')

end Ledger.Quiet

theorem WorkerMove.onward {move : Pipeline → List (Effect Call) × Pipeline} (worker : WorkerMove move)
    (p : Pipeline) : p.state.Onward (move p).2.state := by
  cases worker with
  | turn => exact p.onward_work
  | take => exact .inl rfl
  | report sequence result => exact p.onward_report sequence result

namespace World

/-! ### Starting a scheduler -/

section Scheduler

variable {κ ν : Type} [Transport σ] (w : World (Ledger σ) κ ν)

/-- A pool that is submitted is left to a task: to run with if all of it was accepted, and else to take
back what was. -/
theorem launch_submitted (client : Nat) (claim : ClaimKey) (plan : TransferPlan) (size : Nat)
    {pool : List Transfer} {refused : Option TransportError} {dispatch : Dispatch} {device : Ledger σ}
    (h : ({ plan, mailbox := w.nextMailbox } : Dispatch).submitPool w.device pool =
      (refused, dispatch, device)) :
    let phase := if refused.isSome then .leaving none else .running w.now
    ∃ ready trace, w.launch client claim plan size pool =
      ((w.nextMailbox, refused),
        { w with
          device
          nextMailbox := w.nextMailbox + 1
          tasks := w.tasks ++ [{ task := { dispatch, phase }, client, claim }]
          ready
          trace }) := by
  unfold launch
  simp only [h]
  cases refused with
  | some error => exact ⟨w.ready, _, rfl⟩
  | none =>
    obtain ⟨ready, hwake⟩ := wake_eq (addTask _ client claim dispatch _) (.task w.nextMailbox)
    dsimp only
    rw [hwake]
    exact ⟨ready, _, rfl⟩

/-- A pool that is launched was claimed and submitted, and a task goes on with it. -/
theorem launch_eq (client : Nat) (claim : ClaimKey) (plan : TransferPlan) (size : Nat)
    (pool : List Transfer) :
    let submitted := ({ plan, mailbox := w.nextMailbox } : Dispatch).submitPool w.device pool
    ∃ refused t ready trace, t.client = client ∧ t.claim = claim ∧ t.mailbox = w.nextMailbox ∧
      2 ≤ t.task.phase.rank ∧ t.task.inbox = [] ∧ t.task.dispatch = submitted.2.1 ∧
        (refused.isSome → t.task.Winding) ∧
          w.launch client claim plan size pool =
            ((w.nextMailbox, refused),
              { w with
                device := submitted.2.2
                nextMailbox := w.nextMailbox + 1
                tasks := w.tasks ++ [t]
                ready
                trace }) := by
  intro submitted
  have hsubmit : ({ plan, mailbox := w.nextMailbox } : Dispatch).submitPool w.device pool =
      (submitted.1, submitted.2.1, submitted.2.2) := rfl
  obtain ⟨n, hsubmitted, -, -⟩ :=
    ({ plan, mailbox := w.nextMailbox } : Dispatch).submitPool_submitted w.device pool
  obtain ⟨ready, trace, hlaunch⟩ := w.launch_submitted client claim plan size hsubmit
  refine ⟨submitted.1, _, ready, trace, rfl, rfl, ?_, ?_, rfl, rfl, fun hrefused => ?_, hlaunch⟩
  · exact hsubmitted.mailbox
  · dsimp only
    split
    · exact Nat.le_refl 2
    · exact Nat.le_succ 2
  · rw [if_pos hrefused]
    exact .inr (Nat.le_refl 2)

/-- Either nothing is started, or the endpoint is claimed and a pool launched. -/
theorem tryStart_cases (client : Nat) (plan : TransferPlan) :
    let claim := ClaimKey.endpoint (Transport.deviceId w.device) plan.endpoint
    (∃ e, w.tryStart client plan = (.error e, w)) ∨
      ∃ claims size pool, w.claims.acquire claim = some claims ∧
        w.tryStart client plan =
          (.ok ({ w with claims }.launch client claim plan size pool).1,
            ({ w with claims }.launch client claim plan size pool).2) := by
  unfold tryStart
  split
  · next failure _ => exact .inl ⟨_, rfl⟩
  · next size _ =>
    dsimp only
    split
    · exact .inl ⟨_, rfl⟩
    · next claims hclaims =>
      split
      · exact .inl ⟨_, rfl⟩
      · next pool _ => exact .inr ⟨claims, size, pool, hclaims, rfl⟩

end Scheduler

variable [Transport σ] (w : World (Ledger σ) Controller Call) (index : Nat)

/-! ### Opening -/

theorem agreeFor_eq (c : Controller) (request : StreamRequest) :
    ∃ device trace, w.device.Quiet device ∧
      ((∃ e, w.agreeFor index c request = (.error e, { w with device, trace })) ∨
        ∃ config catalog, w.agreeFor index c request =
          (.ok config,
            { w with device, trace }.modifyController index fun c =>
              { c with catalog := some catalog })) := by
  have hquiet := Ledger.Quiet.agree c.settings (c.requestFor request) w.device
  unfold agreeFor
  generalize agree c.settings (c.requestFor request) w.device = agreed at hquiet ⊢
  obtain ⟨agreement, device⟩ := agreed
  refine ⟨device, w.trace ++ agreement.log.map .log, hquiet, ?_⟩
  dsimp only
  split
  · next e _ => exact .inl ⟨e, rfl⟩
  · next catalog config _ => exact .inr ⟨config, catalog, rfl⟩

theorem selectFor_eq (config : StreamConfig) :
    ∃ device, w.device.Quiet device ∧
      ((∃ e, w.selectFor index config = (.error e, { w with device })) ∨
        w.selectFor index config =
          (.ok (), { w with device }.modifyController index fun c => { c with state := .streaming })) := by
  unfold selectFor
  split
  · next e device hset => exact ⟨device, .of_snd ⟨rfl, rfl⟩ hset, .inl ⟨_, rfl⟩⟩
  · next device hset => exact ⟨device, .of_snd ⟨rfl, rfl⟩ hset, .inr rfl⟩

/-! ### Giving back -/

theorem resetInterface_eq (interface : UInt8) :
    ∃ device trace, w.device.Quiet device ∧ w.resetInterface interface = { w with device, trace } := by
  unfold resetInterface
  split
  · next device hset => exact ⟨device, w.trace, .of_snd ⟨rfl, rfl⟩ hset, rfl⟩
  · next e device hset => exact ⟨device, _, .of_snd ⟨rfl, rfl⟩ hset, rfl⟩

theorem giveUp_eq (e : StreamError) :
    ∃ trace, w.giveUp index e =
      { w with
        claims := w.claims.release w.deviceClaim
        clients := w.clients.modify index Controller.closed
        trace } :=
  ⟨_, rfl⟩

theorem releaseDevice_eq (config : StreamConfig) :
    ∃ device trace, w.device.Quiet device ∧ w.releaseDevice index config =
      { w with
        device
        claims := w.claims.release (.device (Transport.deviceId device))
        clients := w.clients.modify index Controller.closed
        trace } := by
  obtain ⟨device, trace, hquiet, hreset⟩ := w.resetInterface_eq config.interface
  refine ⟨device, trace, hquiet, ?_⟩
  rw [releaseDevice, hreset]
  rfl

theorem endClose_eq (config : StreamConfig) :
    ∃ device trace, w.device.Quiet device ∧ w.endClose index config =
      { w with
        device
        claims := w.claims.release (.device (Transport.deviceId device))
        clients := w.clients.modify index Controller.closed
        trace } := by
  obtain ⟨device, trace, hquiet, hrelease⟩ := w.releaseDevice_eq index config
  refine ⟨device, (w.endClose index config).trace, hquiet, ?_⟩
  rw [endClose, hrelease]
  rfl

/-! ### Closing -/

omit [Transport σ] in
/-- The task of a mailbox is told to wind down, if it goes on. -/
theorem beginClose_eq (mailbox : Mailbox) :
    ∃ tasks ready, (tasks = w.tasks ∧ w.hasEnded mailbox = true ∨
        tasks = w.tasks.map (·.told mailbox)) ∧
      w.beginClose index mailbox =
        { w with
          clients := w.clients.modify index fun c => { c with state := .stopping }
          tasks
          ready } := by
  unfold beginClose askStop
  split
  · next hended => exact ⟨w.tasks, w.ready, .inl ⟨rfl, hended⟩, rfl⟩
  · obtain ⟨ready, hstop⟩ :=
      (w.modifyController index fun c => { c with state := .stopping }).requestStop_eq mailbox
    exact ⟨_, ready, .inr rfl, hstop⟩

/-- A controller without a stream just goes; one with a stream leaves its task behind, which is told
to wind down. -/
theorem abandon_eq :
    w.stream? index = none ∧ w.abandon index = w ∨
      ∃ s device ready trace, w.stream? index = some s ∧ w.device.Quiet device ∧
        w.abandon index =
          { w with
            device
            claims := w.claims.release (.device (Transport.deviceId device))
            clients := w.clients.modify index Controller.closed
            tasks := w.tasks.map (·.told s.mailbox)
            ready
            trace } := by
  unfold abandon
  split
  · next hnone => exact .inl ⟨hnone, rfl⟩
  · next s hsome =>
    obtain ⟨ready, hstop⟩ :=
      (w.log (.warn "Stream controller dropped without close")).requestStop_eq s.mailbox
    dsimp only
    rw [hstop]
    obtain ⟨device, trace, hquiet, hrelease⟩ := releaseDevice_eq
      { w.log (.warn "Stream controller dropped without close") with
        tasks := w.tasks.map (·.told s.mailbox)
        ready } index s.config
    exact .inr ⟨s, device, ready, trace, hsome, hquiet, hrelease⟩

/-! ### The background -/

omit [Transport σ] in
/-- Either there is no such controller, or it goes onward. -/
theorem onPipeline_eq {f : Pipeline → List (Effect Call) × Pipeline}
    (honward : ∀ p : Pipeline, p.state.Onward (f p).2.state) :
    w.onPipeline index f = w ∨
      ∃ c c' trace, w.clients[index]? = some c ∧ c.Onward c' ∧
        w.onPipeline index f = { w with clients := w.clients.set index c', trace } := by
  unfold onPipeline
  split
  · exact .inl rfl
  · next c there => exact .inr ⟨c, _, _, there, c.onward_withPipeline honward, rfl⟩

omit [Transport σ] in
theorem notifyDisconnect_eq :
    w.notifyDisconnect index = w ∨
      ∃ c c' trace, w.clients[index]? = some c ∧ c.Onward c' ∧
        w.notifyDisconnect index = { w with clients := w.clients.set index c', trace } :=
  w.onPipeline_eq index fun p => p.onward_terminate _

/-- Either no task makes a step, or one does. -/
theorem stepTask_cases (mailbox : Mailbox) :
    w.stepTask mailbox = w ∨
      ∃ t c s, t ∈ w.tasks ∧ w.clients[t.client]? = some c ∧
        t.task.step w.now c w.device = some s ∧ w.stepTask mailbox = w.afterSteps t s := by
  unfold stepTask
  split
  · exact .inl rfl
  · next t htask =>
    split
    · exact .inl rfl
    · next c there =>
      split
      · exact .inl rfl
      · next s hstep => exact .inr ⟨t, c, s, (mem_of_task? htask).1, there, hstep, rfl⟩

end World

end UsbVideo
