import Mathlib.Logic.Relation
import UsbVideo.Proofs.Dispatch.Events
import UsbVideo.Proofs.Dispatch.InOrder
import UsbVideo.Proofs.Engine.Moves

/-!
# Faults are raised when they should be

A `Chronicle` is a run with everything in it that counted towards a fault, in order. What a run comes
to is then a matter of its chronicle alone (`faults_exact`): the dispatch returns the fault that the
rule `Raises` has for the events, at the very event that raises it; the payloads handed on are those
of the events; and the client hears of the fault once, at the end.

The step lemma is `entry`: a step either leaves everything of interest as it is or follows a step of
the dispatch, whose events `Dispatch.judged_receive` and `Dispatch.judged_refill` know.
-/

namespace UsbVideo

variable {σ κ ν : Type}

/-- A client hears of no fault as long as it is handed what a dispatch puts out. -/
theorem Transcribed.faults_relay [StreamClient κ ν] (t : Transcribed κ)
    (outputs : List DispatchOutput) : (relay (ν := ν) t outputs).2.faults = t.faults := by
  induction outputs generalizing t with
  | nil => rfl
  | cons output outputs ih =>
    cases output with
    | log line => exact ih t
    | payload bytes => exact ih (StreamClient.payload (ν := ν) bytes t).2

/-- What counts in a step of a task: nothing, unless it takes in a completion or tries again. -/
def DispatchTask.events [Transport σ] (t : DispatchTask) (now : Nat) (device : σ) :
    List DispatchEvent :=
  match t.phase, t.stopRequested, t.inbox with
  | .running _, false, c :: _ => t.dispatch.events c device
  | .running since, false, [] =>
    if t.dispatch.idle.isEmpty ∨ now < since + retryPause then [] else t.dispatch.refusals device
  | _, _, _ => []

namespace Scene

/-- The fault that the dispatch returned, to be reported or reported already. -/
def fault? (s : Scene σ κ) : Option StreamFault :=
  match s.task.phase with
  | .running _ => none
  | .leaving fault => fault
  | .draining _ fault => fault
  | .ended => s.client.faults.head?

/-- The client has heard of the fault if the run is over, and of nothing else. -/
def Reported (s : Scene σ κ) : Prop :=
  s.client.faults = if s.task.isEnded then s.fault?.toList else []

theorem fault?_of_running {s : Scene σ κ} (h : s.Running) : s.fault? = none := by
  unfold fault?
  cases hp : s.task.phase with
  | running since => rfl
  | leaving | draining | ended => simp [Running, hp, DispatchPhase.isRunning] at h

theorem goes_of_running {s : Scene σ κ} (h : s.Running) : s.task.isEnded = false := by
  cases hp : s.task.phase with
  | ended => simp [Running, hp, DispatchPhase.isRunning] at h
  | running | leaving | draining => simp [DispatchTask.isEnded, hp]

/-- Before the end the client has heard of nothing. -/
theorem reported_iff {s : Scene σ κ} (h : s.task.isEnded = false) :
    s.Reported ↔ s.client.faults = [] := by
  simp [Reported, h]

section

variable [Transport σ]

/-- What counts in a step. -/
def events (s : Scene σ κ) : Happening σ κ → List DispatchEvent
  | .run now => s.task.events now s.device
  | _ => []

variable [StreamClient κ ν]

/-- A run on an honest bus stack, and everything in it that counted, the oldest first. -/
inductive Chronicle : Scene σ κ → List DispatchEvent → Prop where
  | launch {size : Nat} {memory : Memory} (plan : TransferPlan) (mailbox : Mailbox)
      (pool : List Transfer) (now : Nat) (client : κ) (device : σ)
      (shape : Dispatch.poolShape plan = .ok size)
      (allocated : Dispatch.allocatePool memory plan size = .ok pool) :
      Chronicle (launch plan mailbox pool now client device) []
  | step {a : Scene σ κ} {es : List DispatchEvent} (h : Chronicle a es) (happening : Happening σ κ)
      (honest : (a.after happening).Honest) :
      Chronicle (a.after happening) (es ++ a.events happening)

theorem Chronicle.reachable {s : Scene σ κ} {es : List DispatchEvent} (h : Chronicle s es) :
    Reachable s := by
  induction h with
  | launch plan mailbox pool now client device shape allocated =>
    exact .launch plan mailbox pool now client device shape allocated
  | step h happening honest ih => exact .step ih (step_after _ happening) honest

/-- Every run has a chronicle. -/
theorem Reachable.chronicle {s : Scene σ κ} (h : Reachable s) : ∃ es, Chronicle s es := by
  induction h with
  | launch plan mailbox pool now client device shape allocated =>
    exact ⟨[], .launch plan mailbox pool now client device shape allocated⟩
  | step h hs honest ih =>
    obtain ⟨es, hes⟩ := ih
    obtain ⟨happening, rfl⟩ := hs.exists_after
    exact ⟨_, hes.step happening honest⟩

end

/-! ### One step -/

/-- The task followed a step of its dispatch. -/
structure Worked (a b : Scene σ κ) (s : DispatchStep (Ledger σ)) : Prop where
  running : a.Running
  untold : a.task.stopRequested = false
  dispatch : b.dispatch = s.dispatch
  device : b.device = s.device
  payloads : b.client.payloads = a.client.payloads ++ DispatchOutput.payloads s.outputs
  faults : b.client.faults = a.client.faults
  goes : b.task.isEnded = false
  fault : b.fault? = s.fault

/-- What a step from `a` to `b` does, with what counts in it. -/
inductive Entry [Transport σ] (a b : Scene σ κ) : List DispatchEvent → Prop where
  /-- Nothing is processed and nothing refused. -/
  | quiet (window : b.dispatch.window = a.dispatch.window)
      (failures : b.dispatch.tally.failures = a.dispatch.tally.failures)
      (refused : b.dispatch.tally.stats.resubmitFailures = a.dispatch.tally.stats.resubmitFailures)
      (posted : ∀ c ∈ a.posted, c ∈ b.posted) (payloads : b.client.payloads = a.client.payloads)
      (running : b.Running → a.Running ∧ (a.task.stopRequested → b.task.stopRequested))
      (reported : a.Reported → b.Reported ∧ b.fault? = a.fault?) : Entry a b []
  | receive (c : Completion) (arrived : c ∈ a.task.inbox)
      (worked : Worked a b (a.dispatch.receive c a.device)) :
      Entry a b (a.dispatch.events c a.device)
  | retry (worked : Worked a b (a.dispatch.refill a.device)) :
      Entry a b (a.dispatch.refusals a.device)

section

variable [StreamClient κ ν]

/-- A task that follows a step of its dispatch leaves with its fault, or without one when the client
has closed, or runs on. -/
theorem worked_follow {a : Scene σ κ} {since : Nat} (phase : a.task.phase = .running since)
    (untold : a.task.stopRequested = false) (t : DispatchTask) (now : Nat) (mayClose : Bool)
    (s : DispatchStep (Ledger σ)) :
    let r := t.follow (ν := ν) now a.client mayClose s
    Worked a { task := r.task, client := r.client, device := r.device } s := by
  have hrunning : a.Running := by rw [Running, phase]; rfl
  refine ⟨hrunning, untold, rfl, rfl, Transcribed.payloads_relay a.client s.outputs,
    Transcribed.faults_relay a.client s.outputs, ?_, ?_⟩
  · exact DispatchTask.goes_of_rank (DispatchTask.follow_rank ..)
  · cases hfault : s.fault with
    | some fault => simp [fault?, DispatchTask.follow, hfault]
    | none =>
      by_cases hclosed :
          (mayClose && StreamClient.isClosed (relay (ν := ν) a.client s.outputs).2) = true
      · simp [fault?, DispatchTask.follow, hfault, hclosed]
      · simp [fault?, DispatchTask.follow, hfault, hclosed]

/-- A task that ends reports its fault. -/
theorem reported_conclude {a : Scene σ κ} {deadline : Nat} {fault : Option StreamFault}
    (phase : a.task.phase = .draining deadline fault) (before : List (Effect ν))
    (reported : a.Reported) :
    let t := a.task.conclude fault before a.client a.device
    let b : Scene σ κ := { task := t.task, client := t.client, device := t.device }
    b.Reported ∧ b.fault? = a.fault? := by
  have hsilent : a.client.faults = [] := by
    refine (reported_iff ?_).mp reported
    simp [DispatchTask.isEnded, phase]
  have hfaults : (a.task.conclude fault before a.client a.device).client.faults = fault.toList := by
    cases fault with
    | none => exact hsilent
    | some fault =>
      show a.client.faults ++ [fault] = _
      rw [hsilent]
      rfl
  have hfault : fault.toList.head? = fault := by cases fault <;> rfl
  simp [Reported, fault?, DispatchTask.isEnded, hfaults, hfault, phase]

variable [Transport σ]

/-- Nothing of interest changes. -/
theorem Entry.same {a b : Scene σ κ} (window : b.dispatch.window = a.dispatch.window)
    (tally : b.dispatch.tally = a.dispatch.tally) (posted : ∀ c ∈ a.posted, c ∈ b.posted)
    (payloads : b.client.payloads = a.client.payloads) (faults : b.client.faults = a.client.faults)
    (told : a.task.stopRequested → b.task.stopRequested)
    (phase : b.task.phase = a.task.phase) : Entry a b [] := by
  refine .quiet window (by rw [tally]) (by rw [tally]) posted payloads ?_ ?_
  · intro hrunning
    exact ⟨by rwa [Running, ← phase], told⟩
  · intro hreported
    have hfault : b.fault? = a.fault? := by rw [fault?, fault?, phase, faults]
    refine ⟨?_, hfault⟩
    rw [Reported, faults, DispatchTask.isEnded, phase, hfault]
    exact hreported

/-- The task goes on towards its end, with the fault it has. -/
theorem Entry.onward {a b : Scene σ κ} (window : b.dispatch.window = a.dispatch.window)
    (tally : b.dispatch.tally = a.dispatch.tally) (posted : ∀ c ∈ a.posted, c ∈ b.posted)
    (client : b.client = a.client) (goes : a.task.isEnded = false) (on : b.task.isEnded = false)
    (leaves : ¬ b.Running) (fault : b.fault? = a.fault?) : Entry a b [] := by
  refine .quiet window (by rw [tally]) (by rw [tally]) posted (by rw [client])
    (fun hrunning => absurd hrunning leaves) fun hreported => ⟨?_, fault⟩
  rw [reported_iff on, client]
  exact (reported_iff goes).mp hreported

/-- What a step of the task does. -/
theorem entry_of_task {a : Scene σ κ} {now : Nat} {s : TaskStep (Ledger σ) (Transcribed κ) ν}
    (h : a.task.step now a.client a.device = some s) :
    Entry a { task := s.task, client := s.client, device := s.device }
      (a.task.events now a.device) := by
  have hgoes := DispatchTask.goes_of_step h
  unfold DispatchTask.step at h
  unfold DispatchTask.events
  cases hp : a.task.phase with
  | ended => simp [hp] at h
  | running since =>
    cases hstop : a.task.stopRequested with
    | true =>
      simp only [hp, hstop, if_true] at h
      cases h
      refine .onward rfl rfl (fun _ => id) rfl hgoes rfl Bool.false_ne_true ?_
      simp [fault?, hp]
    | false =>
      cases hinbox : a.task.inbox with
      | cons c inbox =>
        simp only [hp, hstop, hinbox, Bool.false_eq_true, if_false] at h
        cases h
        exact .receive c (by simp [hinbox]) (worked_follow hp hstop _ now true _)
      | nil =>
        simp only [hp, hstop, hinbox, Bool.false_eq_true, if_false] at h
        split at h
        · cases h
        · next hdue =>
          cases h
          dsimp only
          rw [if_neg hdue]
          exact .retry (worked_follow hp hstop a.task now false _)
  | leaving fault =>
    simp only [hp] at h
    cases h
    obtain ⟨-, hposted⟩ := cancelAll_books a.dispatch a.device
    refine .onward rfl rfl ?_ rfl hgoes rfl Bool.false_ne_true ?_
    · intro c hc
      rw [posted, Ledger.postedTo, hposted, Post.completionsFor_append]
      exact List.mem_append_left _ hc
    · simp [fault?, hp]
  | draining deadline fault =>
    -- It ends in two ways, with everything back or too late, and both conclude the run.
    have hfinish : ∀ before : List (Effect ν), Entry a
        { task := (a.task.conclude fault before a.client a.device).task
          client := (a.task.conclude fault before a.client a.device).client
          device := (a.task.conclude fault before a.client a.device).device } [] := by
      intro before
      obtain ⟨hdispatch, -, hdevice, hpayloads, hphase⟩ :=
        conclude_spec (ν := ν) a.task fault before a.client a.device
      refine .quiet ?_ ?_ ?_ ?_ hpayloads (fun hrunning => absurd hrunning hphase)
        (reported_conclude hp before)
      all_goals dsimp only [posted, dispatch]
      · rw [hdispatch]
      · rw [hdispatch]
      · rw [hdispatch]
      · rw [hdispatch, hdevice]
        exact fun _ => id
    simp only [hp] at h
    split at h
    · cases h
      exact hfinish []
    · split at h
      next c inbox hinbox =>
        cases h
        refine .quiet rfl ?_ ?_ (fun _ => id) rfl (fun hrunning => absurd hrunning Bool.false_ne_true) ?_
        · dsimp only [dispatch, Dispatch.reclaim]
          split <;> rfl
        · dsimp only [dispatch, Dispatch.reclaim]
          split <;> rfl
        · intro hreported
          have hfault : a.fault? = fault := by simp [fault?, hp]
          rw [reported_iff hgoes] at hreported
          exact ⟨(reported_iff rfl).mpr hreported, hfault.symm⟩
      next hinbox =>
        split at h
        · cases h
        · cases h
          exact hfinish _

/-- A task that can only wait processes nothing. -/
theorem events_of_waits {t : DispatchTask} {now : Nat} (h : t.Waits now) (device : σ) :
    t.events now device = [] := by
  unfold DispatchTask.Waits at h
  unfold DispatchTask.events
  cases hp : t.phase with
  | running since =>
    simp only [hp] at h
    obtain ⟨htold, hinbox, hdue⟩ := h
    simp only [htold, hinbox, if_pos hdue]
  | leaving fault | draining deadline fault | ended => rfl

/-- Every step is an entry in the chronicle. -/
theorem entry (a : Scene σ κ) (h : Happening σ κ) : Entry a (a.after h) (a.events h) := by
  cases h with
  | run now =>
    show Entry a (a.next now) (a.task.events now a.device)
    unfold next
    cases hstep : a.task.step now a.client a.device with
    | some s => exact entry_of_task hstep
    | none =>
      rw [events_of_waits (DispatchTask.step_eq_none_iff.mp hstep)]
      exact .same rfl rfl (fun _ => id) rfl rfl id rfl
  | act device posts =>
    refine .same rfl rfl ?_ rfl rfl id rfl
    intro c hc
    show c ∈ (a.device.act device posts).postedTo a.dispatch.mailbox
    rw [Ledger.postedTo, Ledger.act, Post.completionsFor_append]
    exact List.mem_append_left _ hc
  | client client => exact .same rfl rfl (fun _ => id) rfl rfl id rfl
  | stop => exact .same rfl rfl (fun _ => id) rfl rfl (fun _ => rfl) rfl

/-! ### Along a run -/

/-- What a chronicle has to do with the scene at its end. -/
structure Recorded (s : Scene σ κ) (es : List DispatchEvent) : Prop where
  judged : ∃ n, Judged 0 es n s.fault? ∧ (s.Running → n = s.dispatch.tally.failures)
  reported : s.Reported
  payloads : s.client.payloads = es.flatMap DispatchEvent.payloads
  refused : s.dispatch.tally.stats.resubmitFailures = es.countP DispatchEvent.isRefusal
  turns : ∃ cs : List Completion, cs.map (·.transfer.id) = s.dispatch.window.passed ∧
    (∀ c ∈ cs, c ∈ s.posted) ∧ es.filterMap DispatchEvent.received? = cs.map Received.ofCompletion

/-- Copies of posted completions, one after another. -/
theorem copies_of_entries {posted : List Completion} {entries : List (Nat × Received)}
    (h : ∀ entry ∈ entries, ∃ c ∈ posted, c.transfer.id = entry.1 ∧ Received.ofCompletion c = entry.2) :
    ∃ cs : List Completion, cs.map (·.transfer.id) = entries.map (·.1) ∧ (∀ c ∈ cs, c ∈ posted) ∧
      cs.map Received.ofCompletion = entries.map (·.2) := by
  induction entries with
  | nil => exact ⟨[], rfl, fun c hc => absurd hc List.not_mem_nil, rfl⟩
  | cons entry entries ih =>
    obtain ⟨c, hc, hid, hcopy⟩ := h entry List.mem_cons_self
    obtain ⟨cs, hids, hcs, hcopies⟩ := ih fun e he => h e (List.mem_cons_of_mem _ he)
    refine ⟨c :: cs, ?_, List.forall_mem_cons.mpr ⟨hc, hcs⟩, ?_⟩
    · rw [List.map_cons, hid, hids, List.map_cons]
    · rw [List.map_cons, hcopy, hcopies, List.map_cons]

omit [Transport σ] in
/-- What the task followed is added to the record. -/
theorem Worked.recorded {a b : Scene σ κ} {s : DispatchStep (Ledger σ)} {es new : List DispatchEvent}
    (h : Recorded a es) (worked : Worked a b s)
    (judged : Judged a.dispatch.tally.failures new s.dispatch.tally.failures s.fault)
    (payloads : DispatchOutput.payloads s.outputs = new.flatMap DispatchEvent.payloads)
    (refused : s.dispatch.tally.stats.resubmitFailures =
      a.dispatch.tally.stats.resubmitFailures + new.countP DispatchEvent.isRefusal)
    (turns : ∃ cs : List Completion,
      a.dispatch.window.passed ++ cs.map (·.transfer.id) = s.dispatch.window.passed ∧
        (∀ c ∈ cs, c ∈ a.posted) ∧
          new.filterMap DispatchEvent.received? = cs.map Received.ofCompletion)
    (posted : b.posted = a.posted) : Recorded b (es ++ new) := by
  obtain ⟨n, hjudged, hcount⟩ := h.judged
  rw [fault?_of_running worked.running, hcount worked.running] at hjudged
  obtain ⟨cs, hids, hposted, hreceived⟩ := h.turns
  obtain ⟨new', hids', hposted', hreceived'⟩ := turns
  refine ⟨⟨_, hjudged.append (worked.fault ▸ judged), fun _ => by rw [worked.dispatch]⟩, ?_, ?_, ?_,
    cs ++ new', ?_, ?_, ?_⟩
  · rw [reported_iff worked.goes, worked.faults]
    exact (reported_iff (goes_of_running worked.running)).mp h.reported
  · rw [worked.payloads, h.payloads, payloads, List.flatMap_append]
  · rw [worked.dispatch, refused, h.refused, List.countP_append]
  · rw [List.map_append, hids, hids', worked.dispatch]
  · rw [posted]
    exact fun c hc => (List.mem_append.mp hc).elim (hposted c) (hposted' c)
  · rw [List.filterMap_append, hreceived, hreceived', List.map_append]

/-- Every entry is added to the record. -/
theorem Entry.recorded {a b : Scene σ κ} {es new : List DispatchEvent} (entry : Entry a b new)
    (h : Recorded a es) (hbooked : Booked a.dispatch a.task.inbox a.device)
    (hturn : InTurn a.posted a.dispatch.window a.client.payloads) : Recorded b (es ++ new) := by
  cases entry with
  | quiet window failures refused posted payloads running reported =>
    obtain ⟨hreported, hfault⟩ := reported h.reported
    obtain ⟨n, hjudged, hcount⟩ := h.judged
    obtain ⟨cs, hids, hposted, hreceived⟩ := h.turns
    rw [List.append_nil]
    refine ⟨⟨n, by rwa [hfault], fun hrunning => ?_⟩, hreported, payloads.trans h.payloads,
      refused.trans h.refused, cs, ?_, fun c hc => posted c (hposted c hc), hreceived⟩
    · rw [failures]
      exact hcount (running hrunning).1
    · rw [hids, ReorderWindow.passed, window, ReorderWindow.passed]
  | receive c arrived worked =>
    obtain ⟨hjudged, hpayloads, hrefused⟩ := a.dispatch.judged_receive c a.device
    obtain ⟨hmailbox, hbooks⟩ := posted_receive a.dispatch c a.device
    obtain ⟨taken, hposted, -⟩ := hbooked.taken
    have hc : c ∈ a.posted := by
      rw [Scene.posted, hposted]
      exact List.mem_append_right _ arrived
    refine worked.recorded h hjudged hpayloads hrefused ?_ (posted_congr ?_ ?_)
    · -- What is processed was posted: it is what arrived, or was held as a copy of what was posted.
      obtain ⟨entries, hprocessed, hheld, hturns, hnext⟩ := a.dispatch.processed_turns c
      have hcopies : ∀ entry ∈ entries,
          ∃ c ∈ a.posted, c.transfer.id = entry.1 ∧ Received.ofCompletion c = entry.2 := by
        intro entry hentry
        rcases hheld entry hentry with rfl | hmem
        · exact ⟨c, hc, rfl, rfl⟩
        · exact hturn.held entry hmem
      obtain ⟨cs, hids, hcs, hcopied⟩ := copies_of_entries hcopies
      refine ⟨cs, ?_, hcs, ?_⟩
      · rw [hids, hturns, a.dispatch.window_receive c a.device]
        exact (ReorderWindow.passed_add hnext hturn.pos).symm
      · rw [hcopied, ← hprocessed, a.dispatch.received_events c a.device]
    · rw [worked.dispatch, hmailbox]
    · rw [worked.device, hbooks]
  | retry worked =>
    obtain ⟨hjudged, hpayloads, hrefused⟩ := a.dispatch.judged_refill a.device
    obtain ⟨-, n, hsubmitted, -⟩ := a.dispatch.refill_submitted a.device
    have hnone : ∀ c ∈ ([] : List Completion), c ∈ a.posted := fun c hc => absurd hc List.not_mem_nil
    refine worked.recorded h hjudged hpayloads ?_ ⟨[], ?_, hnone, ?_⟩ (posted_congr ?_ ?_)
    · rw [hrefused, a.dispatch.countP_refusals]
    · rw [ReorderWindow.passed, hsubmitted.window, ReorderWindow.passed]
      exact List.append_nil _
    · exact a.dispatch.received_refusals a.device
    · rw [worked.dispatch, hsubmitted.mailbox]
    · rw [worked.device, hsubmitted.posted]

/-- At its launch nothing has counted. -/
theorem recorded_launch (plan : TransferPlan) (mailbox : Mailbox) (pool : List Transfer) (now : Nat)
    (client : κ) (device : σ) : Recorded (launch plan mailbox pool now client device) [] := by
  obtain ⟨-, -, n, hsubmitted, -, -⟩ := launch_submitted plan mailbox pool now client device
  obtain ⟨hfailures, hrefused⟩ :=
    ({ plan, mailbox } : Dispatch).submitPool_tally ({ device } : Ledger σ) pool
  have hphase : (launch plan mailbox pool now client device).task.phase = .leaving none ∨
      (launch plan mailbox pool now client device).task.phase = .running now := by
    unfold launch
    dsimp only
    split
    · exact .inl rfl
    · exact .inr rfl
  have hwindow : (launch plan mailbox pool now client device).dispatch.window.passed = [] := by
    rw [ReorderWindow.passed, hsubmitted.window]
    rfl
  have hfault : (launch plan mailbox pool now client device).fault? = none := by
    rcases hphase with hp | hp
    · rw [fault?, hp]
    · rw [fault?, hp]
  have hgoes : (launch plan mailbox pool now client device).task.isEnded = false := by
    rcases hphase with hp | hp
    · simp [DispatchTask.isEnded, hp]
    · simp [DispatchTask.isEnded, hp]
  refine ⟨⟨0, hfault ▸ .nil 0, fun _ => hfailures.symm⟩, (reported_iff hgoes).mpr rfl, rfl, hrefused,
    [], hwindow.symm, fun c hc => absurd hc List.not_mem_nil, rfl⟩

theorem Chronicle.recorded {s : Scene σ κ} {es : List DispatchEvent} (h : Chronicle s es) :
    Recorded s es := by
  induction h with
  | launch plan mailbox pool now client device shape allocated =>
    exact recorded_launch plan mailbox pool now client device
  | @step a es h happening honest ih =>
    exact (entry a happening).recorded ih h.reachable.booked h.reachable.inTurn

theorem Step.entry {a b : Scene σ κ} (h : Step a b) : ∃ new, Entry a b new := by
  obtain ⟨happening, rfl⟩ := h.exists_after
  exact ⟨_, Scene.entry a happening⟩

/-- A task that no longer takes in completions hands nothing on any more. -/
theorem Step.nothing_more {a b : Scene σ κ} (h : Step a b) (quits : ¬ a.Running) :
    ¬ b.Running ∧ b.client.payloads = a.client.payloads := by
  obtain ⟨new, hentry⟩ := h.entry
  cases hentry with
  | quiet _ _ _ _ payloads running _ => exact ⟨fun hrunning => quits (running hrunning).1, payloads⟩
  | receive _ _ worked | retry worked => exact absurd worked.running quits

/-- The end of a run was asked for, or has come, without a fault. -/
structure Dismissed (s : Scene σ κ) : Prop where
  reported : s.Reported
  fault : s.fault? = none
  quits : ¬ s.Running ∨ s.task.stopRequested = true

/-- A run that is to end without a fault does so. -/
theorem Step.dismissed {a b : Scene σ κ} (h : Step a b) (hd : a.Dismissed) : b.Dismissed := by
  obtain ⟨new, hentry⟩ := h.entry
  cases hentry with
  | quiet _ _ _ _ _ running reported =>
    obtain ⟨hreported, hfault⟩ := reported hd.reported
    refine ⟨hreported, hfault.trans hd.fault, ?_⟩
    by_cases hrunning : b.Running
    · obtain ⟨hbefore, htold⟩ := running hrunning
      exact .inr (htold (hd.quits.resolve_left (not_not.mpr hbefore)))
    · exact .inl hrunning
  | receive _ _ worked | retry worked =>
    -- Its dispatch takes a step only if the task runs and was not told to stop.
    rcases hd.quits with hquits | htold
    · exact absurd worked.running hquits
    · rw [worked.untold] at htold
      cases htold

omit [Transport σ] [StreamClient κ ν] in
theorem Dismissed.silent {s : Scene σ κ} (h : s.Dismissed) : s.client.faults = [] := by
  have hreported := h.reported
  rw [Reported, h.fault] at hreported
  rw [hreported]
  exact ite_self []

/-- **Faults are raised exactly when they should be.** Whatever happened in a run, in whatever order:
no event but the last raised a fault, and the dispatch has returned a fault exactly when the last one
raised it; the next completion or round of submissions returns one exactly when its events raise it.
What counted are the posted completions in the order of their turns and the submissions refused, and
the payloads handed on are theirs. The client hears of the fault once, at the end. When the task has
stopped taking in completions no payload follows, and if that was without a fault, or if it was told
to stop before, the client never hears of one. -/
theorem faults_exact {s : Scene σ κ} {es : List DispatchEvent} (h : Chronicle s es) :
    (∀ before e after, es = before ++ e :: after → ∀ f, ¬ Raises before f) ∧
      (∀ f, s.fault? = some f ↔ Raises es f) ∧
      (s.Running → ∀ c f, (s.dispatch.receive c s.device).fault = some f ↔
        Raises (es ++ s.dispatch.events c s.device) f) ∧
      (s.Running → ∀ f, (s.dispatch.refill s.device).fault = some f ↔
        Raises (es ++ s.dispatch.refusals s.device) f) ∧
      (∃ cs : List Completion,
        cs.map (·.transfer.id) = List.range' 1 (s.dispatch.window.next - 1) ∧
          (∀ c ∈ cs, c ∈ s.posted) ∧
            es.filterMap DispatchEvent.received? = cs.map Received.ofCompletion) ∧
      es.countP DispatchEvent.isRefusal = s.dispatch.tally.stats.resubmitFailures ∧
      s.client.payloads = es.flatMap DispatchEvent.payloads ∧
      s.client.faults = (if s.task.isEnded then s.fault?.toList else []) ∧
      ∀ t, Relation.ReflTransGen Step s t →
        (¬ s.Running → t.client.payloads = s.client.payloads) ∧
          (s.fault? = none → ¬ s.Running ∨ s.task.stopRequested = true → t.client.faults = []) := by
  have hrecorded := h.recorded
  obtain ⟨n, hjudged, hcount⟩ := hrecorded.judged
  -- While it runs, the dispatch has counted what the history says, so it judges on from there.
  have hnext : s.Running → ∀ new m f, Judged s.dispatch.tally.failures new m f →
      Verdict (es ++ new) f := by
    intro hrunning new m f hnew
    rw [fault?_of_running hrunning, hcount hrunning] at hjudged
    exact (hjudged.append hnew).verdict
  refine ⟨hjudged.verdict.earlier, hjudged.verdict.now, fun hrunning c => ?_, fun hrunning => ?_,
    hrecorded.turns, hrecorded.refused.symm, hrecorded.payloads, hrecorded.reported, ?_⟩
  · exact (hnext hrunning _ _ _ (s.dispatch.judged_receive c s.device).1).now
  · exact (hnext hrunning _ _ _ (s.dispatch.judged_refill s.device).1).now
  · intro t hlater
    refine ⟨fun hover => ?_, fun hfault hover => ?_⟩
    · have hkept : ¬ t.Running ∧ t.client.payloads = s.client.payloads := by
        induction hlater with
        | refl => exact ⟨hover, rfl⟩
        | tail _ hs ih => exact (hs.nothing_more ih.1).imp_right fun hsame => hsame.trans ih.2
      exact hkept.2
    · have hkept : t.Dismissed := by
        induction hlater with
        | refl => exact ⟨hrecorded.reported, hfault, hover⟩
        | tail _ hs ih => exact hs.dismissed ih
      exact hkept.silent

end

/-! ### Three failures of three kinds -/

/-- Two transfers. The second times out early and is held while its buffer is refused, then the first
stalls and lets the second pass. -/
def stumbled : Scene ScriptedTransport Recorder :=
  let plan : TransferPlan :=
    { endpoint := 0x81, kind := .bulk, packetSize := 4, packetsPerRequest := 1, requestCount := 2
      cancelTimeout := 500 }
  let complete (s : Scene ScriptedTransport Recorder) (n : Nat) (status : TransferStatus) :
      Scene ScriptedTransport Recorder :=
    let completed := s.device.device.completeNth n status id
    s.after (.act completed.2.2 completed.2.1)
  let s := launch plan 0 (List.replicate 2 (Transfer.bulk 0x81 (Buffer.zeroed 4))) 0 { name := 0 } {}
  let s := s.after (.act { s.device.device with submitScript := [some .busy] } [])
  (complete ((complete s 1 .timeout).after (.run 1)) 0 .stall).after (.run 2)

/-- The events as they were, and the fault after the third. -/
theorem faults_exact_stumbled :
    ∃ es, Chronicle stumbled es ∧
      es = [.refused .busy, .processed ⟨.stall, [], 0⟩, .processed ⟨.timeout, [], 0⟩] ∧
        stumbled.fault? = some (.transferFailures 3 .timeout) ∧
          Raises es (.transferFailures 3 .timeout) := by
  have hplay : ∃ es, Chronicle stumbled es ∧
      es = [.refused .busy, .processed ⟨.stall, [], 0⟩, .processed ⟨.timeout, [], 0⟩] := by
    refine ⟨_, .step (.step (.step (.step (.step
      (@Chronicle.launch _ _ _ _ _ 4 (.ofSize 160) _ _ _ _ _ _ ?_ ?_) (.act _ _) ?_) (.act _ _) ?_) (.run _) ?_)
      (.act _ _) ?_) (.run _) ?_, ?_⟩
    · rfl
    · rfl
    all_goals decide +kernel
  obtain ⟨es, hes, heq⟩ := hplay
  have hfault : stumbled.fault? = some (.transferFailures 3 .timeout) := by decide +kernel
  exact ⟨es, hes, heq, hfault, ((faults_exact hes).2.1 _).mp hfault⟩

end Scene

end UsbVideo
