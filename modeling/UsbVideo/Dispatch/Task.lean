import UsbVideo.Delivery.Hub
import UsbVideo.Dispatch.Basic

/-!
# The life of a dispatch

A `DispatchTask` runs a dispatch over time: it takes completions from its inbox, retries refused
submissions after a pause, and winds down when it is told to stop, when its client has given up, or
when a fault ends the stream.

    running  ──stop, fault, client closed──▶  leaving  ──cancel all──▶  draining  ──▶  ended

`DispatchTask.step` is one such step; there is none when the task can only wait. A request to stop is
seen before any completion, and a completion before the retry. `DispatchTask.run` steps until the task
can only wait. The client hears of a fault last, when every transfer is back or given up.
-/

namespace UsbVideo

/-- Who receives payloads and the fault that ends them. `work` is what it does in the background. -/
class StreamClient (κ : Type) (ν : outParam Type) where
  payload (bytes : Bytes) : κ → List (Effect ν) × κ
  fault (fault : StreamFault) : κ → List (Effect ν) × κ
  /-- Whether the client has given up on the stream. -/
  isClosed : κ → Bool
  work : κ → List (Effect ν) × κ

/-- How far the run of a dispatch has come. Times are in milliseconds. -/
inductive DispatchPhase where
  /-- `since` is when the last completion or retry was dealt with. -/
  | running (since : Nat)
  | leaving (fault : Option StreamFault)
  | draining (deadline : Nat) (fault : Option StreamFault)
  | ended
  deriving DecidableEq

namespace DispatchPhase

/-- Steps towards the end. -/
def rank : DispatchPhase → Nat
  | running _ => 3
  | leaving _ => 2
  | draining _ _ => 1
  | ended => 0

end DispatchPhase

/-- The pause before refused submissions are tried again. -/
def retryPause : Nat := 10

/-- A dispatch, its inbox and its state over time. -/
structure DispatchTask where
  dispatch : Dispatch
  /-- Completions posted and not taken in, the oldest first. -/
  inbox : List Completion := []
  stopRequested : Bool := false
  phase : DispatchPhase

/-- What a step of a task leads to. Posts go to the mailboxes of other tasks. -/
structure TaskStep (σ κ ν : Type) where
  task : DispatchTask
  client : κ
  device : σ
  posts : List Post := []
  effects : List (Effect ν) := []

/-- A span of time in the largest unit that leaves a whole part. -/
def durationText (milliseconds : Nat) : String :=
  if milliseconds = 0 then "0ns"
  else if milliseconds < 1000 then s!"{milliseconds}ms"
  else
    let places := zeroPadded 3 (toString (milliseconds % 1000))
    let trimmed := String.ofList (places.toList.reverse.dropWhile (· == '0')).reverse
    if trimmed.isEmpty then s!"{milliseconds / 1000}s" else s!"{milliseconds / 1000}.{trimmed}s"

/-- Hand on what a dispatch puts out. -/
def relay {κ ν : Type} [StreamClient κ ν] (client : κ) :
    List DispatchOutput → List (Effect ν) × κ
  | [] => ([], client)
  | .log line :: outputs =>
    let (later, client) := relay client outputs
    (.log line :: later, client)
  | .payload bytes :: outputs =>
    let (first, client) := StreamClient.payload bytes client
    let (later, client) := relay client outputs
    (first ++ later, client)

namespace DispatchTask

variable {σ κ ν : Type} [Transport σ] [StreamClient κ ν]

def isEnded (t : DispatchTask) : Bool := t.phase == .ended

/-- When the task goes on without being woken. -/
def dueAt (t : DispatchTask) : Option Nat :=
  match t.phase with
  | .running since => if t.dispatch.idle.isEmpty then none else some (since + retryPause)
  | .draining deadline _ => some deadline
  | _ => none

/-- Hand on what a step of the dispatch puts out; a fault or a closed client ends the run. -/
def follow (t : DispatchTask) (now : Nat) (client : κ) (mayClose : Bool) (s : DispatchStep σ) :
    TaskStep σ κ ν :=
  let (effects, client) := relay client s.outputs
  let phase :=
    match s.fault with
    | some fault => .leaving (some fault)
    | none =>
      if mayClose && StreamClient.isClosed client then .leaving none else .running now
  { task := { t with dispatch := s.dispatch, phase }, client, device := s.device, effects }

/-- The end of the task: a fault is logged and reported. -/
def conclude (t : DispatchTask) (fault : Option StreamFault) (before : List (Effect ν)) (client : κ)
    (device : σ) : TaskStep σ κ ν :=
  let task := { t with phase := .ended }
  match fault with
  | none => { task, client, device, effects := before }
  | some fault =>
    let line := LogLine.error
      s!"Stream on endpoint 0x{hex2 t.dispatch.plan.endpoint.toNat} faulted: {fault.message}"
    let (effects, client) := StreamClient.fault fault client
    { task, client, device, effects := before ++ .log line :: effects }

/-- One step at time `now`; none if the task can only wait. -/
def step (t : DispatchTask) (now : Nat) (client : κ) (device : σ) : Option (TaskStep σ κ ν) :=
  match t.phase with
  | .ended => none
  | .running since =>
    if t.stopRequested then some { task := { t with phase := .leaving none }, client, device }
    else
      match t.inbox with
      | c :: inbox =>
        some ({ t with inbox }.follow now client true (t.dispatch.receive c device))
      | [] =>
        if t.dispatch.idle.isEmpty ∨ now < since + retryPause then none
        else some (t.follow now client false (t.dispatch.refill device))
  | .leaving fault =>
    let (posts, device) := t.dispatch.cancelAll device
    let (own, others) := posts.partition (·.mailbox == t.dispatch.mailbox)
    let task :=
      { t with
        inbox := t.inbox ++ own.map (·.completion)
        phase := .draining (now + t.dispatch.plan.cancelTimeout) fault }
    some { task, client, device, posts := others }
  | .draining deadline fault =>
    if t.dispatch.inFlight.isEmpty then some (t.conclude fault [] client device)
    else
      match t.inbox with
      | c :: inbox =>
        some { task := { t with inbox, dispatch := t.dispatch.reclaim c }, client, device }
      | [] =>
        if now < deadline then none
        else
          let line := LogLine.warn <|
            s!"{t.dispatch.inFlight.length} transfers not returned within " ++
              durationText t.dispatch.plan.cancelTimeout
          some (t.conclude fault [.log line] client device)

/-- Whether a retry is due. -/
def retryDue (t : DispatchTask) (now : Nat) : Bool :=
  match t.phase with
  | .running since => since + retryPause ≤ now
  | _ => false

omit [Transport σ] in
/-- After following a step of the dispatch the task runs on from now or leaves; its inbox stays. -/
theorem follow_phase (t : DispatchTask) (now : Nat) (client : κ) (mayClose : Bool)
    (s : DispatchStep σ) :
    let after := (t.follow (ν := ν) now client mayClose s).task
    after.inbox = t.inbox ∧ (after.phase = .running now ∨ after.phase.rank = 2) := by
  unfold follow
  refine ⟨rfl, ?_⟩
  cases s.fault with
  | some fault => exact .inr rfl
  | none =>
    dsimp only
    split
    · exact .inr rfl
    · exact .inl rfl

omit [Transport σ] in
/-- The end of a task has no steps left. -/
theorem conclude_rank (t : DispatchTask) (fault : Option StreamFault) (before : List (Effect ν))
    (client : κ) (device : σ) : (t.conclude fault before client device).task.phase.rank = 0 := by
  cases fault <;> rfl

/-- Every step brings the end of the run nearer: the phase moves on, or a completion is taken in, or a
retry that was due no longer is. -/
theorem step_nearer {t : DispatchTask} {now : Nat} {client : κ} {device : σ}
    {s : TaskStep σ κ ν} (h : t.step now client device = some s) :
    s.task.phase.rank < t.phase.rank ∨
      s.task.phase.rank = t.phase.rank ∧
        (s.task.inbox.length < t.inbox.length ∨
          s.task.inbox.length = t.inbox.length ∧
            s.task.retryDue now = false ∧ t.retryDue now = true) := by
  unfold step at h
  cases hp : t.phase with
  | ended => simp [hp] at h
  | running since =>
    have hr : (DispatchPhase.running since).rank = 3 := rfl
    simp only [hp] at h
    split at h
    · cases h
      exact .inl (Nat.lt_succ_self 2)
    · split at h
      next c inbox hin =>
        cases h
        obtain ⟨hbox, hphase⟩ := follow_phase { t with inbox, phase := .running since } now client
          true (t.dispatch.receive c device)
        rcases hphase with hrun | hrank
        · refine .inr ⟨by rw [hrun]; rfl, .inl ?_⟩
          rw [hbox, hin]
          exact Nat.lt_succ_self _
        · exact .inl (by rw [hrank, hr]; decide)
      next hin =>
        split at h
        · cases h
        · next hdue =>
          cases h
          obtain ⟨hbox, hphase⟩ := follow_phase t now client false (t.dispatch.refill device)
          rcases hphase with hrun | hrank
          · refine .inr ⟨by rw [hrun]; rfl, .inr ⟨by rw [hbox], ?_, ?_⟩⟩
            · have : ¬ now + retryPause ≤ now := by simp [retryPause]
              simp [retryDue, hrun, this]
            · simp only [not_or, Nat.not_lt] at hdue
              simp [retryDue, hp, hdue.2]
          · exact .inl (by rw [hrank, hr]; decide)
  | leaving fault =>
    simp only [hp] at h
    cases h
    exact .inl (Nat.lt_succ_self 1)
  | draining deadline fault =>
    have hr : (DispatchPhase.draining deadline fault).rank = 1 := rfl
    simp only [hp] at h
    split at h
    · cases h
      exact .inl (by rw [conclude_rank, hr]; decide)
    · split at h
      next c inbox hin =>
        cases h
        refine .inr ⟨rfl, .inl ?_⟩
        rw [hin]
        exact Nat.lt_succ_self _
      next hin =>
        split at h
        · cases h
        · cases h
          exact .inl (by rw [conclude_rank, hr]; decide)

/-- Step until the task can only wait. -/
def run (t : DispatchTask) (now : Nat) (client : κ) (device : σ) : TaskStep σ κ ν :=
  match _h : t.step now client device with
  | none => { task := t, client, device }
  | some s =>
    let last := s.task.run now s.client s.device
    { last with posts := s.posts ++ last.posts, effects := s.effects ++ last.effects }
termination_by (t.phase.rank, t.inbox.length, if t.retryDue now then 1 else 0)
decreasing_by
  simp only [Prod.lex_def]
  rcases step_nearer _h with h | ⟨h, hnear | ⟨hnear, hafter, hbefore⟩⟩
  · exact .inl h
  · exact .inr ⟨h, .inl hnear⟩
  · exact .inr ⟨h, .inr ⟨hnear, by simp [hafter, hbefore]⟩⟩

end DispatchTask

end UsbVideo
