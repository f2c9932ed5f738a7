import UsbVideo.Claim
import UsbVideo.Dispatch.Task

/-!
# A device, its streams and time

A `World` is one device with everything that streams from it: the dispatch tasks, their clients, the
claims held, and a clock in milliseconds. Whatever happens is a step of the world:

* `runTask`, `runClient`: a task or the background work of a client runs until it can only wait;
* `act`: the device does something, which may post completions;
* `advanceTo`: time passes, and tasks whose time has come wake up.

Jobs run in the order they were woken (`runReady`). `settle` is the usual course of events: everything
runs until it can only wait, some time passes, and what is due then runs as well. A caller that waits
for a task to end lets everything run and time pass until it has (`awaitEnd`).
-/

namespace UsbVideo

/-- Something that can be woken to run. -/
inductive Job where
  | task (mailbox : Mailbox)
  | client (index : Nat)
  deriving DecidableEq

/-- A dispatch task, the client it serves and the claim it holds until it ends. -/
structure RunningTask where
  task : DispatchTask
  client : Nat
  claim : ClaimKey

def RunningTask.mailbox (t : RunningTask) : Mailbox := t.task.dispatch.mailbox

/-- One device and everything that streams from it. -/
structure World (σ κ ν : Type) where
  now : Nat := 0
  device : σ
  clients : List κ
  claims : ClaimRegistry := {}
  /-- All tasks ever started; the one that made a step last is at the end. -/
  tasks : List RunningTask := []
  /-- Jobs that were woken and have not run, the first woken first. -/
  ready : List Job := []
  nextMailbox : Mailbox := 0
  /-- What pools are allocated from. -/
  memory : Memory := .ofSize 0x1000000000
  /-- Everything that left the engine, the oldest first. -/
  trace : List (Effect ν) := []

namespace World

variable {σ κ ν : Type}

/-! ### Parts of a world -/

/-- Add to the trace. -/
def emit (w : World σ κ ν) (effects : List (Effect ν)) : World σ κ ν :=
  { w with trace := w.trace ++ effects }

def log (w : World σ κ ν) (line : LogLine) : World σ κ ν := w.emit [.log line]

/-- Wake a job that is not awake. -/
def wake (w : World σ κ ν) (job : Job) : World σ κ ν :=
  if job ∈ w.ready then w else { w with ready := w.ready ++ [job] }

def task? (w : World σ κ ν) (mailbox : Mailbox) : Option RunningTask :=
  w.tasks.find? (·.mailbox == mailbox)

def modifyTask (w : World σ κ ν) (mailbox : Mailbox) (f : DispatchTask → DispatchTask) :
    World σ κ ν :=
  { w with
    tasks := w.tasks.map fun t => if t.mailbox = mailbox then { t with task := f t.task } else t }

/-- Whether a task has ended, or never was. -/
def hasEnded (w : World σ κ ν) (mailbox : Mailbox) : Bool :=
  (w.task? mailbox).all (·.task.isEnded)

/-- Replace a client. -/
def setClient (w : World σ κ ν) (index : Nat) (client : κ) : World σ κ ν :=
  { w with clients := w.clients.set index client }

/-- Put a completion into its inbox. A task that has ended does not receive any more. -/
def deliver (w : World σ κ ν) (post : Post) : World σ κ ν :=
  if w.hasEnded post.mailbox then w
  else
    (w.modifyTask post.mailbox fun t => { t with inbox := t.inbox ++ [post.completion] }).wake
      (.task post.mailbox)

def deliverAll (w : World σ κ ν) (posts : List Post) : World σ κ ν := posts.foldl deliver w

/-- The device does something. -/
def act {α : Type} (w : World σ κ ν) (f : σ → α × List Post × σ) : α × World σ κ ν :=
  let (result, posts, device) := f w.device
  (result, { w with device }.deliverAll posts)

/-! ### Running -/

/-- When the next waiting task goes on by itself. -/
def nextDue (w : World σ κ ν) : Option Nat := (w.tasks.filterMap (·.task.dueAt)).min?

/-- The tasks whose time has come, the earliest first. A task begins to wait when it makes a step, so of
two with the same time the one that began first stands first. -/
def dueTasks (w : World σ κ ν) : List Mailbox :=
  let due := w.tasks.filterMap fun t =>
    match t.task.dueAt with
    | some time => if time ≤ w.now then some (time, t.mailbox) else none
    | none => none
  (due.mergeSort (·.1 ≤ ·.1)).map (·.2)

/-- Let time pass up to a later moment. -/
def advanceTo (w : World σ κ ν) (time : Nat) : World σ κ ν :=
  let w := { w with now := max w.now time }
  w.dueTasks.foldl (fun w mailbox => w.wake (.task mailbox)) w

/-- The world after a task made these steps. When they ended it, its claim is released. -/
def afterSteps (w : World σ κ ν) (t : RunningTask) (s : TaskStep σ κ ν) : World σ κ ν :=
  let claims := if s.task.isEnded && !t.task.isEnded then w.claims.release t.claim else w.claims
  let others := w.tasks.filter (·.mailbox ≠ t.mailbox)
  let w :=
    { w with
      device := s.device
      clients := w.clients.set t.client s.client
      claims
      tasks := others ++ [{ t with task := s.task }] }
  (w.emit s.effects).deliverAll s.posts

variable [Transport σ] [StreamClient κ ν]

/-- Let a task run until it can only wait. Nothing happens to a task that was woken and can only
wait. -/
def runTask (w : World σ κ ν) (mailbox : Mailbox) : World σ κ ν :=
  match w.task? mailbox with
  | none => w
  | some t =>
    match w.clients[t.client]? with
    | none => w
    | some client =>
      if (t.task.step w.now client w.device).isNone then w
      else (w.afterSteps t (t.task.run w.now client w.device)).wake (.client t.client)

/-- Let a client do its background work. -/
def runClient (w : World σ κ ν) (index : Nat) : World σ κ ν :=
  match w.clients[index]? with
  | none => w
  | some client =>
    let (effects, client) := StreamClient.work client
    (w.setClient index client).emit effects

def runJob (w : World σ κ ν) : Job → World σ κ ν
  | .task mailbox => w.runTask mailbox
  | .client index => w.runClient index

/-- Run woken jobs in order, up to a number of turns. -/
def runTurns (w : World σ κ ν) : Nat → World σ κ ν
  | 0 => w
  | turns + 1 =>
    match w.ready with
    | [] => w
    | job :: ready => (({ w with ready }).runJob job).runTurns turns

/-- Enough turns for every job: a client is woken by tasks only, and a task by another only when that
one cancels its transfers, which it does once. -/
def enoughTurns (w : World σ κ ν) : Nat :=
  2 * (w.ready.length + (w.tasks.length + 1) * (w.tasks.length + 1)) + w.clients.length

/-- Run every woken job. -/
def runReady (w : World σ κ ν) : World σ κ ν := w.runTurns w.enoughTurns

/-- Let time pass up to a later moment, from one due task to the next. -/
def passTurns (w : World σ κ ν) (time : Nat) : Nat → World σ κ ν
  | 0 => (w.advanceTo time).runReady
  | turns + 1 =>
    match w.nextDue.filter (· < time) with
    | some due => (w.advanceTo due).runReady.passTurns time turns
    | none => (w.advanceTo time).runReady

/-- Let everything run, then `milliseconds` pass and each task run when it is due. A task that was due
is due again a millisecond later at the earliest. -/
def settle (w : World σ κ ν) (milliseconds : Nat) : World σ κ ν :=
  let w := w.runReady
  w.passTurns (w.now + milliseconds) (milliseconds + 1)

/-- Let everything run, and time pass from one due task to the next, until a task has ended. -/
def awaitTurns (w : World σ κ ν) (mailbox : Mailbox) : Nat → World σ κ ν
  | 0 => w
  | turns + 1 =>
    let w := w.runReady
    if w.hasEnded mailbox then w
    else
      match w.nextDue with
      | none => w
      | some time => (w.advanceTo time).awaitTurns mailbox turns

/-- Wait for a task that winds down. It ends at its deadline at the latest, and every turn takes a
millisecond at least. -/
def awaitEnd (w : World σ κ ν) (mailbox : Mailbox) : World σ κ ν :=
  if w.hasEnded mailbox then w
  else
    let timeout := ((w.task? mailbox).map (·.task.dispatch.plan.cancelTimeout)).getD 0
    w.awaitTurns mailbox (timeout + 2)

/-! ### Starting and stopping a dispatch -/

/-- Take a task in and wake it. -/
def addTask (w : World σ κ ν) (client : Nat) (claim : ClaimKey) (dispatch : Dispatch)
    (phase : DispatchPhase) : World σ κ ν :=
  { w with tasks := w.tasks ++ [{ task := { dispatch, phase }, client, claim }] }

/-- Submit a pool and let a task dispatch it. If a submission is refused, the task takes those before
it back. -/
def launch (w : World σ κ ν) (client : Nat) (claim : ClaimKey) (plan : TransferPlan) (size : Nat)
    (pool : List Transfer) : (Mailbox × Option TransportError) × World σ κ ν :=
  let mailbox := w.nextMailbox
  let start : Dispatch := { plan, mailbox }
  let (refused, dispatch, device) := start.submitPool w.device pool
  let w := { w with device, nextMailbox := mailbox + 1 }
  match refused with
  | some error =>
    let w := w.log (.warn s!"Initial submission failed: {error.message}")
    ((mailbox, some error), w.addTask client claim dispatch (.leaving none))
  | none =>
    let w := w.log <| .info <|
      s!"Streaming {plan.kind.name} on endpoint 0x{hex2 plan.endpoint.toNat}: " ++
        s!"{plan.requestCount} requests x {size} bytes"
    ((mailbox, none), (w.addTask client claim dispatch (.running w.now)).wake (.task mailbox))

/-- Claim the endpoint and submit a pool of transfers on it, for a client. Yields the mailbox, and the
refusal if there was one. -/
def tryStart (w : World σ κ ν) (client : Nat) (plan : TransferPlan) :
    Except StartError (Mailbox × Option TransportError) × World σ κ ν :=
  match Dispatch.poolShape plan with
  | .error failure => (.error (.allocationFailure failure), w)
  | .ok size =>
    let claim := ClaimKey.endpoint (Transport.deviceId w.device) plan.endpoint
    match w.claims.acquire claim with
    | none => (.error (.deviceBusy plan.endpoint), w)
    | some claims =>
      match Dispatch.allocatePool w.memory plan size with
      | .error failure => (.error (.allocationFailure failure), w)
      | .ok pool =>
        let (launched, w) := { w with claims }.launch client claim plan size pool
        (.ok launched, w)

/-- Claim the endpoint and start a pool of transfers on it, for a client. Either all of it happens or
nothing stays behind: what was submitted before a refusal is waited for. -/
def start (w : World σ κ ν) (client : Nat) (plan : TransferPlan) :
    Except StartError Mailbox × World σ κ ν :=
  match w.tryStart client plan with
  | (.error e, w) => (.error e, w)
  | (.ok (mailbox, none), w) => (.ok mailbox, w)
  | (.ok (mailbox, some error), w) =>
    (.error (.transport error), (w.runTask mailbox).awaitEnd mailbox)

/-- Tell a task to wind down. -/
def requestStop (w : World σ κ ν) (mailbox : Mailbox) : World σ κ ν :=
  (w.modifyTask mailbox fun t => { t with stopRequested := true }).wake (.task mailbox)

/-- Tell a task to wind down, unless it has ended. -/
def askStop (w : World σ κ ν) (mailbox : Mailbox) : World σ κ ν :=
  if w.hasEnded mailbox then w else w.requestStop mailbox

/-- Tell a task to wind down and wait until it has ended. -/
def stop (w : World σ κ ν) (mailbox : Mailbox) : World σ κ ν :=
  (w.askStop mailbox).awaitEnd mailbox

end World

end UsbVideo
