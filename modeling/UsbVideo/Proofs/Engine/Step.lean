import Mathlib.Logic.Function.Basic
import UsbVideo.Proofs.Engine.Clients

/-!
# Everything that can happen to the controllers of a device

`World.openStream` and `World.closeStream` carry a call out from beginning to end, and decide what
happens while they wait. Here a call is cut into its parts, so that anything may happen between two of
them. An `Engine` is a world in which each controller may be in the middle of a call:

    open   claim │ agree │ select │ launch ─────────────────────────▶ streaming
                     │       │        ├──refused──▶ unwind ┊ reset ─┐
                     └───────┴────────┴──────────────────────────▶ giveUp ─▶ closed

    close  ask │ drain ┊ release ─▶ closed              ┊ waits for a task to end

An `Undertaking` says which part comes next. `Step` are the things that happen: a part of a call, a call
begun, a step of any task, a move of any worker, the device does something and posts what it likes, time
passes, others claim and release keys. `Reachable` are the engines of all runs on a bus stack that keeps
its contract: one completion for every accepted submission, in time.

The claim on the device has an owner here, `Engine.holder`, and so have the claims of others; the
registry knows keys only.
-/

namespace UsbVideo

/-! ### Calls in parts -/

/-- The part of a call that comes next. -/
inductive Undertaking where
  /-- Opening: read the descriptors and agree with the device. -/
  | agree (request : StreamRequest)
  /-- Opening: select the alternate setting. -/
  | select (config : StreamConfig)
  /-- Opening: claim the endpoint and submit the transfers. -/
  | launch (config : StreamConfig)
  /-- A submission was refused, and a task takes back those before it. -/
  | unwind (config : StreamConfig) (mailbox : Mailbox) (error : TransportError)
  /-- Opening failed: put the interface back. -/
  | reset (config : StreamConfig) (error : StreamError)
  /-- Opening failed: give the device back. -/
  | giveUp (error : StreamError)
  /-- Closing: a task takes the transfers back. -/
  | drain (config : StreamConfig) (mailbox : Mailbox)
  /-- Closing: give the interface and the device back. -/
  | release (config : StreamConfig)

namespace Undertaking

/-- The task that has to end first. -/
def awaits : Undertaking → Option Mailbox
  | unwind _ mailbox _ | drain _ mailbox => some mailbox
  | _ => none

/-- Whether this part gives the device back. -/
def givesBack : Undertaking → Bool
  | giveUp _ | release _ => true
  | _ => false

/-- Whether this is a part of closing. -/
def closing : Undertaking → Bool
  | drain .. | release _ => true
  | _ => false

end Undertaking

namespace World

variable {σ : Type} [Transport σ]

/-- Carry out a part of a call of a controller; yields what is left to do. -/
def proceed (w : World σ Controller Call) (index : Nat) (c : Controller) :
    Undertaking → World σ Controller Call × Option Undertaking
  | .agree request =>
    match w.agreeFor index c request with
    | (.ok config, w) => (w, some (.select config))
    | (.error e, w) => (w, some (.giveUp e))
  | .select config =>
    match w.selectFor index config with
    | (.ok (), w) => (w, some (.launch config))
    | (.error e, w) => (w, some (.giveUp e))
  | .launch config =>
    match w.tryStart index (config.plan c.settings.transfer) with
    | (.ok (mailbox, none), w) =>
      ((w.keepStream index config mailbox).log (streamingLine config), none)
    | (.ok (mailbox, some error), w) => (w, some (.unwind config mailbox error))
    | (.error e, w) => (w, some (.reset config (.start e)))
  | .unwind config _ error => (w, some (.reset config (.start (.transport error))))
  | .reset config e => (w.resetInterface config.interface, some (.giveUp e))
  | .giveUp e => (w.giveUp index e, none)
  | .drain config _ =>
    (w.modifyController index Controller.discardFrames, some (.release config))
  | .release config => (w.endClose index config, none)

/-- A task makes one step; nothing happens if it can only wait. -/
def stepTask (w : World σ Controller Call) (mailbox : Mailbox) : World σ Controller Call :=
  match w.task? mailbox with
  | none => w
  | some t =>
    match w.clients[t.client]? with
    | none => w
    | some c =>
      match t.task.step w.now c w.device with
      | none => w
      | some s => w.afterSteps t s

omit [Transport σ] in
/-- Something happens in the pipeline of a controller. -/
def onPipeline (w : World σ Controller Call) (index : Nat)
    (f : Pipeline → List (Effect Call) × Pipeline) : World σ Controller Call :=
  match w.clients[index]? with
  | none => w
  | some c =>
    let (effects, c) := c.withPipeline f
    (w.setClient index c).emit effects

end World

/-- What a worker does in one go. Decoding takes its time: a frame may be taken now and reported on later,
and whatever came of it is reported. -/
inductive WorkerMove : (Pipeline → List (Effect Call) × Pipeline) → Prop where
  | turn : WorkerMove Pipeline.work
  | take : WorkerMove fun p => ([], { p with queue := p.queue.pop.2 })
  | report (sequence : Nat) (result : Except DecodeError DecodedFrame) :
      WorkerMove (·.report sequence result)

/-! ### Engines -/

/-- A world whose controllers may be in the middle of a call. -/
structure Engine (σ : Type) where
  world : World (Ledger σ) Controller Call
  /-- What comes next in the call of a controller; nothing, if nobody is calling it. -/
  calls : Nat → Option Undertaking := fun _ => none
  /-- Controllers that went away. -/
  gone : List Nat := []
  /-- The controller that has the claim on the device. -/
  holder : Option Nat := none
  /-- Keys claimed by others. -/
  outside : List ClaimKey := []

namespace Engine

variable {σ : Type} [Transport σ]

/-- A controller that is there, and that nobody is calling. -/
structure Idle (e : Engine σ) (index : Nat) (c : Controller) : Prop where
  there : e.world.clients[index]? = some c
  stays : index ∉ e.gone
  free : e.calls index = none

/-- A controller has claimed the device and begins to open. -/
def claimed (e : Engine σ) (index : Nat) (request : StreamRequest) (claims : ClaimRegistry) :
    Engine σ :=
  { e with
    world := { e.world with claims }.modifyController index Controller.negotiating
    calls := Function.update e.calls index (some (.agree request))
    holder := some index }

/-- A part of a call was carried out. -/
def proceed (e : Engine σ) (index : Nat) (c : Controller) (u : Undertaking) : Engine σ :=
  { e with
    world := (e.world.proceed index c u).1
    calls := Function.update e.calls index (e.world.proceed index c u).2
    holder := if u.givesBack then none else e.holder }

/-- A controller begins to close its stream. -/
def closing (e : Engine σ) (index : Nat) (s : OpenStream) : Engine σ :=
  { e with
    world := e.world.beginClose index s.mailbox
    calls := Function.update e.calls index (some (.drain s.config s.mailbox)) }

/-- A controller went away. -/
def dropped (e : Engine σ) (index : Nat) : Engine σ :=
  { e with
    world := e.world.abandon index
    gone := index :: e.gone
    holder := if e.holder = some index then none else e.holder }

/-- What the host sees of a step. -/
inductive Event where
  | opens (index : Nat)
  | closes (index : Nat)
  | drops (index : Nat)
  | other

/-- One thing happens. -/
inductive Step : Engine σ → Event → Engine σ → Prop where
  /-- A closed controller begins to open. Gate: nobody holds the device; if somebody does, or the
  controller is not closed, the call fails at once and nothing happens. -/
  | claim (e : Engine σ) (index : Nat) (c : Controller) (request : StreamRequest)
      (claims : ClaimRegistry) (idle : e.Idle index c) (closed : c.state = .closed)
      (acquired : e.world.claims.acquire e.world.deviceClaim = some claims) :
      Step e (.opens index) (e.claimed index request claims)
  /-- A call goes on with its next part. Gate: the task it waits for has ended. -/
  | proceed (e : Engine σ) (index : Nat) (c : Controller) (u : Undertaking)
      (there : e.world.clients[index]? = some c) (calling : e.calls index = some u)
      (waited : ∀ mailbox, u.awaits = some mailbox → e.world.hasEnded mailbox = true) :
      Step e .other (e.proceed index c u)
  /-- A controller begins to close. Without a stream nothing happens. -/
  | close (e : Engine σ) (index : Nat) (c : Controller) (s : OpenStream) (idle : e.Idle index c)
      (stream : c.stream = some s) : Step e (.closes index) (e.closing index s)
  /-- The host says that the device is gone. -/
  | disconnect (e : Engine σ) (index : Nat) (c : Controller) (idle : e.Idle index c) :
      Step e .other { e with world := e.world.notifyDisconnect index }
  /-- The host listens to other things, or reads what it got. -/
  | listen (e : Engine σ) (index : Nat) (c : Controller) (hub : Hub) (idle : e.Idle index c) :
      Step e .other { e with world := e.world.modifyController index fun c => { c with hub } }
  | drop (e : Engine σ) (index : Nat) (c : Controller) (idle : e.Idle index c) :
      Step e (.drops index) (e.dropped index)
  | task (e : Engine σ) (mailbox : Mailbox) :
      Step e .other { e with world := e.world.stepTask mailbox }
  | worker (e : Engine σ) (index : Nat) {move : Pipeline → List (Effect Call) × Pipeline}
      (worker : WorkerMove move) : Step e .other { e with world := e.world.onPipeline index move }
  /-- The device does something, and completions of any kind are posted. -/
  | device (e : Engine σ) (device : σ) (posts : List Post) :
      Step e .other { e with world := (e.world.act fun l => ((), posts, l.act device posts)).2 }
  | pass (e : Engine σ) (time : Nat) : Step e .other { e with world := e.world.advanceTo time }
  /-- Jobs are scheduled in any order, and memory comes and goes. -/
  | schedule (e : Engine σ) (ready : List Job) (memory : Memory) :
      Step e .other { e with world := { e.world with ready, memory } }
  /-- Somebody else claims a free key. -/
  | acquire (e : Engine σ) (key : ClaimKey) (claims : ClaimRegistry)
      (acquired : e.world.claims.acquire key = some claims) :
      Step e .other { e with world := { e.world with claims }, outside := key :: e.outside }
  /-- Somebody else releases a key of theirs. -/
  | release (e : Engine σ) (key : ClaimKey) (held : key ∈ e.outside) :
      Step e .other
        { e with
          world := { e.world with claims := e.world.claims.release key }
          outside := e.outside.erase key }

/-! ### Runs -/

/-- The contract of the bus stack: the device keeps its name, a completion is that of an accepted
submission and no submission has two, and none is missing when the wait for cancelled transfers is
over. -/
structure Contract (name : String) (e : Engine σ) : Prop where
  name : Transport.deviceId e.world.device = name
  honest : ∀ mailbox, e.world.device.Honest mailbox
  prompt : ∀ t ∈ e.world.tasks, ∀ deadline fault, t.task.phase = .draining deadline fault →
    deadline ≤ e.world.now → e.world.device.pending t.mailbox = []

omit [Transport σ] in
/-- Controllers that were never opened, on a device that was never used. Others may hold claims. -/
def start (device : σ) (controllers : List Controller) (now : Nat) (outside : List ClaimKey) :
    Engine σ where
  world := { now, device := { device }, clients := controllers, claims := { held := outside } }
  outside

/-- The engines of all runs on a bus stack that keeps its contract. -/
inductive Reachable (name : String) : Engine σ → Prop where
  | start (device : σ) (controllers : List Controller) (now : Nat) (outside : List ClaimKey)
      (named : Transport.deviceId device = name) (fresh : ∀ c ∈ controllers, c.closed = c)
      (distinct : outside.Nodup) : Reachable name (start device controllers now outside)
  | step {a b : Engine σ} {event : Event} (h : Reachable name a) (hs : Step a event b)
      (contract : b.Contract name) : Reachable name b

end Engine

end UsbVideo
