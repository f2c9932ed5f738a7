import UsbVideo.Delivery.Pipeline
import UsbVideo.Descriptor.Device
import UsbVideo.Engine.World
import UsbVideo.Stream.Negotiation

/-!
# Controllers

A `Controller` takes a device from closed to streaming and back. In a world of controllers each is the
client of the dispatch task of its own open stream.

    closed ──open──▶ negotiating ──▶ streaming ──close──▶ stopping ──▶ closed
                          │              │ fault              ▲
                          ▼              ▼                    │
                        closed        faulted ────close───────┘

Opening claims the device, reads its descriptors, resolves the request, agrees on a configuration,
selects the alternate setting and starts the transfers. If any of it fails, what was done before is
taken back: the transfers return, the interface goes back to its setting without bandwidth, the claim
is released.
-/

namespace UsbVideo

/-- A stream that is open. -/
structure OpenStream where
  config : StreamConfig
  /-- The dispatch task of the stream. -/
  mailbox : Mailbox
  stages : Stages

/-- Drives one device. -/
structure Controller where
  settings : EngineSettings
  codecs : Codecs
  state : StreamState := .closed
  hub : Hub := {}
  /-- What the open device announces. -/
  catalog : Option Catalog := none
  stream : Option OpenStream := none

namespace Controller

/-- What the device agreed to for the open stream. -/
def config (c : Controller) : Option StreamConfig := c.stream.map (·.config)

/-- Do something with the pipeline of the open stream; nothing happens without one. -/
def withPipeline (c : Controller) (f : Pipeline → List (Effect Call) × Pipeline) :
    List (Effect Call) × Controller :=
  match c with
  | ⟨settings, codecs, state, hub, catalog, some ⟨config, mailbox, stages⟩⟩ =>
    let (effects, ⟨stages, state, hub⟩) := f ⟨stages, state, hub⟩
    (effects, ⟨settings, codecs, state, hub, catalog, some ⟨config, mailbox, stages⟩⟩)
  | c => ([], c)

instance : StreamClient Controller Call where
  payload bytes c := c.withPipeline (·.payload bytes)
  fault fault c := c.withPipeline (·.fault fault)
  isClosed c := c.state == .faulted
  work c := c.withPipeline Pipeline.workOff

/-- The request to open with: an empty one stands for the one in the settings. -/
def requestFor (c : Controller) (request : StreamRequest) : StreamRequest :=
  if request.isEmpty then c.settings.stream else request

/-- The stages of a stream of this configuration, with nothing in them. -/
def stagesFor (c : Controller) (config : StreamConfig) : Stages :=
  { reassembler := .new config.layout
    queue := .new c.settings.pipeline.queueCapacity
    decoder := ⟨config.layout, c.settings.pipeline.outputFormat, c.codecs⟩
    maxErrors := c.settings.pipeline.maxConsecutiveDecodeErrors }

/-- Start to open: the counters begin again. -/
def negotiating (c : Controller) : Controller :=
  { c with state := .negotiating, hub := { c.hub with stats := {} } }

/-- Nothing is open. -/
def closed (c : Controller) : Controller :=
  { c with state := .closed, catalog := none, stream := none }

/-- Close the frame queue and throw away what waits in it. -/
def discardFrames (c : Controller) : Controller :=
  { c with
    stream := c.stream.map fun s =>
      { s with stages := { s.stages with queue := s.stages.queue.close.clear.2 } } }

/-! ### Listeners -/

/-- Send frames to a listener, in place of whoever got them before. -/
def onFrame (c : Controller) (listener : FrameListener) : Controller :=
  { c with hub := { c.hub with frameListener := some listener } }

/-- Send events to a listener. -/
def onEvent (c : Controller) (name : String) : Controller :=
  { c with hub := { c.hub with eventListener := some name } }

/-- Take the frames that wait in the subscription. -/
def receive (c : Controller) : List DecodedFrame × Controller :=
  match c.hub.frameListener with
  | some (.subscription s) => (s.frames, c.onFrame (.subscription { s with frames := [] }))
  | _ => ([], c)

/-- Stop receiving from the subscription; frames for it are lost from now on. -/
def unsubscribe (c : Controller) : Controller :=
  match c.hub.frameListener with
  | some (.subscription s) => c.onFrame (.subscription { s with frames := [], connected := false })
  | _ => c

end Controller

/-! ### Agreeing with the device -/

section Agreement

variable {σ : Type} [Transport σ]

/-- Read the descriptors of a device. -/
def readCatalog (device : σ) : Except StreamError Catalog × σ :=
  match Transport.deviceDescriptor device with
  | (.error e, device) => (.error (.transport e), device)
  | (.ok identity, device) =>
  match Transport.configurationDescriptor device with
  | (.error e, device) => (.error (.transport e), device)
  | (.ok configuration, device) =>
    ((parseCatalog identity configuration).mapError .malformedDescriptor, device)

/-- Agree with the device on what a request means. -/
def agree (settings : EngineSettings) (request : StreamRequest) (device : σ) :
    Noted StreamError (Catalog × StreamConfig) × σ :=
  match readCatalog device with
  | (.error e, device) => (.fail e, device)
  | (.ok catalog, device) =>
    let resolved := resolve request settings.preset catalog settings.transfer
    match resolved.result with
    | .error e => (⟨.error e, resolved.log⟩, device)
    | .ok r =>
      let (answer, device) :=
        negotiate r.interface r.uvcVersion r.probe settings.transfer.controlTimeout device
      let agreement := do
        let r ← resolved
        let config ← r.finalize catalog (← .ofExcept answer)
        return (catalog, config)
      (agreement, device)

end Agreement

/-! ### Opening and closing -/

namespace World

variable {σ : Type} [Transport σ]

/-- Change a controller. -/
def modifyController (w : World σ Controller Call) (index : Nat) (f : Controller → Controller) :
    World σ Controller Call :=
  { w with clients := w.clients.modify index f }

/-- The claim on the device itself. -/
def deviceClaim (w : World σ Controller Call) : ClaimKey := .device (Transport.deviceId w.device)

/-- Put an interface back to the setting without bandwidth. -/
def resetInterface (w : World σ Controller Call) (interface : UInt8) : World σ Controller Call :=
  match Transport.setInterface interface 0 w.device with
  | (.ok (), device) => { w with device }
  | (.error e, device) =>
    { w with device }.log
      (.warn s!"Could not reset interface {interface} to alt 0: {e.message}")

/-- Agree with the device for a controller, which keeps the catalog if that succeeds. -/
def agreeFor (w : World σ Controller Call) (index : Nat) (c : Controller) (request : StreamRequest) :
    Except StreamError StreamConfig × World σ Controller Call :=
  let (agreement, device) := agree c.settings (c.requestFor request) w.device
  let w := { w with device }.emit (agreement.log.map .log)
  match agreement.result with
  | .error e => (.error e, w)
  | .ok (catalog, config) =>
    (.ok config, w.modifyController index fun c => { c with catalog := some catalog })

/-- Select the alternate setting of a configuration; from then on the controller is streaming. -/
def selectFor (w : World σ Controller Call) (index : Nat) (config : StreamConfig) :
    Except StreamError Unit × World σ Controller Call :=
  match Transport.setInterface config.interface config.altSetting w.device with
  | (.error e, device) => (.error (.transport e), { w with device })
  | (.ok (), device) =>
    (.ok (), { w with device }.modifyController index fun c => { c with state := .streaming })

/-- Hand a controller the stream whose transfers were started. -/
def keepStream (w : World σ Controller Call) (index : Nat) (config : StreamConfig)
    (mailbox : Mailbox) : World σ Controller Call :=
  w.modifyController index fun c => { c with stream := some ⟨config, mailbox, c.stagesFor config⟩ }

/-- Select the alternate setting and start the transfers of a controller. -/
def startStream (w : World σ Controller Call) (index : Nat) (c : Controller)
    (config : StreamConfig) : Except StreamError Unit × World σ Controller Call :=
  match w.selectFor index config with
  | (.error e, w) => (.error e, w)
  | (.ok (), w) =>
    match w.start index (config.plan c.settings.transfer) with
    | (.error e, w) => (.error (.start e), w.runReady.resetInterface config.interface)
    | (.ok mailbox, w) => (.ok (), w.keepStream index config mailbox)

/-- Agree with the device and start the stream of a controller. -/
def bringUp (w : World σ Controller Call) (index : Nat) (c : Controller)
    (request : StreamRequest) : Except StreamError StreamConfig × World σ Controller Call :=
  match w.agreeFor index c request with
  | (.error e, w) => (.error e, w)
  | (.ok config, w) =>
    let (started, w) := w.startStream index c config
    (started.map fun () => config, w)

/-- The line that says what is streamed. -/
def streamingLine (c : StreamConfig) : LogLine :=
  .info <|
    s!"Streaming {c.encoding.name} {c.width}x{c.height} @ {Decimal.fixed 2 c.fps} fps " ++
      s!"(alt {c.altSetting}, {c.activeRequests} x {c.packetsPerRequest} x " ++
      s!"{c.maxPacketSize} bytes)"

/-- Give up opening: the device is released, and nothing is open. -/
def giveUp (w : World σ Controller Call) (index : Nat) (e : StreamError) :
    World σ Controller Call :=
  let w := { w with claims := w.claims.release w.deviceClaim }
  (w.log (.warn s!"Open failed: {e.message}")).modifyController index Controller.closed

/-- Open a stream for a controller that is closed. -/
def openStream (w : World σ Controller Call) (index : Nat) (request : StreamRequest) :
    Except StreamError StreamConfig × World σ Controller Call :=
  match w.clients[index]? with
  | none => (.error (.invalidState "open" .closed), w)
  | some c =>
    if c.state ≠ .closed then (.error (.invalidState "open" c.state), w)
    else
      match w.claims.acquire w.deviceClaim with
      | none => (.error (.deviceBusy (Transport.deviceId w.device)), w)
      | some claims =>
        let w := { w with claims }.modifyController index Controller.negotiating
        match w.bringUp index c request with
        | (.ok config, w) => (.ok config, w.log (streamingLine config))
        | (.error e, w) => (.error e, w.giveUp index e)

/-- The open stream of a controller. -/
def stream? (w : World σ Controller Call) (index : Nat) : Option OpenStream :=
  w.clients[index]?.bind (·.stream)

/-- Give back the interface and the device. -/
def releaseDevice (w : World σ Controller Call) (index : Nat) (config : StreamConfig) :
    World σ Controller Call :=
  let w := (w.resetInterface config.interface).modifyController index Controller.closed
  { w with claims := w.claims.release w.deviceClaim }

/-- The line that says what was streamed. -/
def closedLine (stats : StreamStats) : LogLine :=
  .info <|
    s!"Stream closed: {stats.framesDelivered} frames delivered, " ++
      s!"{stats.framesDropped} dropped"

/-- Begin to close: the transfers are told to wind down. -/
def beginClose (w : World σ Controller Call) (index : Nat) (mailbox : Mailbox) :
    World σ Controller Call :=
  (w.modifyController index fun c => { c with state := .stopping }).askStop mailbox

/-- The end of closing, when every frame is decoded or thrown away. -/
def endClose (w : World σ Controller Call) (index : Nat) (config : StreamConfig) :
    World σ Controller Call :=
  let w := w.releaseDevice index config
  w.log (closedLine ((w.clients[index]?.map (·.hub.stats)).getD {}))

/-- Close the stream of a controller: wait until its transfers are back, then give up what is
undelivered. -/
def closeStream (w : World σ Controller Call) (index : Nat) : World σ Controller Call :=
  match w.stream? index with
  | none => w
  | some s =>
    let w := (w.beginClose index s.mailbox).awaitEnd s.mailbox
    (w.modifyController index Controller.discardFrames).runReady.endClose index s.config

/-- A controller goes away while its stream is open. Nothing is waited for: its transfers are told to
wind down. -/
def abandon (w : World σ Controller Call) (index : Nat) : World σ Controller Call :=
  match w.stream? index with
  | none => w
  | some s =>
    let w := w.log (.warn "Stream controller dropped without close")
    (w.requestStop s.mailbox).releaseDevice index s.config

/-- The host tells a controller that the device is gone. -/
def notifyDisconnect (w : World σ Controller Call) (index : Nat) : World σ Controller Call :=
  match w.clients[index]? with
  | none => w
  | some c =>
    let (effects, c) := c.withPipeline Pipeline.disconnect
    (w.setClient index c).emit effects

end World

end UsbVideo
