import Mathlib.Logic.Function.Basic
import UsbVideo.Decode.Codecs
import UsbVideo.Engine.Controller

/-!
# One open stream and its parties

Three parties act on the pipeline of an open stream, each at its own pace:

    transfers   payloads, one after the other, and perhaps a fault
    worker      takes a frame, decodes it, reports on it
    host        says that the device is gone, closes the stream

A payload is taken in at one go, and so is what the worker reports on a frame. Anything may happen
between other things, even in the middle of a report that ends the stream: who moves the state from
streaming to faulted closes the queue next and tells the listeners last.

    terminate  =  fall │ shut │ emit          close  =  stop ┊ discard ┊ finish    ┊ waits for a party

`Session` is a pipeline with its parties and the deeds done so far, `Session.Step` what may happen next.
Listeners come and go, so a deed counts what listeners are told when there are some
(`Pipeline.notices`).
-/

namespace UsbVideo

/-! ### What listeners are told -/

/-- What a listener is told. -/
inductive Notice where
  | frame (frame : DecodedFrame)
  | event (event : StreamEvent)
  deriving DecidableEq

/-- Whether an event ends a stream. -/
def StreamEvent.isTerminal : StreamEvent → Bool
  | fault _ | disconnected => true
  | _ => false

def Notice.isTerminal : Notice → Bool
  | event e => e.isTerminal
  | frame _ => false

def Call.notice : Call → Notice
  | frame _ f => .frame f
  | event _ e => .event e

/-- The same hub, and somebody listens to everything. -/
def Hub.attended (h : Hub) : Hub :=
  { h with frameListener := some (.named "all"), eventListener := some "all" }

namespace Pipeline

def attended (p : Pipeline) : Pipeline := { p with hub := p.hub.attended }

/-- What listeners to everything are told while this is done. -/
def notices (f : Pipeline → List (Effect Call) × Pipeline) (p : Pipeline) : List Notice :=
  (Effect.messages (f p.attended).1).map Call.notice

/-! ### Parts of a report, and of closing -/

/-- The stream faults. -/
def fall (p : Pipeline) : List (Effect Call) × Pipeline := ([], { p with state := .faulted })

/-- The frame queue is closed. -/
def shut (p : Pipeline) : List (Effect Call) × Pipeline := ([], { p with queue := p.queue.close })

/-- The oldest frame leaves the queue. -/
def take (p : Pipeline) : List (Effect Call) × Pipeline :=
  ([], { p with queue := p.queue.tryPop.2 })

def stop (p : Pipeline) : List (Effect Call) × Pipeline := ([], { p with state := .stopping })

/-- The frame queue is closed, and what waits in it is thrown away. -/
def discard (p : Pipeline) : List (Effect Call) × Pipeline :=
  ([], { p with queue := p.queue.close.clear.2 })

def finish (p : Pipeline) : List (Effect Call) × Pipeline := ([], { p with state := .closed })

/-- Others listen from now on, or nobody. -/
def listen (frames : Option FrameListener) (events : Option String) (p : Pipeline) :
    List (Effect Call) × Pipeline :=
  ([], { p with hub := { p.hub with frameListener := frames, eventListener := events } })

/-- To end a stream is to fault, to close the queue and to tell. -/
theorem terminate_eq (p : Pipeline) (event : StreamEvent) :
    p.terminate event =
      if p.state = .streaming then p.fall.2.shut.2.emit event else ([], p) := rfl

/-- A turn of the worker is to take a frame and to report on it, once it is decoded. -/
theorem messages_work {p : Pipeline} {frame : CompletedFrame} (opened : p.queue.closed = false)
    (next : p.queue.tryPop.1 = some frame) :
    let result := decodeResult (p.decoder.decode frame)
    p.work.2 = (p.take.2.report frame.sequence result).2 ∧
      Effect.messages p.work.1 = Effect.messages (p.take.2.report frame.sequence result).1 := by
  have hpop : p.queue.pop = (.frame frame, p.queue.tryPop.2) := by
    unfold FrameQueue.pop
    rw [opened]
    rcases htry : p.queue.tryPop with ⟨popped, queue⟩
    rw [htry] at next
    cases next
    rfl
  unfold work
  rw [hpop]
  dsimp only [decodeFrame]
  refine ⟨rfl, ?_⟩
  -- A decoder that breaks down is logged, which tells nobody anything.
  split
  · rfl
  · rfl

end Pipeline

namespace Controller

/-- The pipeline of a controller whose stream has just been opened. -/
def opened (c : Controller) (config : StreamConfig) : Pipeline :=
  { c.stagesFor config with state := .streaming, hub := c.negotiating.hub }

theorem withPipeline_discard (c : Controller) :
    (c.withPipeline Pipeline.discard).2 = c.discardFrames := by
  obtain ⟨settings, codecs, state, hub, catalog, stream⟩ := c
  cases stream <;> rfl

end Controller

/-! ### Parties and their deeds -/

inductive Party where
  | transfers
  | worker
  | host
  deriving DecidableEq

/-- What a party does that others notice. -/
inductive Deed where
  /-- It moved the state from streaming to faulted. -/
  | faulted
  /-- It closed the frame queue. -/
  | shut
  | told (notice : Notice)
  deriving DecidableEq

/-- Whether this has to do with a fault. -/
def Deed.isFatal : Deed → Bool
  | faulted => true
  | shut => false
  | told notice => notice.isTerminal

/-- The deeds of whoever does this at one go. -/
def Pipeline.deeds (f : Pipeline → List (Effect Call) × Pipeline) (p : Pipeline) : List Deed :=
  ((p.notices f).filter (!·.isTerminal)).map .told ++
    (if p.state = .streaming ∧ (f p).2.state = .faulted then [.faulted] else []) ++
    (if p.queue.closed = false ∧ (f p).2.queue.closed = true then [.shut] else []) ++
    ((p.notices f).filter (·.isTerminal)).map .told

/-- A report under way: the state has moved already. -/
structure Report where
  event : StreamEvent
  /-- Whether the queue is closed already. -/
  shut : Bool := false

/-- How far the host is with closing. -/
inductive Closing where
  | no
  /-- It waits for the transfers. -/
  | stopping
  /-- It waits for the worker. -/
  | discarded
  | done
  deriving DecidableEq

/-- An open stream. -/
structure Session where
  pipeline : Pipeline
  /-- The reports under way. -/
  report : Party → Option Report := fun _ => none
  /-- The transfers are back, and their task has ended. -/
  drained : Bool := false
  /-- The frame the worker is decoding. -/
  decoding : Option CompletedFrame := none
  closing : Closing := .no
  /-- The payloads taken in. -/
  payloads : List Bytes := []
  /-- All deeds, the oldest first. -/
  history : List (Party × Deed) := []

namespace Session

/-- A stream that has just been opened. -/
def start (c : Controller) (config : StreamConfig) : Session where
  pipeline := c.opened config

/-- A party does something at one go. -/
def doing (s : Session) (party : Party) (f : Pipeline → List (Effect Call) × Pipeline) : Session :=
  { s with
    pipeline := (f s.pipeline).2
    history := s.history ++ (s.pipeline.deeds f).map (party, ·) }

/-- A payload is handed on. Outside of streaming it is not taken in. -/
def received (s : Session) (bytes : Bytes) : Session :=
  { s.doing .transfers (·.payload bytes) with
    payloads := s.payloads ++ if s.pipeline.state = .streaming then [bytes] else [] }

/-- The worker takes the oldest frame. -/
def taking (s : Session) (frame : CompletedFrame) : Session :=
  { s.doing .worker Pipeline.take with decoding := some frame }

/-- The worker reports what came of a frame. -/
def reporting (s : Session) (frame : CompletedFrame) (result : Except DecodeError DecodedFrame) :
    Session :=
  { s.doing .worker (·.report frame.sequence result) with decoding := none }

/-- Whether a party may begin to report this. The worker reports at one go. -/
def MayReport (s : Session) (event : StreamEvent) : Party → Prop
  | .transfers =>
    s.drained = false ∧ s.report .transfers = none ∧ ∃ fault, event = Pipeline.faultEvent fault
  | .host => s.closing = .no ∧ s.report .host = none ∧ event = .disconnected
  | .worker => False

/-- One thing happens. -/
inductive Step : Session → Session → Prop where
  /-- A payload comes in, as long as the transfers run and do not report. -/
  | payload (s : Session) (bytes : Bytes) (runs : s.drained = false)
      (free : s.report .transfers = none) : Step s (s.received bytes)
  /-- The worker takes a frame; the queue may have been closed since it looked. -/
  | take (s : Session) (frame : CompletedFrame) (free : s.decoding = none)
      (next : s.pipeline.queue.tryPop.1 = some frame) : Step s (s.taking frame)
  /-- The worker reports on its frame. Whatever came of it, a decoder keeps the number of a frame. -/
  | decoded (s : Session) (frame : CompletedFrame) (result : Except DecodeError DecodedFrame)
      (taken : s.decoding = some frame) (same : ∀ d, result = .ok d → d.sequence = frame.sequence) :
      Step s (s.reporting frame result)
  /-- A party begins to report the end of the stream. -/
  | fall (s : Session) (party : Party) (event : StreamEvent) (may : s.MayReport event party)
      (streaming : s.pipeline.state = .streaming) :
      Step s
        { s.doing party Pipeline.fall with
          report := Function.update s.report party (some { event }) }
  /-- The report comes too late: nothing happens. -/
  | late (s : Session) (party : Party) (event : StreamEvent) (may : s.MayReport event party)
      (other : s.pipeline.state ≠ .streaming) : Step s s
  | shut (s : Session) (party : Party) (event : StreamEvent)
      (fallen : s.report party = some { event }) :
      Step s
        { s.doing party Pipeline.shut with
          report := Function.update s.report party (some { event, shut := true }) }
  | tell (s : Session) (party : Party) (event : StreamEvent)
      (shut : s.report party = some { event, shut := true }) :
      Step s
        { s.doing party (·.emit event) with report := Function.update s.report party none }
  /-- The task of the transfers ends. -/
  | drained (s : Session) (free : s.report .transfers = none) : Step s { s with drained := true }
  /-- The host begins to close the stream. -/
  | stop (s : Session) (opened : s.closing = .no) (free : s.report .host = none) :
      Step s { s.doing .host Pipeline.stop with closing := .stopping }
  | discard (s : Session) (stopping : s.closing = .stopping) (drained : s.drained = true) :
      Step s { s.doing .host Pipeline.discard with closing := .discarded }
  | finish (s : Session) (discarded : s.closing = .discarded) (free : s.decoding = none) :
      Step s { s.doing .host Pipeline.finish with closing := .done }
  | listen (s : Session) (frames : Option FrameListener) (events : Option String) :
      Step s (s.doing .host (Pipeline.listen frames events))

/-- The sessions of all runs. -/
inductive Reachable : Session → Prop where
  | start (c : Controller) (config : StreamConfig) : Reachable (start c config)
  | step {a b : Session} (h : Reachable a) (hs : Step a b) : Reachable b

end Session

/-! ### What each thing tells -/

namespace Effect

variable {ν : Type}

@[simp] theorem messages_nil : messages ([] : List (Effect ν)) = [] := rfl

@[simp] theorem messages_append (first later : List (Effect ν)) :
    messages (first ++ later) = messages first ++ messages later :=
  List.filterMap_append

@[simp] theorem messages_logs (lines : List LogLine) :
    messages (lines.map (Effect.log (ν := ν))) = [] := by
  simp [messages, List.filterMap_map]

end Effect

namespace Pipeline

/-- The event that reports an evicted frame. -/
def evictedEvent (frame : CompletedFrame) : StreamEvent :=
  .frameDropped .backpressure (some frame.sequence) frame.data.length

@[simp] theorem state_attended (p : Pipeline) : p.attended.state = p.state := rfl

@[simp] theorem stages_attended (p : Pipeline) : p.attended.toStages = p.toStages := rfl

@[simp] theorem notices_emit (p : Pipeline) (event : StreamEvent) :
    p.notices (·.emit event) = [.event event] := by
  simp [notices, emit, Hub.emit, attended, Hub.attended, Effect.messages, Call.notice]

theorem notices_enqueue (p : Pipeline) (frame : CompletedFrame) :
    p.notices (·.enqueue frame) =
      (p.queue.push frame).1.toList.map fun evicted => .event (evictedEvent evicted) := by
  unfold notices enqueue
  dsimp only [count, attended]
  rcases p.queue.push frame with ⟨_ | evicted, queue⟩
  · rfl
  · exact notices_emit { p with queue } (evictedEvent evicted)

/-- What is told of an outcome. -/
theorem notices_route (p : Pipeline) (outcome : Outcome) :
    p.notices (·.route outcome) =
      match outcome with
      | .frame frame => p.notices (·.enqueue frame)
      | .dropped reason bytes => [.event (.frameDropped reason none bytes)]
      | .unfinished bytes => [.event (.partialFrame bytes)]
      | .headerTooShort e => [.event (.headerTooShort e.available e.required)] := by
  cases outcome with
  | frame frame => rfl
  | dropped reason bytes => exact p.notices_emit _
  | unfinished bytes => exact p.notices_emit _
  | headerTooShort e => exact p.notices_emit _

/-- Listeners have no influence on a pipeline. -/
theorem attended_route (p : Pipeline) (outcome : Outcome) :
    (p.attended.route outcome).2 = (p.route outcome).2.attended := by
  cases outcome with
  | frame frame =>
    unfold route enqueue
    dsimp only [count, attended]
    rcases p.queue.push frame with ⟨_ | evicted, queue⟩ <;> rfl
  | _ => rfl

theorem notices_routeAll_cons (p : Pipeline) (outcome : Outcome) (outcomes : List Outcome) :
    p.notices (·.routeAll (outcome :: outcomes)) =
      p.notices (·.route outcome) ++ (p.route outcome).2.notices (·.routeAll outcomes) := by
  simp [notices, routeAll, attended_route]

/-- A payload is counted and fed to the reassembler. -/
def fed (p : Pipeline) (bytes : Bytes) : Pipeline :=
  { p with
    reassembler := (p.reassembler.push bytes).2
    hub := { p.hub with stats := { p.hub.stats with payloads := p.hub.stats.payloads + 1 } } }

theorem payload_of_streaming {p : Pipeline} (streaming : p.state = .streaming) (bytes : Bytes) :
    p.payload bytes = (p.fed bytes).routeAll (p.reassembler.push bytes).1 := by
  unfold payload
  rw [if_pos streaming]
  rfl

theorem notices_payload {p : Pipeline} (streaming : p.state = .streaming) (bytes : Bytes) :
    p.notices (·.payload bytes) =
      (p.fed bytes).notices (·.routeAll (p.reassembler.push bytes).1) := by
  simp only [notices]
  rw [payload_of_streaming (p := p.attended) streaming]
  rfl

theorem payload_of_other {p : Pipeline} (other : p.state ≠ .streaming) (bytes : Bytes) :
    p.payload bytes = ([], p) := by
  rw [payload, if_neg other]

theorem notices_of_silent {f : Pipeline → List (Effect Call) × Pipeline} {p : Pipeline}
    (silent : (f p.attended).1 = []) : p.notices f = [] := by
  rw [notices, silent]
  rfl

end Pipeline

/-! ### A stream to look at -/

/-- Grey pictures of one pixel. -/
def StreamConfig.pixels : StreamConfig where
  interface := 1
  formatIndex := 1
  frameIndex := 1
  encoding := .grey
  width := 1
  height := 1
  bitsPerPixel := 8
  frameInterval := 333333
  altSetting := 0
  endpoint := 0x81
  transfer := .bulk
  maxPacketSize := 16
  packetsPerRequest := 1
  activeRequests := 1
  maxVideoFrameSize := 1
  maxPayloadTransferSize := 16
  uvcVersion := 0x0100
  unitId := none
  terminalId := none
  controlTerminal := []
  controlUnit := []
  stillCaptureMethod := 0

/-- One frame may wait. -/
def Controller.narrow : Controller where
  settings := { pipeline := { queueCapacity := 1 } }
  codecs := .software

end UsbVideo
