import UsbVideo.Decode.Frame
import UsbVideo.Delivery.Hub
import UsbVideo.Delivery.Queue

/-!
# From payloads to frames

A `Pipeline` is one open stream as the transfers and the decoder see it. Payloads are reassembled into
frames, frames wait in the queue, and the worker decodes them one by one.

    payload  ──reassembler──▶  queue  ──worker──▶  host

Three parties may end the stream: a fault of the transfers, too many failed decodes in a row, and the
host's notice that the device is gone. Each moves the state from streaming to faulted; whoever does it
first closes the queue and reports, the others find the state changed and stay silent.
-/

namespace UsbVideo

/-- What every open stream has of its own. -/
structure Stages where
  reassembler : Reassembler
  queue : FrameQueue
  decoder : FormatDecoder
  /-- Failed decodes in a row that end the stream. -/
  maxErrors : Nat
  /-- Failed decodes in a row so far. -/
  errors : Nat := 0

/-- One open stream between the transfers and the host. -/
structure Pipeline extends Stages where
  state : StreamState
  hub : Hub

namespace Pipeline

/-- Count and pass on an event. -/
def emit (p : Pipeline) (event : StreamEvent) : List (Effect Call) × Pipeline :=
  let (effects, hub) := p.hub.emit event
  (effects, { p with hub })

/-- Change the counters. -/
def count (p : Pipeline) (f : StreamStats → StreamStats) : Pipeline :=
  { p with hub := { p.hub with stats := f p.hub.stats } }

/-! ### Payloads -/

/-- Queue a completed frame; an evicted one is reported. -/
def enqueue (p : Pipeline) (frame : CompletedFrame) : List (Effect Call) × Pipeline :=
  let p := p.count fun s => { s with framesCompleted := s.framesCompleted + 1 }
  match p.queue.push frame with
  | (none, queue) => ([], { p with queue })
  | (some evicted, queue) =>
    { p with queue }.emit
      (.frameDropped .backpressure (some evicted.sequence) evicted.data.length)

/-- Queue a frame or report what else came of a payload. -/
def route (p : Pipeline) : Outcome → List (Effect Call) × Pipeline
  | .frame frame => p.enqueue frame
  | .dropped reason bytes => p.emit (.frameDropped reason none bytes)
  | .unfinished bytes => p.emit (.partialFrame bytes)
  | .headerTooShort e => p.emit (.headerTooShort e.available e.required)

/-- Route outcomes in order. -/
def routeAll (p : Pipeline) : List Outcome → List (Effect Call) × Pipeline
  | [] => ([], p)
  | outcome :: outcomes =>
    let (first, p) := p.route outcome
    let (later, p) := p.routeAll outcomes
    (first ++ later, p)

/-- Take in a payload. Outside of streaming it is ignored. -/
def payload (p : Pipeline) (bytes : Bytes) : List (Effect Call) × Pipeline :=
  if p.state = .streaming then
    let ⟨⟨reassembler, queue, decoder, maxErrors, errors⟩, state, hub⟩ := p
    let (outcomes, reassembler) := reassembler.push bytes
    let hub := { hub with stats := { hub.stats with payloads := hub.stats.payloads + 1 } }
    Pipeline.routeAll ⟨⟨reassembler, queue, decoder, maxErrors, errors⟩, state, hub⟩ outcomes
  else ([], p)

/-! ### The end of a stream -/

/-- Move from streaming to faulted, close the queue and report; nothing in any other state. -/
def terminate (p : Pipeline) (event : StreamEvent) : List (Effect Call) × Pipeline :=
  if p.state = .streaming then
    { p with state := .faulted, queue := p.queue.close }.emit event
  else ([], p)

/-- The event that reports a fault. -/
def faultEvent : StreamFault → StreamEvent
  | .disconnected => .disconnected
  | fault => .fault fault

/-- The transfers ended in a fault. -/
def fault (p : Pipeline) (fault : StreamFault) : List (Effect Call) × Pipeline :=
  p.terminate (faultEvent fault)

/-- The host noticed that the device is gone. -/
def disconnect (p : Pipeline) : List (Effect Call) × Pipeline := p.terminate .disconnected

/-! ### The worker -/

/-- The result of decoding a frame. A decoder that breaks down counts as one that refuses. -/
def decodeResult : Except DecodeFailure DecodedFrame → Except DecodeError DecodedFrame
  | .ok frame => .ok frame
  | .error (.error e) => .error e
  | .error .crash => .error (.jpeg none)

/-- Report the result for a frame. Outside of streaming it is ignored and not counted. -/
def report (p : Pipeline) (sequence : Nat) (result : Except DecodeError DecodedFrame) :
    List (Effect Call) × Pipeline :=
  if p.state = .streaming then
    match result with
    | .ok frame =>
      let (effects, hub) := p.hub.deliver frame
      (effects, { p with hub, errors := 0 })
    | .error e =>
      let (first, p) := { p with errors := p.errors + 1 }.emit (.decodeError sequence e)
      if p.maxErrors ≤ p.errors then
        let (last, p) := p.terminate (.fault (.decodeErrors p.errors))
        (first ++ last, p)
      else (first, p)
  else ([], p)

/-- Decode a frame and report on it. -/
def decodeFrame (p : Pipeline) (frame : CompletedFrame) : List (Effect Call) × Pipeline :=
  let result := p.decoder.decode frame
  let crashed : List (Effect Call) :=
    match result with
    | .error .crash => [.log (.error s!"Decode of frame {frame.sequence} panicked")]
    | _ => []
  let (effects, p) := p.report frame.sequence (decodeResult result)
  (crashed ++ effects, p)

/-- One turn of the worker: the next frame, if there is one and the queue is open. -/
def work (p : Pipeline) : List (Effect Call) × Pipeline :=
  match p.queue.pop with
  | (.frame frame, queue) => { p with queue }.decodeFrame frame
  | (_, queue) => ([], { p with queue })

/-- Several turns of the worker. -/
def workTurns (p : Pipeline) : Nat → List (Effect Call) × Pipeline
  | 0 => ([], p)
  | turns + 1 =>
    let (first, p) := p.work
    let (later, p) := p.workTurns turns
    (first ++ later, p)

/-- Let the worker take every waiting frame. -/
def workOff (p : Pipeline) : List (Effect Call) × Pipeline := p.workTurns p.queue.frames.length

end Pipeline

end UsbVideo
