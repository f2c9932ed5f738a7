import UsbVideo.Log
import UsbVideo.Reassembly
import UsbVideo.Stream.Error

/-!
# Events and their listeners

A `Hub` counts what happens to a stream and passes it on to the host. Everything passed on is an
`Effect`: a line of the log or a call of a listener, in order.
-/

namespace UsbVideo

/-- Something that leaves the engine: a log line or a message of type `ν`. -/
inductive Effect (ν : Type) where
  | log (line : LogLine)
  | tell (message : ν)

namespace Effect

variable {ν : Type}

/-- The log lines among effects. -/
def logLines (effects : List (Effect ν)) : List LogLine :=
  effects.filterMap fun
    | log line => some line
    | tell _ => none

/-- The messages among effects. -/
def messages (effects : List (Effect ν)) : List ν :=
  effects.filterMap fun
    | log _ => none
    | tell message => some message

end Effect

/-- What happens to a stream besides frames. -/
inductive StreamEvent where
  /-- The sequence number is known where a completed frame was evicted. -/
  | frameDropped (reason : DropReason) (sequence : Option Nat) (bytes : Nat)
  | partialFrame (bytes : Nat)
  | headerTooShort (available required : Nat)
  | decodeError (sequence : Nat) (cause : DecodeError)
  /-- The stream ended and delivers nothing more. -/
  | fault (cause : StreamFault)
  | disconnected
  deriving DecidableEq

/-- Counters of a stream. -/
structure StreamStats where
  payloads : Nat := 0
  framesCompleted : Nat := 0
  framesDelivered : Nat := 0
  droppedPayloadError : Nat := 0
  droppedBackpressure : Nat := 0
  droppedOverflow : Nat := 0
  partialFrames : Nat := 0
  headerTooShort : Nat := 0
  decodeErrors : Nat := 0
  deriving DecidableEq

namespace StreamStats

/-- Frames that were dropped, for whatever reason. -/
def framesDropped (s : StreamStats) : Nat :=
  s.droppedPayloadError + s.droppedBackpressure + s.droppedOverflow

/-- Count an event. Terminal events are not counted. -/
def count (s : StreamStats) : StreamEvent → StreamStats
  | .frameDropped .payloadError _ _ => { s with droppedPayloadError := s.droppedPayloadError + 1 }
  | .frameDropped .backpressure _ _ => { s with droppedBackpressure := s.droppedBackpressure + 1 }
  | .frameDropped .overflow _ _ => { s with droppedOverflow := s.droppedOverflow + 1 }
  | .partialFrame _ => { s with partialFrames := s.partialFrames + 1 }
  | .headerTooShort _ _ => { s with headerTooShort := s.headerTooShort + 1 }
  | .decodeError _ _ => { s with decodeErrors := s.decodeErrors + 1 }
  | .fault _ | .disconnected => s

end StreamStats

/-- The log line of an event that the host should see even without a listener. -/
def StreamEvent.logLine? : StreamEvent → Option LogLine
  | partialFrame bytes => some (.warn s!"Partial frame of {bytes} bytes dropped")
  | decodeError sequence cause =>
    some (.warn s!"Frame {sequence} failed to decode: {cause.message}")
  | fault cause => some (.error s!"Stream fault: {cause.message}")
  | disconnected => some (.warn "Device disconnected")
  | frameDropped .. | headerTooShort .. => none

/-- A call of a listener, known by a name. -/
inductive Call where
  | frame (listener : String) (frame : DecodedFrame)
  | event (listener : String) (event : StreamEvent)
  deriving DecidableEq

/-- A bounded channel of frames. A full one loses what comes. -/
structure Subscription where
  capacity : Nat
  frames : List DecodedFrame := []
  /-- Whether somebody still receives. -/
  connected : Bool := true

namespace Subscription

/-- A channel of at least one place. -/
def new (capacity : Nat) : Subscription := { capacity := max capacity 1 }

def offer (s : Subscription) (frame : DecodedFrame) : Subscription :=
  if s.connected ∧ s.frames.length < s.capacity then { s with frames := s.frames ++ [frame] }
  else s

end Subscription

/-- Who gets the frames. -/
inductive FrameListener where
  | named (name : String)
  | subscription (channel : Subscription)

/-- Counts what happens and passes it on. -/
structure Hub where
  stats : StreamStats := {}
  frameListener : Option FrameListener := none
  eventListener : Option String := none

namespace Hub

/-- Hand a frame to the host. -/
def deliver (h : Hub) (frame : DecodedFrame) : List (Effect Call) × Hub :=
  let h := { h with stats := { h.stats with framesDelivered := h.stats.framesDelivered + 1 } }
  match h.frameListener with
  | none => ([], h)
  | some (.named name) => ([.tell (.frame name frame)], h)
  | some (.subscription s) => ([], { h with frameListener := some (.subscription (s.offer frame)) })

/-- Count an event, log it, and pass it on. -/
def emit (h : Hub) (event : StreamEvent) : List (Effect Call) × Hub :=
  ((event.logLine?.toList.map .log) ++
      (h.eventListener.toList.map fun name => .tell (.event name event)),
    { h with stats := h.stats.count event })

end Hub

end UsbVideo
