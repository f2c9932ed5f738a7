import UsbVideo.Frame
import UsbVideo.Payload

/-!
# Reassembly

`Reassembler.push` feeds one payload and yields the outcomes it causes. At most one frame is in
progress. A flipped frame id or an end-of-frame flag always ends it; a frame that did not end
cleanly is dropped and never merged with the next.

    push  =  parse the header
             error bit            → drop the bytes in progress, forget the frame id
             frame id flipped     → crossBoundary
             data                 → accept
             end of frame         → endFrame
-/

namespace UsbVideo

/-- Why a frame never reached the decoder. -/
inductive DropReason where
  /-- The device flagged a payload with the error bit. -/
  | payloadError
  /-- The frame queue was full and the oldest frame gave way. -/
  | backpressure
  /-- The frame grew past the announced size. -/
  | overflow
  deriving DecidableEq

/-- The words of a drop reason. -/
def DropReason.message : DropReason → String
  | payloadError => "payload error"
  | backpressure => "backpressure"
  | overflow => "overflow"

/-- What feeding a payload can lead to. -/
inductive Outcome where
  | frame (frame : CompletedFrame)
  | dropped (reason : DropReason) (bytes : Nat)
  /-- The frame id flipped before the frame was complete. -/
  | unfinished (bytes : Nat)
  | headerTooShort (error : HeaderError)
  deriving DecidableEq

/-- Groups payloads into frames. -/
structure Reassembler where
  layout : FrameLayout
  /-- Data of the frame in progress. -/
  buffer : Array UInt8 := #[]
  /-- The frame id of the last payload. -/
  toggle : Option Bool := none
  /-- A frame that overflowed is skipped up to its boundary. -/
  discarding : Bool := false
  /-- Number of frames completed so far. -/
  sequence : Nat := 0
  pts : Option UInt32 := none

namespace Reassembler

/-- Nothing received yet. -/
def new (layout : FrameLayout) : Reassembler := { layout }

/-- Bytes of the frame in progress. -/
def inProgress (r : Reassembler) : Nat := r.buffer.size

/-- Drop the bytes of the frame in progress. -/
def discard (r : Reassembler) : Reassembler := { r with buffer := #[], pts := none }

/-- The frame in progress, taken as complete. -/
def currentFrame (r : Reassembler) : CompletedFrame :=
  { sequence := r.sequence + 1
    width := r.layout.width
    height := r.layout.height
    encoding := r.layout.encoding
    pts := r.pts
    data := r.buffer.toList }

/-- Count the frame in progress as complete and start afresh. -/
def finish (r : Reassembler) : Reassembler :=
  { r with buffer := #[], pts := none, sequence := r.sequence + 1 }

/-- Drop the frame in progress and forget the frame id; yields the number of bytes dropped. -/
def reset (r : Reassembler) : Nat × Reassembler :=
  (r.inProgress, { r.discard with toggle := none, discarding := false })

/-- The frame id flipped. Devices that never flag the end of a frame are still served where the
size of a frame is known. -/
def crossBoundary (r : Reassembler) : List Outcome × Reassembler :=
  let r := { r with discarding := false }
  if r.buffer.isEmpty then ([], r)
  else if r.layout.expectedSize = some r.buffer.size then ([.frame r.currentFrame], r.finish)
  else ([.unfinished r.buffer.size], r.discard)

/-- Whether `size` bytes are more than the layout allows. -/
def exceeds (layout : FrameLayout) (size : Nat) : Bool :=
  match layout.maxFrameSize with
  | some max => max < size
  | none => false

/-- Take in the data of a payload. The first data of a frame fixes its presentation time. -/
def accept (r : Reassembler) (pts : Option UInt32) (data : Bytes) : List Outcome × Reassembler :=
  if data.isEmpty || r.discarding then ([], r)
  else if exceeds r.layout (r.buffer.size + data.length) then
    ([.dropped .overflow (r.buffer.size + data.length)], { r.discard with discarding := true })
  else
    let pts := if r.buffer.isEmpty then pts else r.pts
    let ⟨layout, buffer, toggle, discarding, sequence, _⟩ := r
    ([], ⟨layout, buffer ++ data, toggle, discarding, sequence, pts⟩)

/-- The end-of-frame flag was set. -/
def endFrame (r : Reassembler) : List Outcome × Reassembler :=
  if r.discarding then ([], { r with discarding := false })
  else if r.buffer.isEmpty then ([], r)
  else ([.frame r.currentFrame], r.finish)

/-- Feed the data of a payload whose header is `header` and has no error bit. -/
def take (r : Reassembler) (header : Header) (data : Bytes) : List Outcome × Reassembler :=
  let (atBoundary, r) :=
    if r.toggle = some !header.frameId then r.crossBoundary else ([], r)
  let (onData, r) := { r with toggle := some header.frameId }.accept header.pts data
  let (atEnd, r) := if header.endOfFrame then r.endFrame else ([], r)
  (atBoundary ++ onData ++ atEnd, r)

/-- Feed one payload, header included. -/
def push (r : Reassembler) (payload : Bytes) : List Outcome × Reassembler :=
  match Header.parse payload with
  | .error e => ([.headerTooShort e], r)
  | .ok header =>
    if header.error then
      ([.dropped .payloadError r.inProgress], { r.discard with toggle := none })
    else r.take header (header.data payload)

/-- Feed payloads in order. -/
def pushAll (r : Reassembler) : List Bytes → List Outcome × Reassembler
  | [] => ([], r)
  | p :: ps =>
    let (first, r) := r.push p
    let (later, r) := r.pushAll ps
    (first ++ later, r)

end Reassembler

end UsbVideo
