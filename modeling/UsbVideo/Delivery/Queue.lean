import UsbVideo.Frame

/-!
# The frame queue

Frames wait here between reassembly and decoding. The producer never waits: a full queue gives up its
oldest frame. After `close` nothing goes in and nothing comes out for the consumer.
-/

namespace UsbVideo

/-- A bounded queue that keeps the newest frames. -/
structure FrameQueue where
  capacity : Nat
  /-- Waiting frames, the oldest first. -/
  frames : List CompletedFrame := []
  closed : Bool := false
  written : Nat := 0
  read : Nat := 0
  dropped : Nat := 0

namespace FrameQueue

/-- A queue of at least one place. -/
def new (capacity : Nat) : FrameQueue := { capacity := max capacity 1 }

/-- Put in a frame. A full queue evicts the oldest one and yields it; a closed one takes nothing. -/
def push (q : FrameQueue) (frame : CompletedFrame) : Option CompletedFrame × FrameQueue :=
  if q.closed then (none, q)
  else if q.frames.length < q.capacity then
    (none, { q with frames := q.frames ++ [frame], written := q.written + 1 })
  else
    match q.frames with
    | [] => (none, { q with frames := [frame], written := q.written + 1 })
    | oldest :: rest =>
      (some oldest,
        { q with
          frames := rest ++ [frame]
          written := q.written + 1
          dropped := q.dropped + 1 })

/-- Take the oldest frame, closed or not. -/
def tryPop (q : FrameQueue) : Option CompletedFrame × FrameQueue :=
  match q.frames with
  | [] => (none, q)
  | frame :: rest => (some frame, { q with frames := rest, read := q.read + 1 })

/-- What waiting for a frame has come to. -/
inductive Awaited where
  | frame (frame : CompletedFrame)
  | closed
  /-- Nothing yet; ask again after the next push or close. -/
  | pending

/-- Look for a frame as the consumer does: a closed queue has none, whatever is left in it. -/
def pop (q : FrameQueue) : Awaited × FrameQueue :=
  if q.closed then (.closed, q)
  else
    match q.tryPop with
    | (some frame, q) => (.frame frame, q)
    | (none, q) => (.pending, q)

/-- End delivery. -/
def close (q : FrameQueue) : FrameQueue := { q with closed := true }

/-- Throw away every waiting frame; yields their number. -/
def clear (q : FrameQueue) : Nat × FrameQueue := (q.frames.length, { q with frames := [] })

end FrameQueue

end UsbVideo
