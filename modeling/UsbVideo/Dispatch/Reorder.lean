import UsbVideo.Transport.Basic

/-!
# Reordering completions

Transfers are numbered as they are submitted and may complete in any order. The window lets results
through in the order of their numbers: the one whose turn it is passes, one that is early is held.

An early completion is held as a copy of its payloads, so that its buffer can be submitted again.
-/

namespace UsbVideo

/-- What a completed transfer brought. -/
structure Received where
  status : TransferStatus
  payloads : List Bytes
  failedPackets : Nat
  deriving DecidableEq

/-- A copy of what a completion brought; a failed transfer brings no payloads. -/
def Received.ofCompletion (c : Completion) : Received :=
  { status := c.status
    payloads := if c.status.isSuccess then c.transfer.payloads else []
    failedPackets := c.transfer.failedPackets }

/-- The number whose turn it is and what is held for later. -/
structure ReorderWindow where
  next : Nat
  held : List (Nat × Received) := []

namespace ReorderWindow

def isNext (w : ReorderWindow) (id : Nat) : Bool := id == w.next

/-- The transfer whose turn it was has passed. -/
def advance (w : ReorderWindow) : ReorderWindow := { w with next := w.next + 1 }

/-- Hold an early one. -/
def hold (w : ReorderWindow) (id : Nat) (r : Received) : ReorderWindow :=
  { w with held := (id, r) :: w.held.filter (·.1 ≠ id) }

/-- The one held whose turn it is. -/
def ready? (w : ReorderWindow) : Option Received :=
  (w.held.find? (·.1 == w.next)).map (·.2)

/-- Let the one whose turn it is go. -/
def pass (w : ReorderWindow) : ReorderWindow :=
  { next := w.next + 1, held := w.held.filter (·.1 ≠ w.next) }

/-- Letting one go leaves fewer. -/
theorem length_pass_lt {w : ReorderWindow} {r : Received} (h : w.ready? = some r) :
    w.pass.held.length < w.held.length := by
  obtain ⟨entry, hfind, -⟩ := Option.map_eq_some_iff.mp h
  have hmem := List.mem_of_find?_eq_some hfind
  have hkey : entry.1 = w.next := by simpa using List.find?_some hfind
  refine List.length_filter_lt_length_iff_exists.mpr ⟨entry, hmem, ?_⟩
  simp [hkey]

end ReorderWindow

end UsbVideo
