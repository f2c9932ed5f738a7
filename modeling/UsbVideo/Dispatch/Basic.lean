import UsbVideo.Dispatch.Reorder
import UsbVideo.Lineup
import UsbVideo.Log
import UsbVideo.Stream.Config

/-!
# Dispatching transfers

A `Dispatch` keeps a pool of transfers in flight on one endpoint. Each completion is put in order,
its payloads are handed on, and its buffer is submitted again.

    completion  ──reorder──▶  process  ──▶  payloads, counters, faults
         └── buffer ──▶  idle  ──refill──▶  in flight

Numbers are given to accepted submissions only, so the window never waits for a number that cannot
complete. What a step hands on is a list of `DispatchOutput`s in order.
-/

namespace UsbVideo

/-- Failures in a row that end a stream. -/
def maxConsecutiveFailures : Nat := 3

/-- Counters of a dispatch. -/
structure DispatchStats where
  submitted : Nat := 0
  completed : Nat := 0
  failed : Nat := 0
  cancelled : Nat := 0
  resubmitFailures : Nat := 0
  packetErrors : Nat := 0
  payloadBytes : Nat := 0
  deriving DecidableEq

/-- What a dispatch hands on. -/
inductive DispatchOutput where
  | payload (bytes : Bytes)
  | log (line : LogLine)
  deriving DecidableEq

/-- Failures in a row, and the counters. -/
structure DispatchTally where
  failures : Nat := 0
  stats : DispatchStats := {}
  deriving DecidableEq

/-- A pool of transfers on one endpoint. -/
structure Dispatch where
  plan : TransferPlan
  /-- Where its completions are posted. -/
  mailbox : Mailbox
  window : ReorderWindow := { next := 1 }
  /-- Numbers of the transfers in flight, ascending. -/
  inFlight : Lineup Nat := {}
  /-- Transfers at hand, the latest first. -/
  idle : List Transfer := []
  nextId : Nat := 1
  tally : DispatchTally := {}

namespace DispatchTally

/-- Change the counters. -/
def count (t : DispatchTally) (f : DispatchStats → DispatchStats) : DispatchTally :=
  { t with stats := f t.stats }

/-- One more failure in a row. -/
def fail (t : DispatchTally) (status : TransferStatus) :
    DispatchTally × List DispatchOutput × Option StreamFault :=
  let failures := t.failures + 1
  ({ t with failures },
    [.log (.warn
      s!"Transfer failed with {status.name} ({failures}/{maxConsecutiveFailures})")],
    if maxConsecutiveFailures ≤ failures then some (.transferFailures failures status) else none)

/-- Process what a transfer brought, in its turn. -/
def process (t : DispatchTally) (r : Received) :
    DispatchTally × List DispatchOutput × Option StreamFault :=
  match r.status with
  | .completed =>
    let t := { t with failures := 0 }.count fun s =>
      { s with
        completed := s.completed + 1
        packetErrors := s.packetErrors + r.failedPackets
        payloadBytes := s.payloadBytes + total (r.payloads.map List.length) }
    (t, r.payloads.map .payload, none)
  | .noDevice => (t, [.log (.warn "Transfer reports the device is gone")], some .disconnected)
  | status => (t.count fun s => { s with failed := s.failed + 1 }).fail status

/-- Process everything held whose turn has come, up to a fault. -/
def releaseReady (t : DispatchTally) (w : ReorderWindow) :
    DispatchTally × ReorderWindow × List DispatchOutput × Option StreamFault :=
  match _h : w.ready? with
  | none => (t, w, [], none)
  | some r =>
    match t.process r with
    | (t, outputs, some fault) => (t, w.pass, outputs, some fault)
    | (t, outputs, none) =>
      let (t, w, later, fault) := t.releaseReady w.pass
      (t, w, outputs ++ later, fault)
termination_by w.held.length
decreasing_by exact ReorderWindow.length_pass_lt _h

end DispatchTally

/-- Memory that pools are allocated from. -/
structure Memory where
  /-- Whether the `n`-th allocation of a pool, of so many bytes, succeeds. -/
  grants : (n bytes : Nat) → Bool

namespace Memory

/-- Each allocation within this size succeeds. -/
def ofSize (size : Nat) : Memory where
  grants _ bytes := bytes ≤ size

/-- The most bytes an allocation can be asked for. -/
def allocationLimit : Nat := 0x7FFFFFFFFFFFFFFF

/-- Ask for the `n`-th allocation of a pool. -/
def reserve (m : Memory) (n bytes : Nat) : Except AllocationFailure Unit :=
  if allocationLimit < bytes then .error .capacityOverflow
  else if m.grants n bytes then .ok ()
  else .error .outOfMemory

/-- Ask for allocations of one size, from the `n`-th on. -/
def reserveAll (m : Memory) (bytes : Nat) : (n count : Nat) → Except AllocationFailure Unit
  | _, 0 => .ok ()
  | n, count + 1 => do
    m.reserve n bytes
    m.reserveAll bytes (n + 1) count

end Memory

/-- What a step of a dispatch leads to. -/
structure DispatchStep (σ : Type) where
  dispatch : Dispatch
  device : σ
  outputs : List DispatchOutput := []
  fault : Option StreamFault := none

namespace Dispatch

variable {σ : Type} [Transport σ]

/-- Submit a transfer under the next number. A refused one comes back and takes no number. -/
def submit (d : Dispatch) (transfer : Transfer) (device : σ) :
    Option Refusal × Dispatch × σ :=
  match Transport.submit d.mailbox (transfer.prepare d.nextId) device with
  | (.error refusal, device) => (some refusal, d, device)
  | (.ok (), device) =>
    (none,
      { d with
        nextId := d.nextId + 1
        inFlight := d.inFlight.push d.nextId
        tally := d.tally.count fun s => { s with submitted := s.submitted + 1 } },
      device)

/-- Submit the transfers at hand, the latest first. A refused one stays at hand, counts as a failure
and ends the round. -/
def submitAll (d : Dispatch) (device : σ) : List Transfer → DispatchStep σ
  | [] => { dispatch := { d with idle := [] }, device }
  | transfer :: rest =>
    match d.submit transfer device with
    | (none, d, device) => d.submitAll device rest
    | (some refusal, d, device) =>
      let d :=
        { d with
          idle := refusal.transfer :: rest
          tally := d.tally.count fun s => { s with resubmitFailures := s.resubmitFailures + 1 } }
      if refusal.error = .noDevice then { dispatch := d, device, fault := some .disconnected }
      else
        let (tally, outputs, fault) := d.tally.fail .error
        { dispatch := { d with tally }, device, outputs, fault }

/-- Submit every transfer at hand. -/
def refill (d : Dispatch) (device : σ) : DispatchStep σ :=
  { d with idle := [] }.submitAll device d.idle

/-- Process a completion if its turn has come, or else hold what it brought. -/
def arrange (d : Dispatch) (c : Completion) : Dispatch × List DispatchOutput × Option StreamFault :=
  let received := Received.ofCompletion c
  if d.window.isNext c.transfer.id then
    let (tally, outputs, fault) := d.tally.process received
    ({ d with window := d.window.advance, tally }, outputs, fault)
  else ({ d with window := d.window.hold c.transfer.id received }, [], none)

/-- Take in a completion: put it in order, process whatever has its turn, and submit again. -/
def receive (d : Dispatch) (c : Completion) (device : σ) : DispatchStep σ :=
  let d := { d with inFlight := d.inFlight.eraseP (· == c.transfer.id) }
  let (d, onArrival, fault) := d.arrange c
  let d := { d with idle := c.transfer :: d.idle }
  if fault.isSome then { dispatch := d, device, outputs := onArrival, fault }
  else
    let (tally, window, released, fault) := d.tally.releaseReady d.window
    let d := { d with tally, window }
    if fault.isSome then { dispatch := d, device, outputs := onArrival ++ released, fault }
    else
      let step := d.refill device
      { step with outputs := onArrival ++ released ++ step.outputs }

/-! ### Winding down -/

/-- Ask for every transfer in flight back. Refusals are of no consequence. -/
def cancelAll (d : Dispatch) (device : σ) : List Post × σ :=
  go d.inFlight.toList device
where
  go : List Nat → σ → List Post × σ
    | [], device => ([], device)
    | id :: ids, device =>
      let (_, posts, device) := Transport.cancel d.plan.endpoint id device
      let (later, device) := go ids device
      (posts ++ later, device)

/-- Take in a completion while winding down: it is counted and goes no further. -/
def reclaim (d : Dispatch) (c : Completion) : Dispatch :=
  { d with
    inFlight := d.inFlight.eraseP (· == c.transfer.id)
    tally :=
      if c.status = .cancelled then
        d.tally.count fun s => { s with cancelled := s.cancelled + 1 }
      else d.tally }

/-! ### Starting -/

/-- Bytes the bookkeeping of one transfer takes. -/
def transferRecordSize : Nat := 80

/-- The size of a request of this plan, if the pool can be counted at all. -/
def poolShape (p : TransferPlan) : Except AllocationFailure Nat :=
  match p.requestSize with
  | some size =>
    if 0 < size ∧ 0 < p.requestCount then
      if size * p.requestCount < sizeLimit then .ok size else .error .poolOverflow
    else .error (.shape p.requestCount p.packetSize p.packetsPerRequest)
  | none => .error (.shape p.requestCount p.packetSize p.packetsPerRequest)

/-- The transfers of a pool, their buffers zeroed. The bookkeeping is allocated first, and then one buffer
after the other. -/
def allocatePool (memory : Memory) (p : TransferPlan) (size : Nat) :
    Except AllocationFailure (List Transfer) := do
  memory.reserve 0 (p.requestCount * transferRecordSize)
  memory.reserveAll size 1 p.requestCount
  let buffer := Buffer.zeroed size
  let transfer :=
    match p.kind with
    | .isochronous => Transfer.isochronous p.endpoint p.packetSize p.packetsPerRequest buffer
    | .bulk => Transfer.bulk p.endpoint buffer
  return List.replicate p.requestCount transfer

/-- Submit a fresh pool in order, up to the first refusal. -/
def submitPool (d : Dispatch) (device : σ) : List Transfer → Option TransportError × Dispatch × σ
  | [] => (none, d, device)
  | transfer :: rest =>
    match d.submit transfer device with
    | (none, d, device) => d.submitPool device rest
    | (some refusal, d, device) => (some refusal.error, d, device)

end Dispatch

end UsbVideo
