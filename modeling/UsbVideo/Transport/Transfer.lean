import UsbVideo.Bytes

/-!
# Transfers

A `Transfer` is a request and the buffer it owns. An isochronous transfer divides its buffer into
packet slots of one size; a bulk transfer uses it as a whole. Whoever completes a transfer fills it;
`Transfer.payloads` is what was received.

The buffer is reused and not cleared: only the lengths and statuses recorded since the last
`Transfer.prepare` say which of its bytes count.
-/

namespace UsbVideo

/-- Transfer type of a streaming endpoint. -/
inductive TransferKind where
  | isochronous
  | bulk
  deriving DecidableEq

def TransferKind.name : TransferKind → String
  | isochronous => "isochronous"
  | bulk => "bulk"

/-- Final status of a transfer, or of one isochronous packet. -/
inductive TransferStatus where
  | completed
  | stall
  | timeout
  | overflow
  | noDevice
  | cancelled
  | error
  deriving DecidableEq

namespace TransferStatus

def isSuccess (s : TransferStatus) : Bool := s == completed

def name : TransferStatus → String
  | completed => "completed"
  | stall => "stall"
  | timeout => "timeout"
  | overflow => "overflow"
  | noDevice => "no device"
  | cancelled => "cancelled"
  | error => "error"

end TransferStatus

/-- What a packet slot received. -/
structure Packet where
  length : Nat := 0
  status : TransferStatus := .completed
  deriving DecidableEq

/-- A request and the buffer it owns. -/
structure Transfer where
  id : Nat := 0
  endpoint : UInt8
  kind : TransferKind
  /-- Bytes per packet slot; the whole buffer for bulk. -/
  packetSize : Nat
  buffer : Buffer
  packets : List Packet := []
  /-- Bytes received by a bulk transfer. -/
  actualLength : Nat := 0
  deriving DecidableEq

namespace Transfer

/-- A request of `packets` slots of `packetSize` bytes each. -/
def isochronous (endpoint : UInt8) (packetSize packets : Nat) (buffer : Buffer) : Transfer :=
  { endpoint, kind := .isochronous, packetSize, buffer, packets := List.replicate packets {} }

def bulk (endpoint : UInt8) (buffer : Buffer) : Transfer :=
  { endpoint, kind := .bulk, packetSize := buffer.size, buffer }

/-- Bytes the buffer holds. -/
def capacity (t : Transfer) : Nat := t.buffer.size

/-- Put `data` into packet slot `index`, cut to the slot, and say how many bytes were stored. There
is no result if the slot lies outside the buffer; a slot that does not exist stores nothing. -/
def fillPacket? (t : Transfer) (index : Nat) (data : Bytes) (status : TransferStatus) :
    Option (Nat × Transfer) :=
  if index < t.packets.length then
    let length := min data.length t.packetSize
    let start := index * t.packetSize
    if start + length ≤ t.buffer.size then
      let ⟨id, endpoint, kind, packetSize, buffer, packets, actualLength⟩ := t
      some (length,
        ⟨id, endpoint, kind, packetSize, buffer.write start (data.take length),
          packets.set index ⟨length, status⟩, actualLength⟩)
    else none
  else some (0, t)

/-- Fill packet slots from slot `index` on. There is no result if one of them lies outside the buffer. -/
def fillPackets? (t : Transfer) (index : Nat) : List (Bytes × TransferStatus) → Option Transfer
  | [] => some t
  | (data, status) :: rest =>
    (t.fillPacket? index data status).bind fun (_, filled) => filled.fillPackets? (index + 1) rest

/-- Put `data` at the start of the buffer, cut to its capacity, and say how many bytes were stored. -/
def fillBulk (t : Transfer) (data : Bytes) : Nat × Transfer :=
  let length := min data.length t.buffer.size
  let ⟨id, endpoint, kind, packetSize, buffer, packets, _⟩ := t
  (length, ⟨id, endpoint, kind, packetSize, buffer.write 0 (data.take length), packets, length⟩)

/-- The received payload of a bulk transfer: at most one. -/
def bulkPayloads (t : Transfer) : List Bytes :=
  if t.kind = .bulk ∧ 0 < t.actualLength then [t.buffer.read 0 t.actualLength] else []

/-- The payload of each packet that succeeded and is not empty, in packet order. -/
def packetPayloads (t : Transfer) : List Bytes :=
  t.packets.zipIdx.filterMap fun (p, i) =>
    if p.status.isSuccess && 0 < p.length then some (t.buffer.read (i * t.packetSize) p.length)
    else none

/-- The received payloads in order. -/
def payloads (t : Transfer) : List Bytes := t.bulkPayloads ++ t.packetPayloads

/-- Number of packets that failed. -/
def failedPackets (t : Transfer) : Nat := t.packets.countP (!·.status.isSuccess)

/-- Make the transfer ready to be submitted under `id`. -/
def prepare (t : Transfer) (id : Nat) : Transfer :=
  let ⟨_, endpoint, kind, packetSize, buffer, packets, _⟩ := t
  ⟨id, endpoint, kind, packetSize, buffer, packets.map fun _ => {}, 0⟩

end Transfer

end UsbVideo
