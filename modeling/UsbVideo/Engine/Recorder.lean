import UsbVideo.Engine.World

/-!
# A client that records

A `Recorder` passes on every payload and fault under its name, and may give up after a number of
payloads.
-/

namespace UsbVideo

/-- What a recorder was handed. -/
inductive Recording where
  | payload (recorder : Nat) (bytes : Bytes)
  | fault (recorder : Nat) (fault : StreamFault)

/-- Passes on what it is handed. -/
structure Recorder where
  name : Nat
  /-- Payloads after which it gives up. -/
  closeAfter : Option Nat := none
  received : Nat := 0

instance : StreamClient Recorder Recording where
  payload bytes r := ([.tell (.payload r.name bytes)], { r with received := r.received + 1 })
  fault fault r := ([.tell (.fault r.name fault)], r)
  isClosed r := r.closeAfter.any (· ≤ r.received)
  work r := ([], r)

namespace World

/-- Start a pool of transfers for a recorder of its own. -/
def record {σ : Type} [Transport σ] (w : World σ Recorder Recording) (recorder : Recorder)
    (plan : TransferPlan) : Except StartError Mailbox × World σ Recorder Recording :=
  { w with clients := w.clients ++ [recorder] }.start w.clients.length plan

end World

end UsbVideo
