import UsbVideo.Lineup
import UsbVideo.Transport.Basic

/-!
# A scripted bus stack

A `ScriptedTransport` accepts submissions into a list, refuses them as a script says, and completes
them when its owner says so. Control transfers are answered from the script and recorded; without an
answer they stall.
-/

namespace UsbVideo

/-- What becomes of a request to take a transfer back. -/
inductive CancelMode where
  /-- It comes back as cancelled. -/
  | honour
  /-- It comes back as stalled. -/
  | stall
  /-- Nothing happens. -/
  | swallow
  /-- The request is refused. -/
  | refuse
  deriving DecidableEq

/-- A control transfer that was asked for. -/
inductive ControlCall where
  | read (setup : ControlSetup) (timeout length : Nat)
  | write (setup : ControlSetup) (timeout : Nat) (data : Bytes)
  deriving DecidableEq

/-- A bus stack that follows a script. -/
structure ScriptedTransport where
  /-- Submissions not completed, with their mailboxes, the oldest first. -/
  pending : Lineup (Mailbox × Transfer) := {}
  submitted : Nat := 0
  /-- What to do with the next submissions: refuse them with an error, or accept. -/
  submitScript : List (Option TransportError) := []
  cancelMode : CancelMode := .honour
  /-- Every transfer asked back so far. -/
  cancelCalls : Array Nat := #[]
  /-- Answers to the next reads. -/
  readScript : List (Except TransportError Bytes) := []
  /-- Errors of the next writes, or none. -/
  writeScript : List (Option TransportError) := []
  calls : List ControlCall := []

namespace ScriptedTransport

/-- Complete the `n`-th pending transfer after `prepare` has filled it; yields its number. -/
def completeNth (s : ScriptedTransport) (n : Nat) (status : TransferStatus)
    (prepare : Transfer → Transfer) : Option Nat × List Post × ScriptedTransport :=
  match s.pending.toList[n]? with
  | none => (none, [], s)
  | some (mailbox, transfer) =>
    (some transfer.id, [⟨mailbox, ⟨prepare transfer, status⟩⟩],
      { s with pending := s.pending.eraseIdx n })

def submit (s : ScriptedTransport) (mailbox : Mailbox) (transfer : Transfer) :
    Except Refusal Unit × ScriptedTransport :=
  match s.submitScript with
  | some error :: script => (.error ⟨transfer, error⟩, { s with submitScript := script })
  | _ =>
    (.ok (), { s with
      submitScript := s.submitScript.tail
      submitted := s.submitted + 1
      pending := s.pending.push (mailbox, transfer) })

/-- Post a pending transfer of an endpoint with this status, if it is there. -/
def giveBack (s : ScriptedTransport) (endpoint : UInt8) (id : Nat) (status : TransferStatus) :
    List Post × ScriptedTransport :=
  let wanted : Mailbox × Transfer → Bool := fun (_, t) => t.endpoint == endpoint && t.id == id
  match s.pending.find? wanted with
  | none => ([], s)
  | some (mailbox, transfer) =>
    ([⟨mailbox, ⟨transfer, status⟩⟩], { s with pending := s.pending.eraseP wanted })

def cancel (s : ScriptedTransport) (endpoint : UInt8) (id : Nat) :
    Except TransportError Unit × List Post × ScriptedTransport :=
  let s := { s with cancelCalls := s.cancelCalls.push id }
  match s.cancelMode with
  | .honour => (.ok (), s.giveBack endpoint id .cancelled)
  | .stall => (.ok (), s.giveBack endpoint id .stall)
  | .swallow => (.ok (), [], s)
  | .refuse => (.error (.io "cancel refused"), [], s)

instance : Transport ScriptedTransport where
  deviceId _ := "scripted"
  deviceDescriptor s := (.error .stall, s)
  configurationDescriptor s := (.error .stall, s)
  controlIn setup length timeout s :=
    let s := { s with calls := s.calls ++ [ControlCall.read setup timeout length] }
    match s.readScript with
    | answer :: script => (answer, { s with readScript := script })
    | [] => (.error .stall, s)
  controlOut setup data timeout s :=
    let s := { s with calls := s.calls ++ [ControlCall.write setup timeout data] }
    match s.writeScript with
    | some error :: script => (.error error, { s with writeScript := script })
    | none :: script => (.ok data.length, { s with writeScript := script })
    | [] => (.error .stall, s)
  setInterface _ _ s := (.ok (), s)
  submit mailbox transfer s := s.submit mailbox transfer
  cancel endpoint id s := s.cancel endpoint id

end ScriptedTransport

end UsbVideo
