import Mathlib.Data.List.Perm.Subperm
import UsbVideo.Dispatch.Task

/-!
# Books on both sides of a dispatch

A dispatch stands between a bus stack and a client:

    bus stack  ──completions──▶  dispatch  ──payloads, a fault──▶  client
        ◀────────submissions────────┘

What it promises is about the traffic on both sides, over a whole run. Here both sides keep books:

* `Ledger σ` is a bus stack that writes down the submissions it accepted and the completions it
  posted. `Ledger.Honest` is the contract of a bus stack, read off these books: every completion
  posted to a mailbox belongs to a submission accepted for it, and no submission has two.
* `Transcribed κ` is a client that writes down the payloads and faults it was handed.

The books are only ever written. A dispatch on a `Ledger` is a dispatch on the bus stack inside, and
a client does not see its transcript, so a statement about all ledgers and transcripts is one about
all bus stacks and clients.
-/

namespace UsbVideo

/-! ### The books of a bus stack -/

/-- The completions among these posts that go to a mailbox, in order. -/
def Post.completionsFor (mailbox : Mailbox) (posts : List Post) : List Completion :=
  (posts.filter (·.mailbox == mailbox)).map (·.completion)

@[simp] theorem Post.completionsFor_append (mailbox : Mailbox) (first later : List Post) :
    completionsFor mailbox (first ++ later) =
      completionsFor mailbox first ++ completionsFor mailbox later := by
  simp [completionsFor]

/-- A bus stack and what went through it. -/
structure Ledger (σ : Type) where
  device : σ
  /-- The submissions accepted and the mailboxes of their completions, the oldest first. -/
  accepted : List (Mailbox × Transfer) := []
  /-- The completions posted, the oldest first. -/
  posted : List Post := []

namespace Ledger

variable {σ : Type}

/-- Numbers of the transfers accepted for a mailbox, the oldest first. -/
def acceptedFor (l : Ledger σ) (mailbox : Mailbox) : List Nat :=
  (l.accepted.filter (·.1 == mailbox)).map (·.2.id)

/-- The completions posted to a mailbox, the oldest first. -/
def postedTo (l : Ledger σ) (mailbox : Mailbox) : List Completion :=
  Post.completionsFor mailbox l.posted

/-- The bus stack did something of its own and posted completions. -/
def act (l : Ledger σ) (device : σ) (posts : List Post) : Ledger σ :=
  { l with device, posted := l.posted ++ posts }

/-- The contract of a bus stack towards a mailbox: each completion is one of an accepted transfer,
and each accepted transfer has at most one. -/
def Honest (l : Ledger σ) (mailbox : Mailbox) : Prop :=
  ((l.postedTo mailbox).map (·.transfer.id)).Subperm (l.acceptedFor mailbox)

instance [Transport σ] : Transport (Ledger σ) where
  deviceId l := Transport.deviceId l.device
  deviceDescriptor l :=
    let (answer, device) := Transport.deviceDescriptor l.device
    (answer, { l with device })
  configurationDescriptor l :=
    let (answer, device) := Transport.configurationDescriptor l.device
    (answer, { l with device })
  controlIn setup length timeout l :=
    let (answer, device) := Transport.controlIn setup length timeout l.device
    (answer, { l with device })
  controlOut setup data timeout l :=
    let (answer, device) := Transport.controlOut setup data timeout l.device
    (answer, { l with device })
  setInterface interface alt l :=
    let (answer, device) := Transport.setInterface interface alt l.device
    (answer, { l with device })
  submit mailbox transfer l :=
    match Transport.submit mailbox transfer l.device with
    | (.ok (), device) => (.ok (), { l with device, accepted := l.accepted ++ [(mailbox, transfer)] })
    | (.error refusal, device) => (.error refusal, { l with device })
  cancel endpoint id l :=
    let (answer, posts, device) := Transport.cancel endpoint id l.device
    (answer, posts, l.act device posts)

/-- An accepted submission is written down; nothing else changes in the books. -/
theorem submit_ok [Transport σ] {mailbox : Mailbox} {transfer : Transfer} {l l' : Ledger σ}
    (h : Transport.submit mailbox transfer l = (.ok (), l')) :
    l'.accepted = l.accepted ++ [(mailbox, transfer)] ∧ l'.posted = l.posted := by
  simp only [Transport.submit] at h
  split at h
  · cases h
    exact ⟨rfl, rfl⟩
  · cases h

/-- A refused submission leaves the books as they are. -/
theorem submit_error [Transport σ] {mailbox : Mailbox} {transfer : Transfer} {l l' : Ledger σ}
    {refusal : Refusal} (h : Transport.submit mailbox transfer l = (.error refusal, l')) :
    l'.accepted = l.accepted ∧ l'.posted = l.posted := by
  simp only [Transport.submit] at h
  split at h
  · cases h
  · cases h
    exact ⟨rfl, rfl⟩

end Ledger

/-! ### The books of a client -/

/-- A client and what it was handed. -/
structure Transcribed (κ : Type) where
  client : κ
  /-- Every payload, the oldest first. -/
  payloads : List Bytes := []
  /-- Every fault, the oldest first. -/
  faults : List StreamFault := []

instance {κ ν : Type} [StreamClient κ ν] : StreamClient (Transcribed κ) ν where
  payload bytes t :=
    let (effects, client) := StreamClient.payload bytes t.client
    (effects, { t with client, payloads := t.payloads ++ [bytes] })
  fault fault t :=
    let (effects, client) := StreamClient.fault fault t.client
    (effects, { t with client, faults := t.faults ++ [fault] })
  isClosed t := StreamClient.isClosed t.client
  work t :=
    let (effects, client) := StreamClient.work t.client
    (effects, { t with client })

namespace DispatchOutput

/-- The payload handed on, if it is one. -/
def payload? : DispatchOutput → Option Bytes
  | payload bytes => some bytes
  | log _ => none

/-- The payloads among what a dispatch hands on, in order. -/
def payloads (outputs : List DispatchOutput) : List Bytes := outputs.filterMap payload?

@[simp] theorem payloads_nil : payloads [] = [] := rfl

@[simp] theorem payloads_append (first later : List DispatchOutput) :
    payloads (first ++ later) = payloads first ++ payloads later :=
  List.filterMap_append

@[simp] theorem payloads_log (line : LogLine) : payloads [.log line] = [] := rfl

@[simp] theorem payloads_map_payload (bytes : List Bytes) : payloads (bytes.map .payload) = bytes := by
  induction bytes with
  | nil => rfl
  | cons b bs ih => simpa [payloads, payload?] using ih

end DispatchOutput

namespace Transcribed

variable {κ ν : Type} [StreamClient κ ν]

/-- A client is handed the payloads of a dispatch, all of them and in order. -/
theorem payloads_relay (t : Transcribed κ) (outputs : List DispatchOutput) :
    (relay (ν := ν) t outputs).2.payloads = t.payloads ++ DispatchOutput.payloads outputs := by
  induction outputs generalizing t with
  | nil => simp [relay]
  | cons output outputs ih =>
    cases output with
    | log line => exact ih t
    | payload bytes =>
      show (relay (ν := ν) (StreamClient.payload (ν := ν) bytes t).2 outputs).2.payloads = _
      rw [ih]
      simp [StreamClient.payload, DispatchOutput.payloads, DispatchOutput.payload?]

/-- A fault adds no payload. -/
theorem payloads_fault (t : Transcribed κ) (fault : StreamFault) :
    (StreamClient.fault (ν := ν) fault t).2.payloads = t.payloads := rfl

end Transcribed

end UsbVideo
