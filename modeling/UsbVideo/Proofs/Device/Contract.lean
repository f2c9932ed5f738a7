import Mathlib.Data.List.Forall2
import UsbVideo.Proofs.Device.Filling
import UsbVideo.Proofs.Dispatch.Ledger

/-!
# The contract of a bus stack, kept in memory

A bus stack owes one completion for each submission that it accepts, however it comes about. For a camera in
memory the submissions are numbered as they are accepted:

    accepted   0   1   2   3   4   5
    waiting        1           4   5      always in this order
    answered   3   0   2                  in the order of the posts

`Kept` says that each number is in one of the two lines, and only once, and that the posts and the payloads
that were taken for them fit. `Kept.leave` is the one way from waiting to answered, which completions, pumping
and cancelling share. Transfers are to have room for their slots; one that has not is lost when it is filled.
`Works` is what each call does to what is pending then, and `honours_contract` the whole contract over any
calls.
-/

namespace UsbVideo

namespace Lineup

/-! ### Leaving a line -/

variable {α : Type} {l : Lineup α} {a : α}

theorem split_of_getElem? {n : Nat} (h : l.toList[n]? = some a) :
    ∃ before after, l.toList = before ++ a :: after ∧ (l.eraseIdx n).toList = before ++ after := by
  obtain ⟨hlt, hget⟩ := List.getElem?_eq_some_iff.mp h
  refine ⟨l.toList.take n, l.toList.drop (n + 1), ?_, ?_⟩
  · rw [← hget, List.getElem_cons_drop, List.take_append_drop]
  · rw [toList_eraseIdx, List.eraseIdx_eq_take_drop_succ]

theorem find?_of_split {p : α → Bool} {before after : List α} (h : l.toList = before ++ a :: after)
    (hp : p a = true) (hbefore : ∀ b ∈ before, ¬ p b = true) :
    l.find? p = some a ∧ (l.eraseP p).toList = before ++ after := by
  constructor
  · rw [← find?_toList, h, List.find?_append, List.find?_eq_none.mpr hbefore, Option.none_or,
      List.find?_cons_of_pos hp]
  · rw [toList_eraseP, h, List.eraseP_append_right _ hbefore, List.eraseP_cons_of_pos hp]

theorem split_of_find? {p : α → Bool} (h : l.find? p = some a) :
    ∃ before after, l.toList = before ++ a :: after ∧ (l.eraseP p).toList = before ++ after := by
  rw [← find?_toList, List.find?_eq_some_iff_append] at h
  obtain ⟨hp, before, after, hsplit, hbefore⟩ := h
  have hfound := find?_of_split hsplit hp fun b hb => by simpa using hbefore b hb
  exact ⟨before, after, hsplit, hfound.2⟩

end Lineup

/-- Whether a transfer is the one of this endpoint and number. -/
def PendingTransfer.Is (p : PendingTransfer) (endpoint : UInt8) (id : Nat) : Prop :=
  p.transfer.endpoint = endpoint ∧ p.transfer.id = id

namespace Loopback

/-! ### Calls -/

/-- What can be asked of a camera in memory as far as its transfers go. -/
inductive Call where
  | submit (mailbox : Mailbox) (transfer : Transfer)
  | cancel (endpoint : UInt8) (id : Nat)
  | completeNext (status : TransferStatus)
  | completeNth (n : Nat) (status : TransferStatus)
  | pump
  | disconnect
  | queuePayload (payload : Bytes)
  | queueFrame (data : Bytes) (payloadSize : Nat)
  | failSubmits (count : Nat)

def after (l : Ledger Loopback) : Call → Ledger Loopback
  | .submit mailbox transfer => (Transport.submit mailbox transfer l).2
  | .cancel endpoint id => (Transport.cancel endpoint id l).2.2
  | .completeNext status =>
    let (_, posts, d) := l.device.completeNext status
    l.act d posts
  | .completeNth n status =>
    let (_, posts, d) := l.device.completeNth n status
    l.act d posts
  | .pump =>
    let (_, posts, d) := l.device.pump
    l.act d posts
  | .disconnect =>
    let (posts, d) := l.device.disconnect
    l.act d posts
  | .queuePayload payload => { l with device := l.device.queuePayload payload }
  | .queueFrame data payloadSize => { l with device := l.device.queueFrame data payloadSize }
  | .failSubmits count => { l with device := { l.device with failingSubmits := count } }

/-- The books after a submission that was accepted. -/
def withSubmission (l : Ledger Loopback) (mailbox : Mailbox) (transfer : Transfer) :
    Ledger Loopback :=
  { l with
    device := { l.device with
      submitted := l.device.submitted + 1
      pending := l.device.pending.push ⟨mailbox, transfer⟩ }
    accepted := l.accepted ++ [(mailbox, transfer)] }

def run (l : Ledger Loopback) (calls : List Call) : Ledger Loopback := calls.foldl after l

/-- Whether the next frame gets the other frame id. -/
def Call.flips : Call → Bool
  | .queueFrame _ _ => true
  | _ => false

/-- The payloads that a call queues, if the next frame gets this frame id. -/
def Call.payloads (toggle : Bool) : Call → List Bytes
  | .queuePayload payload => [payload]
  | .queueFrame data payloadSize =>
    let chunk := max (payloadSize - 2) 1
    framePayloads toggle chunk (max (divCeil data.length chunk) 1) data
  | _ => []

/-- All payloads that calls queue, in order. -/
def queuedBy (toggle : Bool) : List Call → List Bytes
  | [] => []
  | call :: calls => call.payloads toggle ++ queuedBy (toggle ^^ call.flips) calls

/-! ### Pending transfers that leave -/

/-- A transfer comes back filled with these payloads if it succeeded, and otherwise as it was. -/
structure Completes (transfer : Transfer) (taken : List Bytes) (completion : Completion) : Prop where
  id : completion.transfer.id = transfer.id
  filled : completion.status.isSuccess = true → fill transfer taken = (some completion.transfer, [])
  untouched : completion.status.isSuccess = false → taken = [] ∧ completion.transfer = transfer

/-- A pending transfer leaves with a completion, and these payloads leave the queue for it. -/
structure Leaves (d : Loopback) (taken : List Bytes) (post : Post) (d' : Loopback) : Prop where
  pending : ∃ before p after, d.pending.toList = before ++ p :: after ∧
    d'.pending.toList = before ++ after ∧ p.mailbox = post.mailbox ∧
    Completes p.transfer taken post.completion
  payloads : d.payloads = taken ++ d'.payloads
  submitted : d'.submitted = d.submitted
  connected : d'.connected = d.connected
  toggle : d'.toggle = d.toggle

/-- Pending transfers leave one after the other, with these posts. -/
inductive Answering : Loopback → List Post → Loopback → Prop where
  | none (d : Loopback) : Answering d [] d
  | leave {d d' d'' : Loopback} {taken : List Bytes} {post : Post} {posts : List Post}
      (first : Leaves d taken post d') (later : Answering d' posts d'') :
      Answering d (post :: posts) d''

namespace Answering

variable {d d' d'' : Loopback} {posts posts' : List Post}

theorem one {taken : List Bytes} {post : Post} (h : Leaves d taken post d') :
    Answering d [post] d' :=
  .leave h (.none d')

theorem trans (h : Answering d posts d') (h' : Answering d' posts' d'') :
    Answering d (posts ++ posts') d'' := by
  induction h with
  | none => exact h'
  | leave first _ ih => exact .leave first (ih h')

theorem connected (h : Answering d posts d') : d'.connected = d.connected := by
  induction h with
  | none => rfl
  | leave first _ ih => exact ih.trans first.connected

theorem toggle (h : Answering d posts d') : d'.toggle = d.toggle := by
  induction h with
  | none => rfl
  | leave first _ ih => exact ih.trans first.toggle

end Answering

/-- Every pending transfer has room for its slots. -/
def Roomy (d : Loopback) : Prop := ∀ p ∈ d.pending.toList, p.transfer.HasRoom

theorem Leaves.roomy {d d' : Loopback} {taken : List Bytes} {post : Post} (h : Leaves d taken post d')
    (roomy : d.Roomy) : d'.Roomy := by
  obtain ⟨before, p, after, hthere, hleft, -⟩ := h.pending
  intro q hq
  apply roomy
  rw [hleft] at hq
  rw [hthere]
  exact ((List.sublist_cons_self p after).append_left before).subset hq

/-- What is completed with success takes payloads from the queue, as many as there are places for. Else
nothing is taken. -/
theorem completes_fill {t : Transfer} (room : t.HasRoom) (payloads : List Bytes)
    (status : TransferStatus) :
    ∃ taken filled rest,
      (if status.isSuccess then fill t payloads else (some t, payloads)) = (some filled, rest) ∧
      payloads = taken ++ rest ∧ Completes t taken ⟨filled, status⟩ ∧
      (status.isSuccess = true → taken.length = min t.places payloads.length) := by
  cases hstatus : status.isSuccess with
  | true =>
    obtain ⟨taken, filled, rest, hfill, hpayloads, hcount, htaken, hid⟩ := fill_taken room payloads
    exact ⟨taken, filled, rest, hfill, hpayloads,
      ⟨hid, fun _ => htaken, fun h => absurd (hstatus.symm.trans h) nofun⟩, fun _ => hcount⟩
  | false =>
    exact ⟨[], t, payloads, rfl, rfl, ⟨rfl, fun h => absurd (hstatus.symm.trans h) nofun,
      fun _ => ⟨rfl, rfl⟩⟩, nofun⟩

/-- The `n`-th pending transfer completes: it leaves what is pending, and takes payloads if that is a
success. -/
def CompletesNth (d : Loopback) (n : Nat) (p : PendingTransfer) (status : TransferStatus) : Prop :=
  ∃ taken transfer d', d.completeNth n status = (some true, [⟨p.mailbox, ⟨transfer, status⟩⟩], d') ∧
    Leaves d taken ⟨p.mailbox, ⟨transfer, status⟩⟩ d' ∧
    d'.pending.toList = d.pending.toList.eraseIdx n ∧ Completes p.transfer taken ⟨transfer, status⟩ ∧
    (status.isSuccess = true → taken.length = min p.transfer.places d.payloads.length)

theorem completeNth_beyond {d : Loopback} {n : Nat} (beyond : d.pending.toList[n]? = none)
    (status : TransferStatus) : d.completeNth n status = (some false, [], d) := by
  rw [completeNth, beyond]

/-- Without room there is no answer, and no transfer any more. -/
example :
    let t := Transfer.isochronous 0x81 4 1 (Buffer.zeroed 2)
    let d : Loopback :=
      { name := "camera", model := {}, pending := { front := [⟨0, t⟩] }, payloads := [[1, 2, 3]] }
    d.completeNext .completed = (none, [], { d with pending := {}, payloads := [] }) := rfl

section Roomy

variable {d : Loopback} (roomy : d.Roomy)

include roomy

theorem completesNth {n : Nat} {p : PendingTransfer} (there : d.pending.toList[n]? = some p)
    (status : TransferStatus) : d.CompletesNth n p status := by
  obtain ⟨taken, filled, rest, hfill, hpayloads, hcompletes, hcount⟩ :=
    completes_fill (roomy p (List.mem_of_getElem? there)) d.payloads status
  obtain ⟨before, after, hsplit, hleft⟩ := Lineup.split_of_getElem? there
  refine ⟨taken, filled, { d with pending := d.pending.eraseIdx n, payloads := rest }, ?_,
    ⟨⟨before, p, after, hsplit, hleft, rfl, hcompletes⟩, hpayloads, rfl, rfl, rfl⟩,
    Lineup.toList_eraseIdx .., hcompletes, hcount⟩
  unfold completeNth
  rw [there]
  dsimp only
  rw [hfill]

theorem answering_completeNth (n : Nat) (status : TransferStatus) :
    Answering d (d.completeNth n status).2.1 (d.completeNth n status).2.2 := by
  cases there : d.pending.toList[n]? with
  | none =>
    rw [completeNth_beyond there]
    exact .none d
  | some p =>
    obtain ⟨taken, transfer, d', heq, hleaves, -⟩ := completesNth roomy there status
    rw [heq]
    exact .one hleaves

/-- Turns of pumping complete one transfer each, until no payload is left or nothing is pending. -/
theorem pumpTurns_spec (turns : Nat) :
    ∃ n posts d', d.pumpTurns turns = (some n, posts, d') ∧ Answering d posts d' ∧ posts.length = n ∧
      (∀ post ∈ posts, post.completion.status = .completed) ∧
      (d.pending.toList.length ≤ turns → d'.payloads = [] ∨ d'.pending.toList = []) := by
  induction turns generalizing d with
  | zero =>
    refine ⟨0, [], d, rfl, .none d, rfl, nofun, fun hfew => .inr ?_⟩
    exact List.length_eq_zero_iff.mp (Nat.le_zero.mp hfew)
  | succ turns ih =>
    unfold pumpTurns
    split
    · next hempty =>
      exact ⟨0, [], d, rfl, .none d, rfl, nofun, fun _ => .inl (List.isEmpty_iff.mp hempty)⟩
    · cases hpending : d.pending.toList with
      | nil =>
        rw [completeNext, completeNth_beyond (by rw [hpending]; rfl)]
        exact ⟨0, [], d, rfl, .none d, rfl, nofun, fun _ => .inr hpending⟩
      | cons p rest =>
        obtain ⟨taken, transfer, d', heq, hleaves, hleft, -⟩ :=
          completesNth roomy (n := 0) (p := p) (by rw [hpending]; rfl) .completed
        obtain ⟨n, posts, d'', hturns, hlater, hcount, hstatus, hend⟩ := ih (hleaves.roomy roomy)
        rw [completeNext, heq]
        dsimp only
        rw [hturns]
        refine ⟨n + 1, _, d'', rfl, .leave hleaves hlater, congrArg (· + 1) hcount,
          List.forall_mem_cons.mpr ⟨rfl, hstatus⟩, fun hfew => hend ?_⟩
        rw [hleft, hpending]
        exact Nat.le_of_succ_le_succ hfew

end Roomy

theorem answering_cancel (d : Loopback) (endpoint : UInt8) (id : Nat) :
    Answering d (d.cancel endpoint id).1 (d.cancel endpoint id).2 := by
  unfold cancel
  dsimp only
  split
  · exact .none d
  · next p hp =>
    obtain ⟨before, after, hsplit, hleft⟩ := Lineup.split_of_find? hp
    exact .one ⟨⟨before, p, after, hsplit, hleft, rfl, rfl, nofun, fun _ => ⟨rfl, rfl⟩⟩, rfl, rfl,
      rfl, rfl⟩

/-! ### What calls do -/

/-- Whoever asks for something that is pending gets it, and no call breaks down. -/
structure Works (d : Loopback) : Prop where
  completes : ∀ n p, d.pending.toList[n]? = some p → ∀ status, d.CompletesNth n p status
  beyond : ∀ n, d.pending.toList.length ≤ n → ∀ status,
    d.completeNth n status = (some false, [], d)
  /-- Transfers complete until no payload is left or nothing is pending. -/
  pumps : ∃ n posts d', d.pump = (some n, posts, d') ∧ Answering d posts d' ∧ posts.length = n ∧
    (∀ post ∈ posts, post.completion.status = .completed) ∧ (d'.payloads = [] ∨ d'.pending.toList = [])
  /-- The first transfer of this endpoint and number comes back as it was. -/
  cancels : ∀ before p after, d.pending.toList = before ++ p :: after → ∀ endpoint id,
    p.Is endpoint id → (∀ q ∈ before, ¬ q.Is endpoint id) →
      ∃ d', d.cancel endpoint id = ([⟨p.mailbox, ⟨p.transfer, .cancelled⟩⟩], d') ∧
        d'.pending.toList = before ++ after ∧ d'.payloads = d.payloads
  unknown : ∀ endpoint id, (∀ p ∈ d.pending.toList, ¬ p.Is endpoint id) →
    d.cancel endpoint id = ([], d)

theorem Roomy.works {d : Loopback} (roomy : d.Roomy) : d.Works where
  completes n p there status := completesNth roomy there status
  beyond n far status := completeNth_beyond (List.getElem?_eq_none far) status
  pumps := by
    obtain ⟨n, posts, d', hpump, hanswering, hcount, hstatus, hend⟩ :=
      pumpTurns_spec roomy d.pending.length
    exact ⟨n, posts, d', hpump, hanswering, hcount, hstatus,
      hend (Nat.le_of_eq (Lineup.length_toList _))⟩
  cancels before p after hsplit endpoint id hp hbefore := by
    let wanted (q : PendingTransfer) : Bool := q.transfer.endpoint == endpoint && q.transfer.id == id
    have hwanted (q : PendingTransfer) : wanted q = true ↔ q.Is endpoint id := by
      simp [wanted, PendingTransfer.Is]
    obtain ⟨hfind, hleft⟩ := Lineup.find?_of_split (p := wanted) hsplit ((hwanted p).mpr hp)
      fun q hq h => hbefore q hq ((hwanted q).mp h)
    refine ⟨{ d with pending := d.pending.eraseP wanted, cancelled := d.cancelled + 1 }, ?_, hleft, rfl⟩
    unfold cancel
    dsimp only
    rw [hfind]
  unknown endpoint id hnone := by
    have hfind : d.pending.find? (fun q => q.transfer.endpoint == endpoint && q.transfer.id == id) =
        none := by
      rw [← Lineup.find?_toList, List.find?_eq_none]
      intro q hq h
      exact hnone q hq (by simpa [PendingTransfer.Is] using h)
    unfold cancel
    dsimp only
    rw [hfind]

/-! ### Submissions and answers -/

/-- An answered submission: its number, and the payloads taken for it. -/
structure Answer where
  serial : Nat
  taken : List Bytes

/-- Each submission waits or was answered, and no payload is lost or taken twice. -/
structure Kept (l : Ledger Loopback) (waiting : List Nat) (answers : List Answer)
    (queued : List Bytes) : Prop where
  room : ∀ entry ∈ l.accepted, entry.2.HasRoom
  once : (waiting ++ answers.map (·.serial)).Perm (List.range l.accepted.length)
  order : waiting.Pairwise (· < ·)
  pending : List.Forall₂ (fun serial p => l.accepted[serial]? = some (p.mailbox, p.transfer))
    waiting l.device.pending.toList
  answered : List.Forall₂ (fun answer post => ∃ transfer,
    l.accepted[answer.serial]? = some (post.mailbox, transfer) ∧
      Completes transfer answer.taken post.completion) answers l.posted
  consumed : answers.flatMap (·.taken) ++ l.device.payloads = queued
  submitted : l.device.submitted = l.accepted.length
  unplugged : l.device.connected = false → l.device.pending.toList = []

/-- All places of a list, one after the other, are the list. -/
theorem filterMap_getElem?_range {α : Type} (entries : List α) :
    (List.range entries.length).filterMap (entries[·]?) = entries := by
  have heach : (List.range entries.length).map (entries[·]?) = entries.map some :=
    List.ext_getElem (by simp) fun i _ _ => by simp
  have hall := congrArg (List.filterMap id) heach
  rw [List.filterMap_map, List.filterMap_map] at hall
  exact hall.trans List.filterMap_some

namespace Kept

variable {l : Ledger Loopback} {waiting : List Nat} {answers : List Answer} {queued : List Bytes}

/-- A pending transfer that leaves goes from one list to the other. -/
theorem leave (h : Kept l waiting answers queued) {taken : List Bytes} {post : Post} {d : Loopback}
    (leaves : Leaves l.device taken post d) :
    ∃ waiting' answers', Kept (l.act d [post]) waiting' answers' queued := by
  obtain ⟨before, p, after, hthere, hleft, hmailbox, hcompletes⟩ := leaves.pending
  have hpending := h.pending
  rw [hthere] at hpending
  have hbefore := List.forall₂_take_append waiting before _ hpending
  obtain ⟨serial, later, hthis, hafter, hdrop⟩ :=
    List.forall₂_cons_right_iff.mp (List.forall₂_drop_append waiting before _ hpending)
  -- The numbers split where the pending transfers do.
  have hwaiting : waiting = waiting.take before.length ++ serial :: later := by
    rw [← hdrop, List.take_append_drop]
  generalize waiting.take before.length = earlier at hbefore hwaiting
  subst hwaiting
  refine ⟨earlier ++ later, answers ++ [⟨serial, taken⟩], h.room, ?_, ?_, ?_, ?_, ?_, ?_, ?_⟩
  · have hmoved : (earlier ++ later ++ (answers ++ [(⟨serial, taken⟩ : Answer)]).map (·.serial)).Perm
        (earlier ++ serial :: later ++ answers.map (·.serial)) := by
      rw [List.map_append, ← List.append_assoc]
      exact (List.perm_append_singleton ..).trans (List.perm_middle.append_right _).symm
    exact hmoved.trans h.once
  · exact h.order.sublist (List.Sublist.append_left (List.sublist_cons_self ..) earlier)
  · show List.Forall₂ _ _ d.pending.toList
    rw [hleft]
    exact List.rel_append hbefore hafter
  · exact List.rel_append h.answered (.cons ⟨p.transfer, hmailbox ▸ hthis, hcompletes⟩ .nil)
  · show _ ++ d.payloads = queued
    rw [← h.consumed, leaves.payloads, List.flatMap_append, List.append_assoc]
    simp
  · exact leaves.submitted.trans h.submitted
  · intro hconnected
    rw [h.unplugged (leaves.connected.symm.trans hconnected)] at hthere
    simp at hthere

/-- More payloads are queued, or nothing that matters happens. -/
theorem queue (h : Kept l waiting answers queued) {d : Loopback} {more : List Bytes}
    (pending : d.pending = l.device.pending) (payloads : d.payloads = l.device.payloads ++ more)
    (submitted : d.submitted = l.device.submitted) (connected : d.connected = l.device.connected) :
    Kept { l with device := d } waiting answers (queued ++ more) where
  room := h.room
  once := h.once
  order := h.order
  pending := pending ▸ h.pending
  answered := h.answered
  consumed := by
    rw [payloads, ← List.append_assoc, h.consumed]
  submitted := submitted.trans h.submitted
  unplugged hconnected := pending ▸ h.unplugged (connected.symm.trans hconnected)

theorem lt_of_mem (h : Kept l waiting answers queued) {serial : Nat} (waits : serial ∈ waiting) :
    serial < l.accepted.length :=
  List.mem_range.mp (h.once.subset (List.mem_append_left _ waits))

/-- An accepted submission waits behind all others. -/
theorem accept (h : Kept l waiting answers queued) (connected : l.device.connected = true)
    (mailbox : Mailbox) {transfer : Transfer} (room : transfer.HasRoom) :
    Kept (withSubmission l mailbox transfer) (waiting ++ [l.accepted.length]) answers queued := by
  have hstays {serial : Nat} {entry : Mailbox × Transfer} (hentry : l.accepted[serial]? = some entry) :
      (l.accepted ++ [(mailbox, transfer)])[serial]? = some entry :=
    List.getElem?_append_left (List.getElem?_eq_some_iff.mp hentry).1 ▸ hentry
  refine ⟨?_, ?_, ?_, ?_, ?_, h.consumed, ?_,
    fun hunplugged => nomatch connected.symm.trans hunplugged⟩
  · exact List.forall_mem_append.mpr ⟨h.room, List.forall_mem_singleton.mpr room⟩
  · rw [withSubmission, List.length_append, List.length_singleton, List.range_succ,
      List.append_assoc]
    refine .trans ?_ (h.once.append_right _)
    rw [List.append_assoc]
    exact List.perm_append_comm.append_left waiting
  · rw [List.pairwise_append]
    refine ⟨h.order, List.pairwise_singleton .., fun serial hserial other hother => ?_⟩
    rw [List.mem_singleton.mp hother]
    exact h.lt_of_mem hserial
  · rw [withSubmission, Lineup.toList_push]
    refine List.rel_append (h.pending.imp fun _ _ => hstays) (.cons ?_ .nil)
    rw [List.getElem?_concat_length]
  · exact h.answered.imp fun _ _ ⟨transfer, hentry, hcompletes⟩ =>
      ⟨transfer, hstays hentry, hcompletes⟩
  · rw [withSubmission, List.length_append]
    exact congrArg (· + 1) h.submitted

/-- Everything that waits is answered, and there is nothing left of the device. -/
theorem disconnect (h : Kept l waiting answers queued) :
    Kept (l.act l.device.disconnect.2 l.device.disconnect.1) []
      (answers ++ waiting.map (⟨·, []⟩)) queued := by
  refine ⟨h.room, ?_, .nil, .nil, ?_, ?_, h.submitted, fun _ => rfl⟩
  · rw [List.nil_append, List.map_append, List.map_map]
    refine List.perm_append_comm.trans (.trans ?_ h.once)
    simp [Function.comp_def]
  · refine List.rel_append h.answered ?_
    rw [List.forall₂_map_left_iff, Loopback.disconnect, List.forall₂_map_right_iff]
    exact h.pending.imp fun _ p hentry => ⟨p.transfer, hentry, rfl, nofun, fun _ => ⟨rfl, rfl⟩⟩
  · show _ ++ l.device.payloads = queued
    rw [← h.consumed]
    simp

/-- What is pending was accepted, so it has room. -/
theorem roomy (h : Kept l waiting answers queued) : l.device.Roomy := by
  have hflip : List.Forall₂ (fun (p : PendingTransfer) (_ : Nat) => p.transfer.HasRoom ∧ True)
      l.device.pending.toList waiting :=
    (h.pending.imp fun _ p hentry => ⟨h.room _ (List.mem_of_getElem? hentry), trivial⟩).flip
  exact ((List.forall₂_and_left _ _).mp hflip).1

/-- The numbers of the answers lead to what was posted, by mailbox and id. -/
theorem posted_keys (h : Kept l waiting answers queued) :
    (answers.map (·.serial)).filterMap
        ((l.accepted.map fun entry => (entry.1, entry.2.id))[·]?) =
      l.posted.map fun post => (post.mailbox, post.completion.transfer.id) := by
  have hanswered := h.answered
  clear h
  generalize l.posted = posted at hanswered
  induction hanswered with
  | nil => rfl
  | cons this _ ih =>
    obtain ⟨transfer, hentry, hcompletes⟩ := this
    rw [List.map_cons, List.map_cons, List.filterMap_cons, ih, List.getElem?_map, hentry,
      hcompletes.id]
    rfl

/-- What was posted is a part of what was accepted. -/
theorem keys (h : Kept l waiting answers queued) :
    ∃ others, (others ++ l.posted.map fun post => (post.mailbox, post.completion.transfer.id)).Perm
      (l.accepted.map fun entry => (entry.1, entry.2.id)) := by
  have honce := h.once.filterMap ((l.accepted.map fun entry => (entry.1, entry.2.id))[·]?)
  have hlength : l.accepted.length =
      (l.accepted.map fun entry => (entry.1, entry.2.id)).length := (List.length_map _).symm
  rw [List.filterMap_append, h.posted_keys, hlength, filterMap_getElem?_range] at honce
  exact ⟨_, honce⟩

theorem honest (h : Kept l waiting answers queued) (mailbox : Mailbox) : l.Honest mailbox := by
  obtain ⟨others, hperm⟩ := h.keys
  have hsub := ((List.sublist_append_right others _).filter (·.1 == mailbox)).map (·.2) |>.subperm.trans
    ((hperm.filter (·.1 == mailbox)).map (·.2)).subperm
  simpa [Ledger.Honest, Ledger.acceptedFor, Ledger.postedTo, Post.completionsFor, List.filter_map,
    Function.comp_def] using hsub

end Kept

/-- For some numbering of what waits and was answered the books are kept. -/
def Sound (l : Ledger Loopback) (queued : List Bytes) : Prop :=
  ∃ waiting answers, Kept l waiting answers queued

/-! ### Any calls -/

variable {l : Ledger Loopback} {queued : List Bytes}

theorem Sound.answering (h : Sound l queued) {posts : List Post} {d : Loopback}
    (answering : Answering l.device posts d) : Sound (l.act d posts) queued := by
  generalize hd : l.device = start at answering
  induction answering generalizing l with
  | none =>
    subst hd
    simpa [Ledger.act] using h
  | leave first _ ih =>
    subst hd
    obtain ⟨waiting, answers, hkept⟩ := h
    have hlater := ih (hkept.leave first) rfl
    simpa [Ledger.act] using hlater

theorem submit_unplugged {d : Loopback} (h : d.connected = false) (mailbox : Mailbox)
    (transfer : Transfer) : d.submit mailbox transfer = (.error ⟨transfer, .noDevice⟩, d) := by
  rw [submit, h]
  rfl

/-- A submission is refused, and given back, or waits. -/
theorem submit_cases (l : Ledger Loopback) (mailbox : Mailbox) (transfer : Transfer) :
    (∃ error count, Transport.submit mailbox transfer l =
        (.error ⟨transfer, error⟩, { l with device := { l.device with failingSubmits := count } })) ∨
      l.device.connected = true ∧
        Transport.submit mailbox transfer l = (.ok (), withSubmission l mailbox transfer) := by
  cases hconnected : l.device.connected with
  | false =>
    refine .inl ⟨.noDevice, l.device.failingSubmits, ?_⟩
    simp only [Transport.submit, submit_unplugged hconnected]
  | true =>
    by_cases hfailing : 0 < l.device.failingSubmits
    · refine .inl ⟨.io "injected submit failure", l.device.failingSubmits - 1, ?_⟩
      simp [Transport.submit, submit, hconnected, hfailing]
    · refine .inr ⟨rfl, ?_⟩
      simp [Transport.submit, submit, hconnected, hfailing, withSubmission]

theorem Sound.roomy (h : Sound l queued) : l.device.Roomy := by
  obtain ⟨waiting, answers, hkept⟩ := h
  exact hkept.roomy

theorem answering_pump {d : Loopback} (roomy : d.Roomy) : Answering d d.pump.2.1 d.pump.2.2 := by
  obtain ⟨n, posts, d', hpump, hanswering, -⟩ := roomy.works.pumps
  rw [hpump]
  exact hanswering

/-- Every call keeps the books, if what is submitted has room. -/
theorem Sound.after (h : Sound l queued) (call : Call)
    (room : ∀ mailbox transfer, call = .submit mailbox transfer → transfer.HasRoom) :
    Sound (after l call) (queued ++ call.payloads l.device.toggle) := by
  have hanswering {d : Loopback} {posts : List Post} (answering : Answering l.device posts d) :
      Sound (l.act d posts) (queued ++ []) := by
    rw [List.append_nil]
    exact h.answering answering
  cases call with
  | cancel endpoint id => exact hanswering (answering_cancel l.device endpoint id)
  | completeNext status => exact hanswering (answering_completeNth h.roomy 0 status)
  | completeNth n status => exact hanswering (answering_completeNth h.roomy n status)
  | pump => exact hanswering (answering_pump h.roomy)
  | submit mailbox transfer =>
    obtain ⟨waiting, answers, hkept⟩ := h
    show Sound (Transport.submit mailbox transfer l).2 _
    rcases submit_cases l mailbox transfer with ⟨error, count, hsubmit⟩ | ⟨hconnected, hsubmit⟩
    · rw [hsubmit]
      exact ⟨waiting, answers, hkept.queue rfl (List.append_nil _).symm rfl rfl⟩
    · rw [hsubmit]
      have haccept := hkept.accept hconnected mailbox (room mailbox transfer rfl)
      exact ⟨_, answers, (List.append_nil queued).symm ▸ haccept⟩
  | disconnect =>
    obtain ⟨waiting, answers, hkept⟩ := h
    exact ⟨[], _, (List.append_nil queued).symm ▸ hkept.disconnect⟩
  | queuePayload payload =>
    obtain ⟨waiting, answers, hkept⟩ := h
    exact ⟨waiting, answers, hkept.queue rfl rfl rfl rfl⟩
  | queueFrame data payloadSize =>
    obtain ⟨waiting, answers, hkept⟩ := h
    exact ⟨waiting, answers, hkept.queue rfl rfl rfl rfl⟩
  | failSubmits count =>
    obtain ⟨waiting, answers, hkept⟩ := h
    exact ⟨waiting, answers, hkept.queue rfl (List.append_nil _).symm rfl rfl⟩

/-- Only frames that are queued flip the frame id, and only a disconnect unplugs the device. -/
theorem device_after {l : Ledger Loopback} (roomy : l.device.Roomy) (call : Call) :
    (after l call).device.toggle = (l.device.toggle ^^ call.flips) ∧
      ((after l call).device.connected = true ↔
        l.device.connected = true ∧ call ≠ .disconnect) := by
  have hsame {d : Loopback} (toggle : d.toggle = l.device.toggle)
      (connected : d.connected = l.device.connected) (other : call ≠ .disconnect) :
      d.toggle = (l.device.toggle ^^ false) ∧
        (d.connected = true ↔ l.device.connected = true ∧ call ≠ .disconnect) := by
    rw [toggle, connected, Bool.xor_false]
    exact ⟨rfl, (and_iff_left other).symm⟩
  have hanswering {d : Loopback} {posts : List Post} (h : Answering l.device posts d)
      (other : call ≠ .disconnect) := hsame h.toggle h.connected other
  cases call with
  | submit mailbox transfer =>
    rw [after]
    rcases submit_cases l mailbox transfer with ⟨error, count, hsubmit⟩ | ⟨-, hsubmit⟩
    · rw [hsubmit]
      exact hsame rfl rfl nofun
    · rw [hsubmit]
      exact hsame rfl rfl nofun
  | cancel endpoint id => exact hanswering (answering_cancel l.device endpoint id) nofun
  | completeNext status => exact hanswering (answering_completeNth roomy 0 status) nofun
  | completeNth n status => exact hanswering (answering_completeNth roomy n status) nofun
  | pump => exact hanswering (answering_pump roomy) nofun
  | disconnect =>
    exact ⟨(Bool.xor_false _).symm, iff_of_false nofun fun h => h.2 rfl⟩
  | queuePayload payload => exact hsame rfl rfl nofun
  | queueFrame data payloadSize =>
    exact ⟨(Bool.xor_true _).symm, (and_iff_left nofun).symm⟩
  | failSubmits count => exact hsame rfl rfl nofun

theorem Sound.run (h : Sound l queued) {calls : List Call}
    (room : ∀ mailbox transfer, .submit mailbox transfer ∈ calls → transfer.HasRoom) :
    Sound (run l calls) (queued ++ queuedBy l.device.toggle calls) ∧
      ((run l calls).device.connected = true ↔
        l.device.connected = true ∧ .disconnect ∉ calls) := by
  induction calls generalizing l queued with
  | nil =>
    rw [queuedBy, List.append_nil]
    exact ⟨h, (and_iff_left List.not_mem_nil).symm⟩
  | cons call calls ih =>
    have hafter := h.after call fun mailbox transfer hcall => room mailbox transfer (hcall ▸ .head _)
    obtain ⟨hsound, hconnected⟩ :=
      ih hafter fun mailbox transfer hlater => room mailbox transfer (.tail _ hlater)
    obtain ⟨htoggle, hplugged⟩ := device_after h.roomy call
    rw [htoggle, List.append_assoc] at hsound
    refine ⟨hsound, ?_⟩
    show (run (Loopback.after l call) calls).device.connected = true ↔ _
    rw [hconnected, hplugged, List.mem_cons, not_or, and_assoc, ne_comm]

/-- What a camera in memory owes after these calls, for some numbering of what waits and was answered. -/
structure Honours (calls : List Call) (l : Ledger Loopback) (waiting : List Nat)
    (answers : List Answer) : Prop extends Kept l waiting answers (queuedBy false calls) where
  count : l.accepted.length = l.device.pending.length + l.posted.length
  honest : ∀ mailbox, l.Honest mailbox
  /-- A refused submission is given back, and nothing comes of it. -/
  refused : ∀ mailbox transfer refusal l',
    Transport.submit mailbox transfer l = (.error refusal, l') →
      refusal.transfer = transfer ∧
        ∃ count, l' = { l with device := { l.device with failingSubmits := count } }
  /-- Whatever is called next does its work. -/
  works : l.device.Works
  gone : .disconnect ∈ calls → l.device.pending.toList = [] ∧ ∀ mailbox transfer,
    Transport.submit mailbox transfer l = (.error ⟨transfer, .noDevice⟩, l)

/-- **A camera in memory keeps the contract.** Whatever is asked of it, as long as the transfers that are
submitted have room for their slots, each submission that it accepted either waits, in the order of
submission, or was answered by one post, to its mailbox and with its id. Payloads leave the queue in order,
each for one completion that succeeded. What is pending can be completed and cancelled at any time. -/
theorem honours_contract (name : String) (model : DeviceModel) (maxPayload : UInt32) (calls : List Call)
    (room : ∀ mailbox transfer, .submit mailbox transfer ∈ calls → transfer.HasRoom) :
    ∃ waiting answers,
      Honours calls (run { device := { name, model, maxPayload } } calls) waiting answers := by
  have hfresh : Sound { device := { name, model, maxPayload } } [] :=
    ⟨[], [], nofun, .nil, .nil, .nil, .nil, rfl, rfl, fun _ => rfl⟩
  obtain ⟨⟨waiting, answers, hkept⟩, hconnected⟩ := hfresh.run room
  generalize run { device := { name, model, maxPayload } } calls = l at hkept hconnected
  refine ⟨waiting, answers, hkept, ?_, hkept.honest, fun mailbox transfer refusal l' hsubmit => ?_,
    hkept.roomy.works, fun hdisconnect => ?_⟩
  · have honce := hkept.once.length_eq
    have hpending := hkept.pending.length_eq
    have hanswered := hkept.answered.length_eq
    simp only [List.length_append, List.length_map, List.length_range, Lineup.length_toList] at *
    omega
  · rcases submit_cases l mailbox transfer with ⟨error, count, hrefused⟩ | ⟨-, haccepted⟩
    · rw [hrefused] at hsubmit
      cases hsubmit
      exact ⟨rfl, count, rfl⟩
    · rw [haccepted] at hsubmit
      cases hsubmit
  · have hunplugged : l.device.connected = false := by
      rw [← Bool.not_eq_true, hconnected]
      exact fun h => h.2 hdisconnect
    refine ⟨hkept.unplugged hunplugged, fun mailbox transfer => ?_⟩
    simp only [Transport.submit, submit_unplugged hunplugged]

/-- Four submissions, one of which is refused. The second transfer stalls before the first has completed, the
third is asked back twice, and the fourth is there when the device is unplugged. -/
def variedCalls : List Call :=
  let packets := Transfer.isochronous 0x81 4 2 (Buffer.zeroed 8)
  let whole := Transfer.bulk 0x82 (Buffer.zeroed 4)
  [.queueFrame [1, 2, 3] 4, .submit 0 (packets.prepare 1), .submit 0 (packets.prepare 2),
    .submit 1 (whole.prepare 1), .failSubmits 1, .submit 1 (whole.prepare 2), .completeNth 1 .stall,
    .cancel 0x82 1, .cancel 0x82 1, .pump, .submit 1 (whole.prepare 2), .disconnect]

/-- The two payloads of the frame fill the first transfer. -/
theorem honours_contract_varied :
    (∀ mailbox transfer, .submit mailbox transfer ∈ variedCalls → transfer.HasRoom) ∧
    ∃ l waiting answers, l = run { device := { name := "camera", model := {} } } variedCalls ∧
      Honours variedCalls l waiting answers ∧ l.accepted.length = 4 ∧
      l.posted.map (fun post =>
          (post.mailbox, post.completion.transfer.id, post.completion.status)) =
        [(0, 2, .stall), (1, 1, .cancelled), (0, 1, .completed), (1, 2, .noDevice)] ∧
      l.device.payloads = [] := by
  have hroom : ∀ mailbox transfer, .submit mailbox transfer ∈ variedCalls → transfer.HasRoom := by
    intro mailbox transfer hsubmit
    simp only [variedCalls, List.mem_cons, List.not_mem_nil, Call.submit.injEq, reduceCtorEq, or_false,
      false_or] at hsubmit
    rcases hsubmit with ⟨-, rfl⟩ | ⟨-, rfl⟩ | ⟨-, rfl⟩ | ⟨-, rfl⟩ | ⟨-, rfl⟩
    · exact fun _ => by decide
    · exact fun _ => by decide
    · exact nofun
    · exact nofun
    · exact nofun
  obtain ⟨waiting, answers, hhonours⟩ := honours_contract "camera" {} 3072 variedCalls hroom
  exact ⟨hroom, _, waiting, answers, rfl, hhonours, by decide +kernel⟩

end Loopback

end UsbVideo
