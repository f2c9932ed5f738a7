import UsbVideo.Proofs.Dispatch.Ledger

/-!
# What submitting does

Three functions submit: `Dispatch.submit` one transfer, `Dispatch.submitPool` a fresh pool and
`Dispatch.submitAll` the transfers at hand. Each of them amounts to a number `n` of accepted
submissions, and `Submitted n` says everything that these change: `n` new numbers are given, in
flight and in the books of the bus stack. A refused submission is no submission: it changes neither
the numbers nor the books.
-/

namespace UsbVideo

/-- The numbers given to accepted submissions so far. -/
def Dispatch.issued (d : Dispatch) : List Nat := List.range' 1 (d.nextId - 1)

variable {σ : Type}

/-- `d'` and `l'` are what `n` accepted submissions make of a dispatch and its bus stack, as far as
the numbers are concerned. Transfers at hand and failures are left open. -/
structure Submitted (n : Nat) (d d' : Dispatch) (l l' : Ledger σ) : Prop where
  plan : d'.plan = d.plan
  mailbox : d'.mailbox = d.mailbox
  window : d'.window = d.window
  nextId : d'.nextId = d.nextId + n
  inFlight : d'.inFlight.toList = d.inFlight.toList ++ List.range' d.nextId n
  submitted : d'.tally.stats.submitted = d.tally.stats.submitted + n
  completed : d'.tally.stats.completed = d.tally.stats.completed
  failed : d'.tally.stats.failed = d.tally.stats.failed
  accepted : l'.acceptedFor d.mailbox = l.acceptedFor d.mailbox ++ List.range' d.nextId n
  posted : l'.posted = l.posted

namespace Submitted

variable {m n : Nat} {d d' d'' : Dispatch} {l l' l'' : Ledger σ}

/-- No submission was accepted, whatever is at hand and however many failures there were. -/
theorem none {idle : List Transfer} {tally : DispatchTally}
    (submitted : tally.stats.submitted = d.tally.stats.submitted)
    (completed : tally.stats.completed = d.tally.stats.completed)
    (failed : tally.stats.failed = d.tally.stats.failed)
    (accepted : l'.accepted = l.accepted) (posted : l'.posted = l.posted) :
    Submitted 0 d { d with idle, tally } l l' where
  plan := rfl
  mailbox := rfl
  window := rfl
  nextId := rfl
  inFlight := by simp
  submitted := submitted
  completed := completed
  failed := failed
  accepted := by simp [Ledger.acceptedFor, accepted]
  posted := posted

/-- Submissions one after another. -/
theorem trans (h : Submitted m d d' l l') (h' : Submitted n d' d'' l' l'') :
    Submitted (m + n) d d'' l l'' where
  plan := h'.plan.trans h.plan
  mailbox := h'.mailbox.trans h.mailbox
  window := h'.window.trans h.window
  nextId := by rw [h'.nextId, h.nextId, Nat.add_assoc]
  inFlight := by
    rw [h'.inFlight, h.inFlight, h.nextId, List.append_assoc, List.range'_append_1]
  submitted := by rw [h'.submitted, h.submitted, Nat.add_assoc]
  completed := h'.completed.trans h.completed
  failed := h'.failed.trans h.failed
  accepted := by
    have hlater := h'.accepted
    rw [h.mailbox] at hlater
    rw [hlater, h.accepted, h.nextId, List.append_assoc, List.range'_append_1]
  posted := h'.posted.trans h.posted

/-- The numbers given before and the new ones are all the numbers given. -/
theorem issued (h : Submitted n d d' l l') (hpos : 1 ≤ d.nextId) :
    d'.issued = d.issued ++ List.range' d.nextId n := by
  have hstart : d.nextId = 1 + (d.nextId - 1) := by omega
  have hcount : d.nextId + n - 1 = d.nextId - 1 + n := by omega
  rw [Dispatch.issued, Dispatch.issued, h.nextId, hcount, ← List.range'_append_1, ← hstart]

end Submitted

namespace Dispatch

variable [Transport σ]

/-- An accepted submission is given the next number. -/
theorem submit_accepted {d d' : Dispatch} {transfer : Transfer} {l l' : Ledger σ}
    (h : d.submit transfer l = (none, d', l')) :
    Submitted 1 d d' l l' ∧ d'.idle = d.idle := by
  unfold submit at h
  split at h
  · cases h
  · next device hok =>
    cases h
    obtain ⟨haccepted, hposted⟩ := Ledger.submit_ok hok
    have hid : (transfer.prepare d.nextId).id = d.nextId := rfl
    refine ⟨⟨rfl, rfl, rfl, rfl, ?_, rfl, rfl, rfl, ?_, hposted⟩, rfl⟩
    · simp
    · simp [Ledger.acceptedFor, haccepted, hid]

/-- A refused submission is one that the bus stack refused, and the dispatch stays as it was. -/
theorem submit_eq_some {d d' : Dispatch} {transfer : Transfer} {l l' : Ledger σ} {refusal : Refusal}
    (h : d.submit transfer l = (some refusal, d', l')) :
    d' = d ∧ Transport.submit d.mailbox (transfer.prepare d.nextId) l = (.error refusal, l') := by
  unfold submit at h
  split at h
  · next refusal' device herror =>
    cases h
    exact ⟨rfl, herror⟩
  · cases h

/-- A refused submission changes neither the dispatch nor the books. -/
theorem submit_refused {d d' : Dispatch} {transfer : Transfer} {l l' : Ledger σ} {refusal : Refusal}
    (h : d.submit transfer l = (some refusal, d', l')) :
    d' = d ∧ l'.accepted = l.accepted ∧ l'.posted = l.posted := by
  obtain ⟨hsame, hrefused⟩ := submit_eq_some h
  exact ⟨hsame, Ledger.submit_error hrefused⟩

/-- A pool that is not refused is submitted as a whole. -/
theorem submitPool_submitted (d : Dispatch) (l : Ledger σ) (pool : List Transfer) :
    ∃ n, Submitted n d (d.submitPool l pool).2.1 l (d.submitPool l pool).2.2 ∧
      (d.submitPool l pool).2.1.idle = d.idle ∧
      ((d.submitPool l pool).1 = none → n = pool.length) := by
  induction pool generalizing d l with
  | nil => exact ⟨0, .none rfl rfl rfl rfl rfl, rfl, fun _ => rfl⟩
  | cons transfer rest ih =>
    unfold submitPool
    split
    · next d' l' hsubmit =>
      obtain ⟨hone, hidle⟩ := submit_accepted hsubmit
      obtain ⟨n, hlater, hidle', hall⟩ := ih d' l'
      refine ⟨1 + n, hone.trans hlater, hidle'.trans hidle, fun hnone => ?_⟩
      rw [hall hnone, List.length_cons, Nat.add_comm]
    · next refusal d' l' hsubmit =>
      obtain ⟨hd, haccepted, hposted⟩ := submit_refused hsubmit
      subst hd
      exact ⟨0, .none rfl rfl rfl haccepted hposted, rfl, fun h => nomatch h⟩

/-- Transfers at hand are submitted until one is refused; what is not submitted stays at hand. No
payload is handed on. -/
theorem submitAll_submitted (d : Dispatch) (l : Ledger σ) (transfers : List Transfer) :
    let s := d.submitAll l transfers
    DispatchOutput.payloads s.outputs = [] ∧
      ∃ n, Submitted n d s.dispatch l s.device ∧ n + s.dispatch.idle.length = transfers.length := by
  induction transfers generalizing d l with
  | nil => exact ⟨rfl, 0, .none rfl rfl rfl rfl rfl, rfl⟩
  | cons transfer rest ih =>
    unfold submitAll
    split
    · next d' l' hsubmit =>
      obtain ⟨hone, -⟩ := submit_accepted hsubmit
      obtain ⟨hpayloads, n, hlater, hcount⟩ := ih d' l'
      refine ⟨hpayloads, 1 + n, hone.trans hlater, ?_⟩
      rw [Nat.add_assoc, hcount, List.length_cons, Nat.add_comm]
    · next refusal d' l' hsubmit =>
      obtain ⟨hd, haccepted, hposted⟩ := submit_refused hsubmit
      subst hd
      dsimp only
      -- Gone for good or not, the refused transfer is back at hand and counted as a refusal.
      split
      · exact ⟨rfl, 0, .none rfl rfl rfl haccepted hposted, Nat.zero_add _⟩
      · exact ⟨rfl, 0, .none rfl rfl rfl haccepted hposted, Nat.zero_add _⟩

/-- A round of submissions, as `submitAll_submitted`. -/
theorem refill_submitted (d : Dispatch) (l : Ledger σ) :
    let s := d.refill l
    DispatchOutput.payloads s.outputs = [] ∧
      ∃ n, Submitted n d s.dispatch l s.device ∧ n + s.dispatch.idle.length = d.idle.length := by
  obtain ⟨hpayloads, n, h, hcount⟩ := submitAll_submitted { d with idle := [] } l d.idle
  have hclear : Submitted 0 d { d with idle := [] } l l := .none rfl rfl rfl rfl rfl
  have htotal := hclear.trans h
  rw [Nat.zero_add] at htotal
  exact ⟨hpayloads, n, htotal, hcount⟩

end Dispatch

/-! ### A fresh pool -/

namespace Memory

variable {m : Memory} {n bytes : Nat}

/-- The `n`-th allocation of a pool, of so many bytes, can be asked for and succeeds. -/
def Grants (m : Memory) (n bytes : Nat) : Prop := bytes ≤ allocationLimit ∧ m.grants n bytes = true

/-- Every allocation of a pool succeeds: the bookkeeping, and each buffer. -/
structure Serves (m : Memory) (plan : TransferPlan) (size : Nat) : Prop where
  records : m.Grants 0 (plan.requestCount * Dispatch.transferRecordSize)
  buffers : ∀ n < plan.requestCount, m.Grants (n + 1) size

theorem reserve_eq_ok : m.reserve n bytes = .ok () ↔ m.Grants n bytes := by
  unfold reserve Grants
  split
  · next hlarge => exact iff_of_false nofun fun h => Nat.not_le.mpr hlarge h.1
  · next hsmall =>
    split
    · next hgranted => exact iff_of_true rfl ⟨Nat.not_lt.mp hsmall, hgranted⟩
    · next hrefused => exact iff_of_false nofun fun h => hrefused h.2

theorem reserveAll_eq_ok {count : Nat} :
    m.reserveAll bytes n count = .ok () ↔ ∀ i < count, m.Grants (n + i) bytes := by
  induction count generalizing n with
  | zero => exact iff_of_true rfl fun i hi => absurd hi (Nat.not_lt_zero i)
  | succ count ih =>
    have hall : (∀ i < count + 1, m.Grants (n + i) bytes) ↔
        m.Grants n bytes ∧ ∀ i < count, m.Grants (n + 1 + i) bytes := by
      rw [Nat.forall_lt_succ_left]
      simp only [Nat.add_zero, Nat.add_assoc, Nat.add_comm 1]
    rw [hall, ← ih, ← reserve_eq_ok, reserveAll]
    cases m.reserve n bytes with
    | error e => exact iff_of_false nofun fun h => nomatch h.1
    | ok _ => exact (and_iff_right rfl).symm

end Memory

/-- The plan asks for something, and all sizes in it can be counted. -/
def TransferPlan.Countable (p : TransferPlan) : Prop :=
  0 < p.packetSize * p.packetsPerRequest ∧ 0 < p.requestCount ∧
    p.packetSize * p.packetsPerRequest < sizeLimit ∧
      p.packetSize * p.packetsPerRequest * p.requestCount < sizeLimit

namespace Dispatch

variable {plan : TransferPlan} {size : Nat} {pool : List Transfer}

/-- A pool has a shape just if it can be counted. -/
theorem poolShape_eq_ok :
    poolShape plan = .ok size ↔ plan.Countable ∧ size = plan.packetSize * plan.packetsPerRequest := by
  unfold poolShape TransferPlan.requestSize countable TransferPlan.Countable
  by_cases hsize : plan.packetSize * plan.packetsPerRequest < sizeLimit
  · by_cases hpositive : 0 < plan.packetSize * plan.packetsPerRequest ∧ 0 < plan.requestCount
    · by_cases hpool : plan.packetSize * plan.packetsPerRequest * plan.requestCount < sizeLimit
      · simp only [hsize, hpositive, hpool, if_true, and_self, true_and, Except.ok.injEq, eq_comm]
      · simp [hsize, hpositive, hpool]
    · simp only [hsize, hpositive, if_true, if_false]
      refine iff_of_false nofun fun h => hpositive ⟨h.1.1, h.1.2.1⟩
  · simp [hsize]

/-- What a pool is made of. -/
def blank (p : TransferPlan) (size : Nat) : Transfer :=
  match p.kind with
  | .isochronous =>
    Transfer.isochronous p.endpoint p.packetSize p.packetsPerRequest (Buffer.zeroed size)
  | .bulk => Transfer.bulk p.endpoint (Buffer.zeroed size)

/-- A pool is allocated just if the memory grants all of it. -/
theorem allocatePool_eq_ok {memory : Memory} :
    allocatePool memory plan size = .ok pool ↔
      memory.Serves plan size ∧ pool = List.replicate plan.requestCount (blank plan size) := by
  unfold allocatePool
  constructor
  · intro h
    cases hrecords : memory.reserve 0 (plan.requestCount * transferRecordSize) with
    | error e => simp [hrecords, bind, Except.bind] at h
    | ok _ =>
      cases hbuffers : memory.reserveAll size 1 plan.requestCount with
      | error e => simp [hrecords, hbuffers, bind, Except.bind] at h
      | ok _ =>
        simp only [hrecords, hbuffers, bind, Except.bind, pure, Except.pure] at h
        cases h
        refine ⟨⟨Memory.reserve_eq_ok.mp hrecords, fun n hn => ?_⟩, rfl⟩
        rw [Nat.add_comm]
        exact Memory.reserveAll_eq_ok.mp hbuffers n hn
  · rintro ⟨hserves, rfl⟩
    have hbuffers : memory.reserveAll size 1 plan.requestCount = .ok () :=
      Memory.reserveAll_eq_ok.mpr fun n hn => Nat.add_comm n 1 ▸ hserves.buffers n hn
    rw [Memory.reserve_eq_ok.mpr hserves.records, hbuffers]
    rfl

/-- The second buffer is one too many. -/
example :
    let plan : TransferPlan :=
      { endpoint := 0x81, kind := .bulk, packetSize := 4, packetsPerRequest := 1, requestCount := 2
        cancelTimeout := 500 }
    allocatePool ⟨fun n _ => n < 2⟩ plan 4 = .error .outOfMemory := rfl

theorem allocatePool_eq {memory : Memory} (allocated : allocatePool memory plan size = .ok pool) :
    pool = List.replicate plan.requestCount (blank plan size) :=
  (allocatePool_eq_ok.mp allocated).2

end Dispatch

end UsbVideo
