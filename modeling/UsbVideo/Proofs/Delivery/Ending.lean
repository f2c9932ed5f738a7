import Mathlib.Logic.Relation
import UsbVideo.Proofs.Delivery.Newest
import UsbVideo.Proofs.Delivery.Session
import UsbVideo.Proofs.Engine.Clients

/-!
# A stream ends once

Three parties may find that an open stream has ended, each at any time, and the host may close it
meanwhile. The history of a session has one of two forms:

    calm                                             no fault so far
    calm, faulted, shut, told (fault or gone)        by one party, or the part of it done so far

`Story` tells which, and what is under way; every step carries it on. Outside of streaming nothing is
told but what a report under way has left to tell, and no frame enters the queue (`Step.silent`).
-/

namespace UsbVideo

namespace Pipeline

variable {p : Pipeline}

/-! ### Deeds -/

/-- What is told is a notice. -/
theorem mem_notices {f : Pipeline → List (Effect Call) × Pipeline} {notice : Notice}
    (h : .told notice ∈ p.deeds f) : notice ∈ p.notices f := by
  unfold deeds at h
  simp only [List.mem_append, List.mem_map, List.mem_filter] at h
  rcases h with ((⟨n, ⟨hn, -⟩, heq⟩ | hmoved) | hshut) | ⟨n, ⟨hn, -⟩, heq⟩
  · cases heq
    exact hn
  · split at hmoved <;> simp at hmoved
  · split at hshut <;> simp at hshut
  · cases heq
    exact hn

/-- What tells nothing does no more than move the state and close the queue. -/
theorem deeds_of_silent {f : Pipeline → List (Effect Call) × Pipeline}
    (silent : (f p.attended).1 = []) :
    p.deeds f =
      (if p.state = .streaming ∧ (f p).2.state = .faulted then [.faulted] else []) ++
        if p.queue.closed = false ∧ (f p).2.queue.closed = true then [.shut] else [] := by
  rw [deeds, notices_of_silent silent]
  simp

theorem not_moved (p : Pipeline) : ¬ (p.state = .streaming ∧ p.state = .faulted) := by
  rintro ⟨hstreaming, hfaulted⟩
  rw [hstreaming] at hfaulted
  cases hfaulted

/-- What neither moves the state nor closes the queue is told at most. -/
theorem deeds_of_kept {f : Pipeline → List (Effect Call) × Pipeline} (state : (f p).2.state = p.state)
    (queue : (f p).2.queue.closed = p.queue.closed)
    (calm : ∀ n ∈ p.notices f, n.isTerminal = false) : p.deeds f = (p.notices f).map .told := by
  have hmoved : ¬ (p.state = .streaming ∧ (f p).2.state = .faulted) := state ▸ p.not_moved
  have hshut : ¬ (p.queue.closed = false ∧ (f p).2.queue.closed = true) := by
    rw [queue]
    rintro ⟨hopen, hclosed⟩
    rw [hopen] at hclosed
    cases hclosed
  have hall : (p.notices f).filter (!·.isTerminal) = p.notices f :=
    List.filter_eq_self.mpr fun n hn => by simp [calm n hn]
  have hnone : (p.notices f).filter (·.isTerminal) = [] :=
    List.filter_eq_nil_iff.mpr fun n hn => by simp [calm n hn]
  rw [deeds, hall, hnone, if_neg hmoved, if_neg hshut]
  simp

/-- Nothing at all is done outside of streaming by a party that looks at the state first. -/
theorem deeds_of_idle {f : Pipeline → List (Effect Call) × Pipeline} (idle : f p = ([], p))
    (attended : (f p.attended).1 = []) : p.deeds f = [] := by
  have hnone := notices_of_silent attended
  rw [deeds_of_kept (by rw [idle]) (by rw [idle]) (by simp [hnone]), hnone]
  rfl

/-! ### Parts of a report, and of closing -/

theorem deeds_fall (streaming : p.state = .streaming) : p.deeds fall = [.faulted] := by
  rw [deeds_of_silent rfl]
  simp [fall, streaming]

theorem deeds_shut : p.deeds shut = if p.queue.closed = false then [.shut] else [] := by
  rw [deeds_of_silent rfl]
  simp [shut, FrameQueue.close, not_moved]

theorem deeds_emit {event : StreamEvent} (terminal : event.isTerminal = true) :
    p.deeds (·.emit event) = [.told (.event event)] := by
  have hterminal : (Notice.event event).isTerminal = true := terminal
  simp only [deeds, notices_emit]
  simp [emit, hterminal, not_moved]

theorem deeds_stop : p.deeds stop = [] := by
  rw [deeds_of_silent rfl]
  simp [stop]

theorem deeds_discard : p.deeds discard = if p.queue.closed = false then [.shut] else [] := by
  rw [deeds_of_silent rfl]
  simp [discard, FrameQueue.close, FrameQueue.clear, not_moved]

theorem deeds_finish : p.deeds finish = [] := by
  rw [deeds_of_silent rfl]
  simp [finish]

theorem deeds_listen (frames : Option FrameListener) (events : Option String) :
    p.deeds (listen frames events) = [] := deeds_of_kept rfl rfl nofun

theorem deeds_take : p.deeds take = [] := deeds_of_kept rfl (FrameQueue.closed_tryPop _) nofun

/-! ### Payloads -/

theorem closed_route (p : Pipeline) (outcome : Outcome) :
    (p.route outcome).2.queue.closed = p.queue.closed := by
  cases outcome with
  | frame frame =>
    have hpush := p.queue.closed_push frame
    unfold route enqueue
    dsimp only [count]
    split <;> simp_all [emit]
  | _ => rfl

theorem closed_routeAll (p : Pipeline) (outcomes : List Outcome) :
    (p.routeAll outcomes).2.queue.closed = p.queue.closed := by
  induction outcomes generalizing p with
  | nil => rfl
  | cons outcome outcomes ih => exact (ih _).trans (p.closed_route outcome)

/-- Payloads do not close the queue. -/
theorem closed_payload (p : Pipeline) (bytes : Bytes) :
    (p.payload bytes).2.queue.closed = p.queue.closed := by
  unfold payload
  split
  · exact closed_routeAll _ _
  · rfl

theorem calm_route (p : Pipeline) (outcome : Outcome) :
    ∀ n ∈ p.notices (·.route outcome), n.isTerminal = false := by
  intro n hn
  rw [notices_route] at hn
  cases outcome with
  | frame frame =>
    dsimp only at hn
    rw [notices_enqueue] at hn
    obtain ⟨evicted, -, rfl⟩ := List.mem_map.mp hn
    rfl
  | _ =>
    rw [List.mem_singleton.mp hn]
    rfl

theorem calm_routeAll (p : Pipeline) (outcomes : List Outcome) :
    ∀ n ∈ p.notices (·.routeAll outcomes), n.isTerminal = false := by
  induction outcomes generalizing p with
  | nil => exact fun n hn => absurd hn List.not_mem_nil
  | cons outcome outcomes ih =>
    intro n hn
    rw [notices_routeAll_cons, List.mem_append] at hn
    exact hn.elim (p.calm_route outcome n) (ih _ n)

/-- Payloads lead to no fault. -/
theorem calm_payload (p : Pipeline) (bytes : Bytes) :
    ∀ n ∈ p.notices (·.payload bytes), n.isTerminal = false := by
  by_cases hstreaming : p.state = .streaming
  · rw [notices_payload hstreaming]
    exact calm_routeAll _ _
  · have hnone : p.notices (·.payload bytes) = [] :=
      notices_of_silent (by rw [payload_of_other (by simpa using hstreaming)])
    simp [hnone]

theorem deeds_payload (p : Pipeline) (bytes : Bytes) :
    p.deeds (·.payload bytes) = (p.notices (·.payload bytes)).map .told :=
  deeds_of_kept (p.state_payload bytes) (p.closed_payload bytes) (p.calm_payload bytes)

/-! ### The worker -/

/-- A frame is delivered. -/
theorem report_ok (streaming : p.state = .streaming) (sequence : Nat) (frame : DecodedFrame) :
    (p.report sequence (.ok frame)).2 =
        { p with hub := (p.hub.deliver frame).2, errors := 0 } ∧
      p.notices (·.report sequence (.ok frame)) = [.frame frame] := by
  simp [report, notices, streaming, Hub.deliver, attended, Hub.attended, Effect.messages, Call.notice]

/-- A failed decode is reported, and the stream goes on. -/
theorem report_error (streaming : p.state = .streaming) (sequence : Nat) (e : DecodeError)
    (few : p.errors + 1 < p.maxErrors) :
    (p.report sequence (.error e)).2 =
        { p with hub := (p.hub.emit (.decodeError sequence e)).2, errors := p.errors + 1 } ∧
      p.notices (·.report sequence (.error e)) = [.event (.decodeError sequence e)] := by
  have hfew : ¬ p.maxErrors ≤ p.errors + 1 := Nat.not_le.mpr few
  simp [report, notices, streaming, emit, Hub.emit, attended, Hub.attended, hfew, Effect.messages,
    Call.notice]

/-- A failed decode is reported, and it is one too many. -/
theorem report_last (streaming : p.state = .streaming) (sequence : Nat) (e : DecodeError)
    (many : p.maxErrors ≤ p.errors + 1) :
    (p.report sequence (.error e)).2.state = .faulted ∧
      (p.report sequence (.error e)).2.queue = p.queue.close ∧
      p.notices (·.report sequence (.error e)) =
        [.event (.decodeError sequence e), .event (.fault (.decodeErrors (p.errors + 1)))] := by
  simp [report, notices, streaming, emit, Hub.emit, attended, Hub.attended, many, terminate,
    Effect.messages, Call.notice]

theorem report_of_other (other : p.state ≠ .streaming) (sequence : Nat)
    (result : Except DecodeError DecodedFrame) : p.report sequence result = ([], p) := by
  unfold report
  rw [if_neg other]

/-- Whatever the worker reports, the stream goes on calmly or is ended by this. -/
theorem deeds_report (streaming : p.state = .streaming) (opened : p.queue.closed = false)
    (sequence : Nat) (result : Except DecodeError DecodedFrame) :
    ((p.report sequence result).2.state = .streaming ∧
        (p.report sequence result).2.queue = p.queue ∧
        ∀ d ∈ p.deeds (·.report sequence result), d.isFatal = false) ∨
      ((p.report sequence result).2.state = .faulted ∧
        (p.report sequence result).2.queue.closed = true ∧
        ∃ e count, p.deeds (·.report sequence result) =
          [.told (.event (.decodeError sequence e)), .faulted, .shut,
            .told (.event (.fault (.decodeErrors count)))]) := by
  cases result with
  | ok frame =>
    obtain ⟨hafter, htold⟩ := report_ok streaming sequence frame
    left
    rw [deeds_of_kept (by rw [hafter]) (by rw [hafter]) (by simp [htold, Notice.isTerminal]), htold,
      hafter]
    exact ⟨streaming, rfl, by simp [Deed.isFatal, Notice.isTerminal]⟩
  | error e =>
    rcases Nat.lt_or_ge (p.errors + 1) p.maxErrors with hfew | hmany
    · obtain ⟨hafter, htold⟩ := report_error streaming sequence e hfew
      left
      rw [deeds_of_kept (by rw [hafter]) (by rw [hafter])
        (by simp [htold, Notice.isTerminal, StreamEvent.isTerminal]), htold, hafter]
      exact ⟨streaming, rfl, by simp [Deed.isFatal, Notice.isTerminal, StreamEvent.isTerminal]⟩
    · obtain ⟨hstate, hqueue, htold⟩ := report_last streaming sequence e hmany
      have hclosed : (p.report sequence (.error e)).2.queue.closed = true := by rw [hqueue]; rfl
      refine .inr ⟨hstate, hclosed, e, p.errors + 1, ?_⟩
      simp [deeds, htold, hstate, hclosed, streaming, opened, Notice.isTerminal,
        StreamEvent.isTerminal]

end Pipeline

namespace Session

/-! ### The two forms of a history -/

/-- Nothing has to do with a fault. -/
def Calm (history : List (Party × Deed)) : Prop := ∀ d ∈ history, d.2.isFatal = false

theorem Calm.append {history : List (Party × Deed)} (h : Calm history) {party : Party}
    {deeds : List Deed} (calm : ∀ d ∈ deeds, d.isFatal = false) :
    Calm (history ++ deeds.map (party, ·)) := by
  intro d hd
  rcases List.mem_append.mp hd with hd | hd
  · exact h d hd
  · obtain ⟨deed, hdeed, rfl⟩ := List.mem_map.mp hd
    exact calm deed hdeed

/-- Who is about to report is not done yet, and the host waits for the transfers. -/
def Busy (s : Session) : Party → Prop
  | .transfers => s.drained = false ∧ (s.closing = .no ∨ s.closing = .stopping)
  | .worker => False
  | .host => s.closing = .no

/-- How far a session has come. -/
inductive Story (s : Session) : Prop where
  | streaming (state : s.pipeline.state = .streaming) (opened : s.pipeline.queue.closed = false)
      (calm : Calm s.history) (reports : ∀ party, s.report party = none) (closing : s.closing = .no)
  /-- The host closes the stream, which has not faulted. -/
  | closing (state : s.pipeline.state ≠ .streaming) (calm : Calm s.history)
      (reports : ∀ party, s.report party = none)
  /-- Somebody is about to report a fault. -/
  | reporting (party : Party) (report : Report) (before : List (Party × Deed))
      (state : s.pipeline.state ≠ .streaming) (under : s.report party = some report)
      (others : ∀ other, other ≠ party → s.report other = none)
      (terminal : report.event.isTerminal = true) (calm : Calm before)
      (history : s.history =
        before ++ (party, .faulted) :: if report.shut then [(party, .shut)] else [])
      (queue : s.pipeline.queue.closed = report.shut)
      (busy : s.Busy party)
  | reported (party : Party) (event : StreamEvent) (before : List (Party × Deed))
      (state : s.pipeline.state ≠ .streaming) (reports : ∀ party, s.report party = none)
      (terminal : event.isTerminal = true) (calm : Calm before)
      (history : s.history =
        before ++ [(party, .faulted), (party, .shut), (party, .told (.event event))])
      (queue : s.pipeline.queue.closed = true)

variable {a b s : Session}

theorem MayReport.terminal {event : StreamEvent} {party : Party} (h : s.MayReport event party) :
    event.isTerminal = true := by
  cases party with
  | transfers =>
    obtain ⟨-, -, fault, rfl⟩ := h
    cases fault <;> rfl
  | worker => exact h.elim
  | host =>
    obtain ⟨-, -, rfl⟩ := h
    rfl

theorem MayReport.busy {event : StreamEvent} {party : Party} (h : s.MayReport event party)
    (closing : s.closing = .no) : s.Busy party := by
  cases party with
  | transfers => exact ⟨h.1, .inl closing⟩
  | worker => exact h.elim
  | host => exact h.1

/-- What does not depend on the parties, and adds no deed, carries the story on. -/
theorem Story.same (h : Story a) (state : b.pipeline.state = a.pipeline.state)
    (queue : b.pipeline.queue.closed = a.pipeline.queue.closed) (history : b.history = a.history)
    (report : b.report = a.report) (closing : b.closing = a.closing)
    (drained : b.drained = a.drained) : Story b := by
  cases h with
  | streaming =>
    refine .streaming ?_ ?_ ?_ ?_ ?_ <;> simp_all
  | closing => refine .closing ?_ ?_ ?_ <;> simp_all
  | reporting party r before =>
    refine .reporting party r before ?_ ?_ ?_ ?_ ?_ ?_ ?_ ?_
    case refine_8 => cases party <;> simp_all [Busy]
    all_goals simp_all
  | reported party event before =>
    refine .reported party event before ?_ ?_ ?_ ?_ ?_ ?_ <;> simp_all

/-- A stream that runs has nothing to do with a fault so far. -/
theorem Story.running (h : Story s) (state : s.pipeline.state = .streaming) :
    s.pipeline.queue.closed = false ∧ Calm s.history ∧ (∀ party, s.report party = none) ∧
      s.closing = .no := by
  cases h with
  | streaming _ opened calm reports closing => exact ⟨opened, calm, reports, closing⟩
  | closing other => exact absurd state other
  | reporting party r before other => exact absurd state other
  | reported party event before other => exact absurd state other

/-- Whoever has a report under way is the only one, and has the state moved already. -/
theorem Story.under (h : Story s) {party : Party} {report : Report}
    (under : s.report party = some report) :
    s.pipeline.state ≠ .streaming ∧ (∀ other, other ≠ party → s.report other = none) ∧
      report.event.isTerminal = true ∧ s.pipeline.queue.closed = report.shut ∧
      s.Busy party ∧ ∃ before, Calm before ∧ s.history =
        before ++ (party, .faulted) :: if report.shut then [(party, .shut)] else [] := by
  have hsome : ¬ ∀ party, s.report party = none := fun hnone => by simp [hnone] at under
  cases h with
  | streaming _ _ _ reports => exact absurd reports hsome
  | closing _ _ reports => exact absurd reports hsome
  | reported _ _ _ _ reports => exact absurd reports hsome
  | reporting party' report' before state under' others terminal calm history queue busy =>
    have hparty : party = party' := by
      by_contra hne
      rw [others party hne] at under
      cases under
    subst hparty
    rw [under'] at under
    cases under
    exact ⟨state, others, terminal, queue, busy, before, calm, history⟩

/-! ### Steps -/

/-- What adds no deed, and keeps state and queue, carries the story on. -/
theorem Story.doing (h : Story s) (party : Party)
    {f : Pipeline → List (Effect Call) × Pipeline} (state : (f s.pipeline).2.state = s.pipeline.state)
    (queue : (f s.pipeline).2.queue.closed = s.pipeline.queue.closed)
    (deeds : s.pipeline.deeds f = []) : Story (s.doing party f) :=
  h.same state queue (by simp [Session.doing, deeds]) rfl rfl rfl

/-- The host is about to close the stream, or has closed it: it has no report under way. -/
theorem Story.leave (h : Story s) {f : Pipeline → List (Effect Call) × Pipeline} {closing : Closing}
    (state : (f s.pipeline).2.state ≠ .streaming)
    (queue : (f s.pipeline).2.queue.closed = s.pipeline.queue.closed) (deeds : s.pipeline.deeds f = [])
    (free : s.report .host = none)
    (next : s.closing = .no ∧ closing = .stopping ∨ s.closing = .discarded) :
    Story { s.doing .host f with closing } := by
  have hhistory : (s.doing .host f).history = s.history := by simp [Session.doing, deeds]
  have hcalm (calm : Calm s.history) : Calm (s.doing .host f).history := hhistory ▸ calm
  cases h with
  | streaming _ opened calm reports => exact .closing state (hcalm calm) reports
  | closing _ calm reports => exact .closing state (hcalm calm) reports
  | reporting party r before _ under others terminal calm history closed busy =>
    refine .reporting party r before state under others terminal calm (hhistory.trans history)
      (queue.trans closed) ?_
    cases party with
    | transfers =>
      obtain ⟨hover, hclosing⟩ := busy
      rcases next with ⟨-, rfl⟩ | hdiscarded
      · exact ⟨hover, .inr rfl⟩
      · rw [hdiscarded] at hclosing
        exact absurd hclosing (by decide)
    | worker => exact busy
    | host =>
      rw [free] at under
      cases under
  | reported party event before _ reports terminal calm history closed =>
    exact .reported party event before state reports terminal calm (hhistory.trans history)
      (queue.trans closed)

theorem Story.payload (h : Story s) (bytes : Bytes) : Story (s.received bytes) := by
  by_cases hstreaming : s.pipeline.state = .streaming
  · obtain ⟨hopened, hcalm, hreports, hclosing⟩ := h.running hstreaming
    refine .streaming ((s.pipeline.state_payload bytes).trans hstreaming)
      ((s.pipeline.closed_payload bytes).trans hopened) (hcalm.append ?_) hreports hclosing
    rw [s.pipeline.deeds_payload bytes]
    intro d hd
    obtain ⟨n, hn, rfl⟩ := List.mem_map.mp hd
    exact Pipeline.calm_payload s.pipeline bytes n hn
  · have hidle := Pipeline.payload_of_other hstreaming bytes
    have hdeeds := Pipeline.deeds_of_idle (f := (·.payload bytes)) hidle
      (by rw [Pipeline.payload_of_other (by simpa using hstreaming)])
    have hdone := h.doing .transfers (f := (·.payload bytes)) (by rw [hidle]) (by rw [hidle]) hdeeds
    exact hdone.same rfl rfl rfl rfl rfl rfl

/-- The worker faults the stream, closes the queue and tells at one go. -/
theorem Story.decoded (h : Story s) (frame : CompletedFrame)
    (result : Except DecodeError DecodedFrame) : Story (s.reporting frame result) := by
  by_cases hstreaming : s.pipeline.state = .streaming
  · obtain ⟨hopened, hcalm, hreports, hclosing⟩ := h.running hstreaming
    rcases Pipeline.deeds_report hstreaming hopened frame.sequence result with
      ⟨hstate, hqueue, hdeeds⟩ | ⟨hstate, hqueue, e, count, hdeeds⟩
    · exact .streaming hstate ((congrArg (·.closed) hqueue).trans hopened) (hcalm.append hdeeds)
        hreports hclosing
    -- The last of too many errors: what it tells of the frame comes in front of the fault.
    · have hquiet : ∀ d ∈ [Deed.told (.event (.decodeError frame.sequence e))],
          d.isFatal = false := by
        simp [Deed.isFatal, Notice.isTerminal, StreamEvent.isTerminal]
      refine .reported .worker (.fault (.decodeErrors count))
        (s.history ++ [(.worker, .told (.event (.decodeError frame.sequence e)))]) ?_ hreports rfl
        (hcalm.append hquiet) ?_ hqueue
      · show (s.pipeline.report frame.sequence result).2.state ≠ .streaming
        rw [hstate]
        exact nofun
      · simp [Session.reporting, Session.doing, hdeeds]
  · have hidle := Pipeline.report_of_other hstreaming frame.sequence result
    have hdeeds := Pipeline.deeds_of_idle (f := (·.report frame.sequence result)) hidle
      (by rw [Pipeline.report_of_other (by simpa using hstreaming)])
    have hdone := h.doing .worker (f := (·.report frame.sequence result))
      (by rw [hidle]) (by rw [hidle]) hdeeds
    exact hdone.same rfl rfl rfl rfl rfl rfl

/-- The task of the transfers ends when it has no report under way. -/
theorem Story.drained (h : Story s) (free : s.report .transfers = none) :
    Story { s with drained := true } := by
  cases h with
  | streaming state opened calm reports closing => exact .streaming state opened calm reports closing
  | closing state calm reports => exact .closing state calm reports
  | reported party event before state reports terminal calm history queue =>
    exact .reported party event before state reports terminal calm history queue
  | reporting party r before state under others terminal calm history queue busy =>
    refine .reporting party r before state under others terminal calm history queue ?_
    cases party with
    | transfers =>
      rw [free] at under
      cases under
    | worker => exact busy
    | host => exact busy

/-- Frames are discarded when the transfers are back. So nobody has a report under way, and a queue that
is closed by then was closed in one. -/
theorem Story.discard (h : Story s) (stopping : s.closing = .stopping) (drained : s.drained = true) :
    Story { s.doing .host Pipeline.discard with closing := .discarded } := by
  cases h with
  | streaming _ _ _ _ closing =>
    rw [closing] at stopping
    cases stopping
  | closing state calm reports =>
    refine .closing state (calm.append ?_) reports
    rw [Pipeline.deeds_discard]
    split
    · exact fun d hd => by rw [List.mem_singleton.mp hd]; rfl
    · exact fun d hd => absurd hd List.not_mem_nil
  | reporting party _ _ _ _ _ _ _ _ _ busy =>
    cases party with
    | transfers =>
      rw [busy.1] at drained
      cases drained
    | worker => exact busy.elim
    | host =>
      rw [show s.closing = .no from busy] at stopping
      cases stopping
  | reported party event before state reports terminal calm history queue =>
    refine .reported party event before state reports terminal calm ?_ rfl
    simp [Session.doing, Pipeline.deeds_discard, queue, history]

theorem Step.story (hs : Step a b) (h : Story a) : Story b := by
  cases hs with
  | payload bytes runs free => exact h.payload bytes
  | take frame free next =>
    have hdone := h.doing .worker (f := Pipeline.take) rfl
      (FrameQueue.closed_tryPop _) Pipeline.deeds_take
    exact hdone.same rfl rfl rfl rfl rfl rfl
  | decoded frame result taken same => exact h.decoded frame result
  | fall party event may streaming =>
    obtain ⟨hopened, hcalm, hreports, hclosing⟩ := h.running streaming
    refine .reporting party { event } a.history nofun (Function.update_self ..)
      (fun other hne => (Function.update_of_ne hne _ _).trans (hreports other)) may.terminal hcalm ?_
      hopened (may.busy hclosing)
    simp [Session.doing, Pipeline.deeds_fall streaming]
  | late party event may other => exact h
  | shut party event fallen =>
    obtain ⟨hstate, hothers, hterminal, hqueue, hbusy, before, hcalm, hhistory⟩ := h.under fallen
    refine .reporting party { event, shut := true } before hstate (Function.update_self ..)
      (fun other hne => (Function.update_of_ne hne _ _).trans (hothers other hne)) hterminal hcalm ?_
      rfl hbusy
    simp [Session.doing, Pipeline.deeds_shut, hhistory, hqueue]
  | tell party event shut =>
    obtain ⟨hstate, hothers, hterminal, hqueue, hbusy, before, hcalm, hhistory⟩ := h.under shut
    refine .reported party event before hstate (fun other => ?_) hterminal hcalm ?_ hqueue
    · by_cases hne : other = party
      · rw [hne]
        exact Function.update_self ..
      · exact (Function.update_of_ne hne _ _).trans (hothers other hne)
    · simp [Session.doing, Pipeline.deeds_emit hterminal, hhistory]
  | drained free => exact h.drained free
  | stop opened free =>
    exact h.leave (f := Pipeline.stop) nofun rfl Pipeline.deeds_stop free (.inl ⟨opened, rfl⟩)
  | discard stopping drained => exact h.discard stopping drained
  | finish discarded free =>
    -- Who closes the stream has no report of its own under way.
    refine h.leave (f := Pipeline.finish) nofun rfl Pipeline.deeds_finish ?_ (.inr discarded)
    cases hreport : a.report .host with
    | none => rfl
    | some r =>
      obtain ⟨-, -, -, -, hbusy, -⟩ := h.under hreport
      rw [show a.closing = .no from hbusy] at discarded
      cases discarded
  | listen frames events => exact h.doing .host rfl rfl (Pipeline.deeds_listen frames events)

/-! ### Runs -/

theorem Reachable.story (h : Reachable s) : Story s := by
  induction h with
  | start c config => exact .streaming rfl rfl nofun (fun _ => rfl) rfl
  | step _ hs ih => exact hs.story ih

/-- One thing after the other. -/
def Run : Session → Session → Prop := Relation.ReflTransGen Step

/-- Outside of streaming all is silent: nothing enters the queue, and nothing is told but by a report
under way. -/
structure Silent (a b : Session) : Prop where
  state : b.pipeline.state ≠ .streaming
  queue : b.pipeline.queue.written = a.pipeline.queue.written
  history : ∃ more, b.history = a.history ++ more ∧ ∀ party notice, (party, .told notice) ∈ more →
    ∃ report, a.report party = some report ∧ notice = .event report.event
  reports : ∀ party report, b.report party = some report →
    ∃ before, a.report party = some before ∧ before.event = report.event

theorem Silent.refl (state : s.pipeline.state ≠ .streaming) : Silent s s :=
  ⟨state, rfl, ⟨[], (List.append_nil _).symm, nofun⟩, fun _ report h => ⟨report, h, rfl⟩⟩

theorem Silent.trans {c : Session} (h : Silent a b) (h' : Silent b c) : Silent a c where
  state := h'.state
  queue := h'.queue.trans h.queue
  history := by
    obtain ⟨first, hfirst, htold⟩ := h.history
    obtain ⟨later, hlater, htold'⟩ := h'.history
    refine ⟨first ++ later, by rw [hlater, hfirst, List.append_assoc], fun party notice hmem => ?_⟩
    rcases List.mem_append.mp hmem with hmem | hmem
    · exact htold party notice hmem
    · obtain ⟨report, hreport, rfl⟩ := htold' party notice hmem
      obtain ⟨before, hbefore, hevent⟩ := h.reports party report hreport
      exact ⟨before, hbefore, by rw [hevent]⟩
  reports party report hreport := by
    obtain ⟨before, hbefore, hevent⟩ := h'.reports party report hreport
    obtain ⟨first, hfirst, hevent'⟩ := h.reports party before hbefore
    exact ⟨first, hfirst, hevent'.trans hevent⟩

/-- Something that is told to nobody. -/
theorem Silent.doing (party : Party) {f : Pipeline → List (Effect Call) × Pipeline}
    (state : (f a.pipeline).2.state ≠ .streaming)
    (queue : (f a.pipeline).2.queue.written = a.pipeline.queue.written)
    (notices : a.pipeline.notices f = []) : Silent a (a.doing party f) := by
  refine ⟨state, queue, ⟨_, rfl, fun party notice hmem => ?_⟩, fun _ report h => ⟨report, h, rfl⟩⟩
  obtain ⟨deed, hdeed, heq⟩ := List.mem_map.mp hmem
  cases heq
  have htold := Pipeline.mem_notices hdeed
  rw [notices] at htold
  exact absurd htold List.not_mem_nil

/-- A report goes on: its event is the only one it tells. -/
theorem Silent.goOn {party : Party} {report : Report} {next : Option Report}
    {f : Pipeline → List (Effect Call) × Pipeline} (state : (f a.pipeline).2.state ≠ .streaming)
    (queue : (f a.pipeline).2.queue.written = a.pipeline.queue.written)
    (under : a.report party = some report)
    (notices : ∀ n ∈ a.pipeline.notices f, n = .event report.event)
    (goesOn : ∀ r, next = some r → r.event = report.event) :
    Silent a { a.doing party f with report := Function.update a.report party next } := by
  refine ⟨state, queue, ⟨_, rfl, fun other notice hmem => ?_⟩, fun other r hr => ?_⟩
  · obtain ⟨deed, hdeed, heq⟩ := List.mem_map.mp hmem
    cases heq
    exact ⟨report, under, notices notice (Pipeline.mem_notices hdeed)⟩
  · by_cases hne : other = party
    · subst hne
      have hnext : next = some r := (Function.update_self other next a.report).symm.trans hr
      exact ⟨report, under, (goesOn r hnext).symm⟩
    · exact ⟨r, (Function.update_of_ne hne _ _).symm.trans hr, rfl⟩

theorem Step.silent (hs : Step a b) (state : a.pipeline.state ≠ .streaming) : Silent a b := by
  cases hs with
  | payload bytes runs free =>
    have hidle := Pipeline.payload_of_other state bytes
    have hdone := Silent.doing (a := a) .transfers (f := (·.payload bytes))
      (by rw [hidle]; exact state) (by rw [hidle])
      (Pipeline.notices_of_silent (by rw [Pipeline.payload_of_other (by simpa using state)]))
    exact ⟨hdone.state, hdone.queue, hdone.history, hdone.reports⟩
  | take frame free next =>
    have hdone := Silent.doing (a := a) .worker (f := Pipeline.take) state
      (FrameQueue.written_tryPop _) rfl
    exact ⟨hdone.state, hdone.queue, hdone.history, hdone.reports⟩
  | decoded frame result taken same =>
    have hidle := Pipeline.report_of_other state frame.sequence result
    have hdone := Silent.doing (a := a) .worker (f := (·.report frame.sequence result))
      (by rw [hidle]; exact state) (by rw [hidle])
      (Pipeline.notices_of_silent (by rw [Pipeline.report_of_other (by simpa using state)]))
    exact ⟨hdone.state, hdone.queue, hdone.history, hdone.reports⟩
  | fall party event may streaming => exact absurd streaming state
  | late party event may other => exact .refl state
  | shut party event fallen =>
    exact .goOn (f := Pipeline.shut) state rfl fallen nofun fun r hr => by cases hr; rfl
  | tell party event shut =>
    exact .goOn (f := (·.emit event)) state rfl shut (by simp) nofun
  | drained free =>
    have hsame := Silent.refl state
    exact ⟨hsame.state, hsame.queue, hsame.history, hsame.reports⟩
  | stop opened free =>
    have hdone := Silent.doing (a := a) .host (f := Pipeline.stop) nofun rfl rfl
    exact ⟨hdone.state, hdone.queue, hdone.history, hdone.reports⟩
  | discard stopping drained =>
    have hdone := Silent.doing (a := a) .host (f := Pipeline.discard) state rfl rfl
    exact ⟨hdone.state, hdone.queue, hdone.history, hdone.reports⟩
  | finish discarded free =>
    have hdone := Silent.doing (a := a) .host (f := Pipeline.finish) nofun rfl rfl
    exact ⟨hdone.state, hdone.queue, hdone.history, hdone.reports⟩
  | listen frames events => exact .doing .host state rfl rfl

theorem Run.silent (hr : Run a b) (state : a.pipeline.state ≠ .streaming) : Silent a b := by
  induction hr with
  | refl => exact .refl state
  | tail _ hs ih => exact ih.trans (hs.silent ih.state)

/-- **One end, and silence after it.** As long as nobody has moved the state from streaming to faulted,
nothing is told of a fault. Whoever does that closes the queue next and then tells the one event that
ends the stream, and these are the last deeds of the session. And whenever the stream does not run,
because of a fault or because the host closes it, no frame enters the queue from then on, and nothing is
told but what a report under way has left to tell. -/
theorem ends_once (h : Reachable s) :
    (Calm s.history ∨
      ∃ party event before after, s.history = before ++ (party, .faulted) :: after ∧ Calm before ∧
        event.isTerminal = true ∧
        after <+: [(party, .shut), (party, .told (.event event))] ∧
        (s.report party = none → after = [(party, .shut), (party, .told (.event event))]) ∧
        (s.report party ≠ none → s.closing ≠ .done) ∧
        s.pipeline.state ≠ .streaming ∧ ((party, .shut) ∈ after → s.pipeline.queue.closed = true)) ∧
    (s.pipeline.state = .streaming → Calm s.history ∧ s.pipeline.queue.closed = false) ∧
    (s.pipeline.state ≠ .streaming → ∀ s', Run s s' → Silent s s') := by
  refine ⟨?_, fun state => ?_, fun state s' hr => hr.silent state⟩
  · cases h.story with
    | streaming _ _ calm => exact .inl calm
    | closing _ calm => exact .inl calm
    | reporting party r before state under others terminal calm history queue busy =>
      refine .inr ⟨party, r.event, before, _, history, calm, terminal, ?_, ?_, ?_, state, ?_⟩
      · split
        · exact ⟨[_], rfl⟩
        · exact List.nil_prefix
      · rw [under]
        exact nofun
      · intro _ hdone
        cases party with
        | transfers =>
          obtain ⟨-, hclosing⟩ := busy
          rw [hdone] at hclosing
          exact absurd hclosing (by decide)
        | worker => exact busy
        | host => exact nomatch hdone.symm.trans busy
      · intro hmem
        split at hmem
        · next hshut => exact queue.trans hshut
        · exact absurd hmem List.not_mem_nil
    | reported party event before state reports terminal calm history queue =>
      exact .inr ⟨party, event, before, _, history, calm, terminal, List.prefix_rfl, fun _ => rfl,
        fun hsome => absurd (reports party) hsome, state, fun _ => queue⟩
  · obtain ⟨hopened, hcalm, -⟩ := h.story.running state
    exact ⟨hcalm, hopened⟩

/-! ### A camera that is unplugged while a picture is decoded -/

/-- The worker has taken the first picture. -/
def engaged : Session :=
  ((start .narrow .pixels).received [2, 2, 7]).taking
    { sequence := 1, width := 1, height := 1, encoding := .grey, pts := none, data := [7] }

/-- The state has moved, and a picture comes in before the queue is closed. -/
def falling : Session :=
  { engaged.doing .host Pipeline.fall with
      report := Function.update engaged.report .host (some { event := .disconnected }) }.received
    [2, 3, 8]

def shutting : Session :=
  { falling.doing .host Pipeline.shut with
    report := Function.update falling.report .host
      (some { event := .disconnected, shut := true }) }

/-- Listeners have been told, and the worker is still busy. -/
def gone : Session :=
  { shutting.doing .host (·.emit .disconnected) with
    report := Function.update shutting.report .host none }

theorem reachable_gone : Reachable gone := by
  have hengaged : Reachable engaged :=
    ((Reachable.start _ _).step (.payload _ _ rfl rfl)).step (.take _ _ rfl (by decide +kernel))
  have hfalling : Reachable falling :=
    (hengaged.step (.fall _ .host .disconnected ⟨rfl, rfl, rfl⟩ (by decide +kernel))).step
      (.payload _ _ rfl rfl)
  have hshutting : Reachable shutting := hfalling.step (.shut _ .host .disconnected rfl)
  exact hshutting.step (.tell _ .host .disconnected rfl)

/-- The picture that is decoded is delivered to nobody, and no fault of the transfers is reported any
more, whatever happens next. -/
theorem ends_once_gone :
    gone.history =
        [(.host, .faulted), (.host, .shut), (.host, .told (.event .disconnected))] ∧
      gone.decoding.isSome ∧
      ∀ s', Run gone s' → s'.pipeline.queue.written = 1 ∧
        ∃ more, s'.history = gone.history ++ more ∧
          ∀ party notice, (party, .told notice) ∉ more := by
  refine ⟨by decide +kernel, by decide +kernel, fun s' hr => ?_⟩
  have hsilent := (ends_once reachable_gone).2.2 (by decide +kernel) s' hr
  have hwritten : gone.pipeline.queue.written = 1 := by decide +kernel
  refine ⟨hsilent.queue.trans hwritten, ?_⟩
  obtain ⟨more, hhistory, htold⟩ := hsilent.history
  refine ⟨more, hhistory, fun party notice hmem => ?_⟩
  obtain ⟨report, hreport, -⟩ := htold party notice hmem
  -- Nobody has a report under way any more.
  cases party <;> cases hreport

end Session

end UsbVideo
