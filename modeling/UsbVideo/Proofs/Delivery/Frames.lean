import UsbVideo.Proofs.Delivery.Ending
import UsbVideo.Proofs.Reassembly.Accounts
import UsbVideo.Proofs.Reassembly.Restart

/-!
# Where the frames are

The reassembler numbers the frames it completes from 1 on. As long as the stream runs, each number is in
one place:

    payloads ──▶ waiting ──▶ being decoded ──▶ delivered, or failed
                    │
                    └──▶ evicted

Delivered frames, the one that is decoded and those that wait form a line in ascending order, whatever
else leaves it. A payload lengthens the line at its end (`Placed.enqueue`), the worker moves on in it.
The counters say how many frames are in each place, and how often the reassembler gave up.
-/

namespace UsbVideo

/-! ### Counters -/

/-- The frame id flipped too early. -/
def Outcome.isUnfinished : Outcome → Bool
  | unfinished _ => true
  | _ => false

/-- The counters agree with what came of the payloads. -/
structure StreamStats.Counts (s : StreamStats) (outcomes : List Outcome) : Prop where
  framesCompleted : s.framesCompleted = (Outcome.frames outcomes).length
  partialFrames : s.partialFrames = outcomes.countP (·.isUnfinished)
  headerTooShort : s.headerTooShort = outcomes.countP (·.headerError?.isSome)
  droppedPayloadError : s.droppedPayloadError = outcomes.countP (·.isDropped .payloadError)
  droppedOverflow : s.droppedOverflow = outcomes.countP (·.isDropped .overflow)

/-- A frame is put into the queue, for which another one may have to go. -/
theorem FrameQueue.push_open {q : FrameQueue} (opened : q.closed = false) (frame : CompletedFrame) :
    (q.push frame).1.toList ++ (q.push frame).2.frames = q.frames ++ [frame] := by
  unfold FrameQueue.push
  rw [opened]
  split
  · contradiction
  · split
    · rfl
    · split
      · next h => simp [h]
      · next h => simp [h]

namespace Pipeline

variable {p : Pipeline} {outcomes : List Outcome}

theorem queue_enqueue (p : Pipeline) (frame : CompletedFrame) :
    (p.enqueue frame).2.queue = (p.queue.push frame).2 := by
  unfold enqueue
  dsimp only [count]
  rcases p.queue.push frame with ⟨_ | evicted, queue⟩ <;> rfl

theorem stats_enqueue (p : Pipeline) (frame : CompletedFrame) :
    (p.enqueue frame).2.hub.stats =
      { p.hub.stats with
        framesCompleted := p.hub.stats.framesCompleted + 1
        droppedBackpressure :=
          p.hub.stats.droppedBackpressure + (p.queue.push frame).1.toList.length } := by
  unfold enqueue
  dsimp only [count]
  rcases p.queue.push frame with ⟨_ | evicted, queue⟩ <;> rfl

theorem stats_emit (p : Pipeline) (event : StreamEvent) :
    (p.emit event).2.hub.stats = p.hub.stats.count event := rfl

/-- Every outcome is counted in its place. -/
theorem counts_route (h : p.hub.stats.Counts outcomes) (outcome : Outcome) :
    (p.route outcome).2.hub.stats.Counts (outcomes ++ [outcome]) := by
  obtain ⟨hcompleted, hpartial, hshort, herror, hoverflow⟩ := h
  cases outcome with
  | frame frame =>
    rw [route, stats_enqueue]
    constructor <;> simpa [Outcome.frames, Outcome.frame?, Outcome.isUnfinished,
      Outcome.headerError?, Outcome.isDropped]
  | dropped reason bytes =>
    rw [route, stats_emit]
    cases reason <;> constructor <;> simpa [StreamStats.count, Outcome.frames, Outcome.frame?,
      Outcome.isUnfinished, Outcome.headerError?, Outcome.isDropped]
  | _ =>
    rw [route, stats_emit]
    constructor <;> simpa [StreamStats.count, Outcome.frames, Outcome.frame?,
      Outcome.isUnfinished, Outcome.headerError?, Outcome.isDropped]

/-- Nothing that is routed touches the reassembler. -/
theorem reassembler_route (p : Pipeline) (outcome : Outcome) :
    (p.route outcome).2.reassembler = p.reassembler := by
  cases outcome with
  | frame frame =>
    unfold route enqueue
    dsimp only [count]
    rcases p.queue.push frame with ⟨_ | evicted, queue⟩ <;> rfl
  | _ => rfl

theorem reassembler_routeAll (p : Pipeline) (outcomes : List Outcome) :
    (p.routeAll outcomes).2.reassembler = p.reassembler := by
  induction outcomes generalizing p with
  | nil => rfl
  | cons outcome outcomes ih => exact (ih _).trans (p.reassembler_route outcome)

theorem counts_routeAll (h : p.hub.stats.Counts outcomes) (more : List Outcome) :
    (p.routeAll more).2.hub.stats.Counts (outcomes ++ more) := by
  induction more generalizing p outcomes with
  | nil =>
    rw [List.append_nil]
    exact h
  | cons outcome more ih => simpa [routeAll] using ih (counts_route h outcome)

end Pipeline

theorem Hub.stats_deliver (h : Hub) (frame : DecodedFrame) :
    (h.deliver frame).2.stats = { h.stats with framesDelivered := h.stats.framesDelivered + 1 } := by
  unfold Hub.deliver
  dsimp only
  split <;> rfl

/-- A frame keeps its number when it is decoded. -/
theorem FormatDecoder.sequence_decode {d : FormatDecoder} {frame : CompletedFrame}
    {result : DecodedFrame} (h : Pipeline.decodeResult (d.decode frame) = .ok result) :
    result.sequence = frame.sequence := by
  unfold FormatDecoder.decode at h
  cases hpicture : d.picture frame with
  | error failure =>
    rw [hpicture] at h
    cases failure <;> cases h
  | ok picture =>
    rw [hpicture] at h
    cases h
    rfl

/-! ### Places -/

/-- The numbers up to `completed`, each in one of four places. Those delivered and those in line are in
ascending order. -/
structure Placed (completed : Nat) (delivered failed evicted line : List Nat) : Prop where
  places : (delivered ++ failed ++ evicted ++ line).Perm (List.range' 1 completed)
  order : (delivered ++ line).Pairwise (· < ·)

namespace Placed

variable {completed number : Nat} {delivered failed evicted line rest : List Nat}

/-- A frame is completed, and is the last in line. -/
theorem complete (h : Placed completed delivered failed evicted line) :
    Placed (completed + 1) delivered failed evicted (line ++ [completed + 1]) := by
  refine ⟨?_, ?_⟩
  · rw [← List.append_assoc, List.range'_1_concat, Nat.add_comm 1]
    exact h.places.append_right _
  · rw [← List.append_assoc, List.pairwise_append]
    refine ⟨h.order, List.pairwise_singleton _ _, fun n hn m hm => ?_⟩
    have hmem : n ∈ List.range' 1 completed := by
      refine h.places.mem_iff.mp ?_
      simp only [List.mem_append] at hn ⊢
      exact hn.elim (fun hd => .inl (.inl (.inl hd))) .inr
    rw [List.mem_singleton.mp hm]
    exact Nat.lt_succ_of_le (by have := List.mem_range'_1.mp hmem; omega)

/-- Some of those in line are evicted. -/
theorem evict {first gone : List Nat}
    (h : Placed completed delivered failed evicted (first ++ gone ++ rest)) :
    Placed completed delivered failed (evicted ++ gone) (first ++ rest) := by
  refine ⟨?_, h.order.sublist ?_⟩
  · have hplaces := h.places
    simp only [List.perm_iff_count, List.count_append] at hplaces ⊢
    exact fun n => by rw [← hplaces n]; omega
  · rw [List.append_assoc]
    exact (List.Sublist.refl _).append
      ((List.Sublist.refl _).append (List.sublist_append_right _ _))

/-- The first in line is delivered. -/
theorem deliver (h : Placed completed delivered failed evicted (number :: rest)) :
    Placed completed (delivered ++ [number]) failed evicted rest := by
  refine ⟨?_, ?_⟩
  · have hplaces := h.places
    simp only [List.perm_iff_count, List.count_append, List.count_cons, List.count_nil] at hplaces ⊢
    exact fun n => by rw [← hplaces n]; omega
  · rw [List.append_assoc]
    exact h.order

/-- The first in line could not be decoded. -/
theorem fail (h : Placed completed delivered failed evicted (number :: rest)) :
    Placed completed delivered (failed ++ [number]) evicted rest := by
  refine ⟨?_, h.order.sublist ?_⟩
  · have hplaces := h.places
    simp only [List.perm_iff_count, List.count_append, List.count_cons, List.count_nil] at hplaces ⊢
    exact fun n => by rw [← hplaces n]; omega
  · exact (List.Sublist.refl _).append (List.sublist_cons_self _ _)

end Placed

/-! ### What is told of frames -/

namespace Notice

/-- The number of a frame that is delivered. -/
def delivered? : Notice → Option Nat
  | frame f => some f.sequence
  | event _ => none

/-- The number of a frame that could not be decoded. -/
def failed? : Notice → Option Nat
  | event (.decodeError sequence _) => some sequence
  | _ => none

/-- The number of a frame that was evicted. -/
def evicted? : Notice → Option Nat
  | event (.frameDropped .backpressure sequence _) => sequence
  | _ => none

end Notice

/-- The numbers of the frame that is decoded and of those that wait. -/
def Pipeline.line (p : Pipeline) (decoding : Option CompletedFrame) : List Nat :=
  (decoding.toList ++ p.queue.frames).map (·.sequence)

/-- Every completed frame is in its place, and the counters say how many are where. -/
structure Accounted (p : Pipeline) (decoding : Option CompletedFrame) (told : List Notice) : Prop where
  placed : Placed p.hub.stats.framesCompleted (told.filterMap Notice.delivered?)
    (told.filterMap Notice.failed?) (told.filterMap Notice.evicted?) (p.line decoding)
  delivered : p.hub.stats.framesDelivered = (told.filterMap Notice.delivered?).length
  failed : p.hub.stats.decodeErrors = (told.filterMap Notice.failed?).length
  evicted : p.hub.stats.droppedBackpressure = (told.filterMap Notice.evicted?).length

namespace Accounted

variable {p : Pipeline} {decoding : Option CompletedFrame} {told : List Notice}

/-- A new frame waits at the end of the line, and one that waited may be evicted. -/
theorem enqueue (h : Accounted p decoding told) (opened : p.queue.closed = false)
    {frame : CompletedFrame} (number : frame.sequence = p.hub.stats.framesCompleted + 1) :
    Accounted (p.enqueue frame).2 decoding (told ++ p.notices (·.enqueue frame)) := by
  have hpush := FrameQueue.push_open opened frame
  have hline : p.line decoding ++ [p.hub.stats.framesCompleted + 1] =
      decoding.toList.map (·.sequence) ++ (p.queue.push frame).1.toList.map (·.sequence) ++
        (p.queue.push frame).2.frames.map (·.sequence) := by
    rw [List.append_assoc, ← List.map_append, hpush]
    simp [Pipeline.line, number]
  have hplaced := h.placed.complete
  rw [hline] at hplaced
  have hdelivered : (p.notices (·.enqueue frame)).filterMap Notice.delivered? = [] := by
    simp [Pipeline.notices_enqueue, Notice.delivered?]
  have hfailed : (p.notices (·.enqueue frame)).filterMap Notice.failed? = [] := by
    simp [Pipeline.notices_enqueue, Notice.failed?, Pipeline.evictedEvent]
  have hevicted : (p.notices (·.enqueue frame)).filterMap Notice.evicted? =
      (p.queue.push frame).1.toList.map (·.sequence) := by
    simp [Pipeline.notices_enqueue, Function.comp_def, Notice.evicted?, Pipeline.evictedEvent]
  constructor <;>
    simp only [Pipeline.stats_enqueue, List.filterMap_append, hdelivered, hfailed, hevicted,
      List.append_nil]
  · simpa [Pipeline.line, Pipeline.queue_enqueue] using hplaced.evict
  · exact h.delivered
  · exact h.failed
  · simp [h.evicted]

/-- What has to do with no frame in its place leaves all frames there. -/
theorem emit (h : Accounted p decoding told) {event : StreamEvent}
    (failed : Notice.failed? (.event event) = none) (evicted : Notice.evicted? (.event event) = none)
    (same : (p.hub.stats.count event).framesCompleted = p.hub.stats.framesCompleted ∧
      (p.hub.stats.count event).framesDelivered = p.hub.stats.framesDelivered ∧
      (p.hub.stats.count event).decodeErrors = p.hub.stats.decodeErrors ∧
      (p.hub.stats.count event).droppedBackpressure = p.hub.stats.droppedBackpressure) :
    Accounted (p.emit event).2 decoding (told ++ [.event event]) := by
  have hdelivered : Notice.delivered? (.event event) = none := rfl
  obtain ⟨hcompleted, hframes, hfailed, hevicted⟩ := same
  constructor <;>
    simp only [Pipeline.stats_emit, List.filterMap_append, List.filterMap_cons, hdelivered, failed,
      evicted, List.filterMap_nil, List.append_nil]
  · rw [hcompleted]
    exact h.placed
  · exact hframes.trans h.delivered
  · exact hfailed.trans h.failed
  · exact hevicted.trans h.evicted

theorem route (h : Accounted p decoding told) (opened : p.queue.closed = false) {outcome : Outcome}
    (evicts : outcome.isDropped .backpressure = false)
    (number : ∀ frame, outcome = .frame frame →
      frame.sequence = p.hub.stats.framesCompleted + 1) :
    Accounted (p.route outcome).2 decoding (told ++ p.notices (·.route outcome)) := by
  rw [Pipeline.notices_route]
  cases outcome with
  | frame frame => exact h.enqueue opened (number frame rfl)
  | dropped reason bytes =>
    cases reason with
    | backpressure => cases evicts
    | payloadError => exact h.emit rfl rfl ⟨rfl, rfl, rfl, rfl⟩
    | overflow => exact h.emit rfl rfl ⟨rfl, rfl, rfl, rfl⟩
  | unfinished bytes => exact h.emit rfl rfl ⟨rfl, rfl, rfl, rfl⟩
  | headerTooShort e => exact h.emit rfl rfl ⟨rfl, rfl, rfl, rfl⟩

/-- Outcomes that number their frames on. -/
theorem routeAll {outcomes : List Outcome} (h : Accounted p decoding told)
    (opened : p.queue.closed = false)
    (evicts : ∀ o ∈ outcomes, o.isDropped .backpressure = false)
    (numbers : (Outcome.frames outcomes).map (·.sequence) =
      List.range' (p.hub.stats.framesCompleted + 1) (Outcome.frames outcomes).length) :
    Accounted (p.routeAll outcomes).2 decoding (told ++ p.notices (·.routeAll outcomes)) := by
  induction outcomes generalizing p told with
  | nil => simpa [Pipeline.routeAll, Pipeline.notices, Effect.messages] using h
  | cons outcome outcomes ih =>
    have hnext : (p.routeAll (outcome :: outcomes)).2 =
        ((p.route outcome).2.routeAll outcomes).2 := rfl
    rw [hnext, Pipeline.notices_routeAll_cons, ← List.append_assoc]
    have hevicts := List.forall_mem_cons.mp evicts
    have hopened : (p.route outcome).2.queue.closed = false :=
      (p.closed_route outcome).trans opened
    cases hframe : outcome.frame? with
    | none =>
      -- No number is used up.
      have hframes : Outcome.frames (outcome :: outcomes) = Outcome.frames outcomes :=
        List.filterMap_cons_none hframe
      have hsame : (p.route outcome).2.hub.stats.framesCompleted = p.hub.stats.framesCompleted := by
        cases outcome with
        | frame frame => cases hframe
        | dropped reason bytes => cases reason <;> rfl
        | _ => rfl
      have hrouted : Accounted (p.route outcome).2 decoding _ :=
        h.route opened hevicts.1 fun frame hframe' => by
          rw [hframe'] at hframe
          cases hframe
      refine ih hrouted hopened hevicts.2 ?_
      rw [hsame, ← hframes]
      exact numbers
    | some frame =>
      obtain rfl : outcome = .frame frame := by
        cases outcome <;> cases hframe
        rfl
      have hframes : Outcome.frames (.frame frame :: outcomes) = frame :: Outcome.frames outcomes :=
        List.filterMap_cons_some hframe
      rw [hframes, List.map_cons, List.length_cons, List.range'_succ, List.cons.injEq] at numbers
      have hcompleted : (p.route (.frame frame)).2.hub.stats.framesCompleted =
          p.hub.stats.framesCompleted + 1 := by
        rw [Pipeline.route, Pipeline.stats_enqueue]
      have hrouted : Accounted (p.route (.frame frame)).2 decoding _ :=
        h.route opened hevicts.1 fun frame' hframe' => by
          cases hframe'
          exact numbers.1
      refine ih hrouted hopened hevicts.2 ?_
      rw [hcompleted]
      exact numbers.2

/-- The worker takes the first frame that waits: the line stays as it is. -/
theorem take (h : Accounted p none told) {frame : CompletedFrame}
    (next : p.queue.tryPop.1 = some frame) : Accounted p.take.2 (some frame) told := by
  have hline : p.take.2.line (some frame) = p.line none := by
    unfold FrameQueue.tryPop at next
    unfold Pipeline.line Pipeline.take FrameQueue.tryPop
    split at next
    · cases next
    · next hframes =>
      cases next
      simp [hframes]
  exact ⟨hline ▸ h.placed, h.delivered, h.failed, h.evicted⟩

theorem deliver {frame : CompletedFrame} (h : Accounted p (some frame) told) {result : DecodedFrame}
    (same : result.sequence = frame.sequence) :
    Accounted { p with hub := (p.hub.deliver result).2, errors := 0 } none
      (told ++ [.frame result]) := by
  constructor <;>
    simp only [Hub.stats_deliver, List.filterMap_append, List.filterMap_cons, Notice.delivered?,
      Notice.failed?, Notice.evicted?, List.filterMap_nil, List.append_nil, same]
  · exact h.placed.deliver
  · simp [h.delivered]
  · exact h.failed
  · exact h.evicted

theorem fail {frame : CompletedFrame} (h : Accounted p (some frame) told) (e : DecodeError)
    (errors : Nat) :
    Accounted { p with hub := (p.hub.emit (.decodeError frame.sequence e)).2, errors } none
      (told ++ [.event (.decodeError frame.sequence e)]) := by
  have hstats : (p.hub.emit (.decodeError frame.sequence e)).2.stats =
      { p.hub.stats with decodeErrors := p.hub.stats.decodeErrors + 1 } := rfl
  constructor <;>
    simp only [hstats, List.filterMap_append, List.filterMap_cons, Notice.delivered?,
      Notice.failed?, Notice.evicted?, List.filterMap_nil, List.append_nil]
  · exact h.placed.fail
  · exact h.delivered
  · simp [h.failed]
  · exact h.evicted

end Accounted

/-! ### Sessions -/

namespace Session

/-- What listeners to everything have been told. -/
def notices (s : Session) : List Notice :=
  s.history.filterMap fun
    | (_, .told notice) => some notice
    | _ => none

/-- Frames delivered, in order. -/
def delivered (s : Session) : List Nat := s.notices.filterMap Notice.delivered?

/-- Frames reported as undecodable, in order. -/
def failed (s : Session) : List Nat := s.notices.filterMap Notice.failed?

/-- Frames reported as evicted, in order. -/
def evicted (s : Session) : List Nat := s.notices.filterMap Notice.evicted?

/-- What came of the payloads. -/
def outcomes (s : Session) : List Outcome :=
  ((Reassembler.new s.pipeline.reassembler.layout).pushAll s.payloads).1

variable {a b s : Session}

/-- What is done without a fault is told in order. -/
theorem notices_doing (party : Party) {f : Pipeline → List (Effect Call) × Pipeline}
    (told : s.pipeline.deeds f = (s.pipeline.notices f).map .told) :
    (s.doing party f).notices = s.notices ++ s.pipeline.notices f := by
  unfold notices Session.doing
  rw [told, List.filterMap_append, List.map_map, List.filterMap_map]
  simp [Function.comp_def]

/-- Nothing is unaccounted for. -/
structure Complete (s : Session) : Prop where
  fed : ((Reassembler.new s.pipeline.reassembler.layout).pushAll s.payloads).2 =
    s.pipeline.reassembler
  counts : s.pipeline.hub.stats.Counts s.outcomes
  accounted : Accounted s.pipeline s.decoding s.notices

theorem Complete.start (c : Controller) (config : StreamConfig) : (start c config).Complete where
  fed := rfl
  counts := ⟨rfl, rfl, rfl, rfl, rfl⟩
  accounted := ⟨⟨.refl _, .nil⟩, rfl, rfl, rfl⟩

/-- The next frame gets the next number. -/
theorem Complete.sequence (h : s.Complete) :
    s.pipeline.reassembler.sequence = s.pipeline.hub.stats.framesCompleted := by
  have hnumbers :=
    (Reassembler.new s.pipeline.reassembler.layout).numbers_pushAll s.payloads
  rw [← h.fed, hnumbers.sequence, h.counts.framesCompleted]
  exact Nat.zero_add _

/-- A payload that is taken in. -/
theorem Complete.payload (h : s.Complete) (streaming : s.pipeline.state = .streaming)
    (opened : s.pipeline.queue.closed = false) (bytes : Bytes) : (s.received bytes).Complete := by
  have hnumbers := s.pipeline.reassembler.numbers_push bytes
  have hpayload := Pipeline.payload_of_streaming streaming bytes
  have hpayloads : (s.received bytes).payloads = s.payloads ++ [bytes] := by
    simp [received, streaming]
  have hreassembler : (s.received bytes).pipeline.reassembler =
      (s.pipeline.reassembler.push bytes).2 := by
    show (s.pipeline.payload bytes).2.reassembler = _
    rw [hpayload, Pipeline.reassembler_routeAll]
    rfl
  have hfed : ((Reassembler.new s.pipeline.reassembler.layout).pushAll (s.payloads ++ [bytes])) =
      (s.outcomes ++ (s.pipeline.reassembler.push bytes).1,
        (s.pipeline.reassembler.push bytes).2) := by
    rw [Reassembler.pushAll_append, h.fed]
    simp [outcomes, Reassembler.pushAll]
  have hlayout : (s.received bytes).pipeline.reassembler.layout =
      s.pipeline.reassembler.layout := by
    have hkept := Reassembler.layout_pushAll s.pipeline.reassembler.layout (s.payloads ++ [bytes])
    rw [hfed] at hkept
    rw [hreassembler]
    exact hkept
  refine ⟨?_, ?_, ?_⟩
  · rw [hlayout, hpayloads, hfed, hreassembler]
  · have houtcomes : (s.received bytes).outcomes =
        s.outcomes ++ (s.pipeline.reassembler.push bytes).1 := by
      rw [outcomes, hlayout, hpayloads, hfed]
    rw [houtcomes]
    show (s.pipeline.payload bytes).2.hub.stats.Counts _
    rw [hpayload]
    obtain ⟨hcompleted, hpartial, hshort, herror, hoverflow⟩ := h.counts
    have hcounts : (s.pipeline.fed bytes).hub.stats.Counts s.outcomes :=
      ⟨hcompleted, hpartial, hshort, herror, hoverflow⟩
    exact Pipeline.counts_routeAll hcounts _
  · have htold := notices_doing (s := s) .transfers (s.pipeline.deeds_payload bytes)
    show Accounted (s.pipeline.payload bytes).2 s.decoding (s.doing .transfers _).notices
    rw [htold, Pipeline.notices_payload streaming, hpayload]
    obtain ⟨hplaced, hdelivered, hfailed, hevicted⟩ := h.accounted
    have hfed : Accounted (s.pipeline.fed bytes) s.decoding s.notices :=
      ⟨hplaced, hdelivered, hfailed, hevicted⟩
    have hframes := hnumbers.frames
    rw [h.sequence] at hframes
    exact hfed.routeAll opened hnumbers.evicts hframes

/-- What feeds nothing to the reassembler and leaves every frame accounted for. -/
theorem Complete.doing (h : s.Complete) {party : Party}
    {f : Pipeline → List (Effect Call) × Pipeline} {decoding : Option CompletedFrame}
    (told : s.pipeline.deeds f = (s.pipeline.notices f).map .told)
    (reassembler : (f s.pipeline).2.reassembler = s.pipeline.reassembler)
    (counts : (f s.pipeline).2.hub.stats.Counts s.outcomes)
    (accounted : Accounted (f s.pipeline).2 decoding (s.notices ++ s.pipeline.notices f)) :
    ({ s.doing party f with decoding } : Session).Complete := by
  have houtcomes : ({ s.doing party f with decoding } : Session).outcomes = s.outcomes := by
    show ((Reassembler.new (f s.pipeline).2.reassembler.layout).pushAll s.payloads).1 = s.outcomes
    rw [reassembler]
    rfl
  refine ⟨?_, houtcomes ▸ counts, ?_⟩
  · show ((Reassembler.new (f s.pipeline).2.reassembler.layout).pushAll s.payloads).2 =
      (f s.pipeline).2.reassembler
    rw [reassembler]
    exact h.fed
  · rw [← notices_doing party told] at accounted
    exact accounted

/-- The worker reports on its frame, and the stream goes on. -/
theorem Complete.report (h : s.Complete) (running : s.pipeline.state = .streaming)
    {frame : CompletedFrame} {result : Except DecodeError DecodedFrame}
    (taken : s.decoding = some frame) (same : ∀ d, result = .ok d → d.sequence = frame.sequence)
    (goesOn : (s.pipeline.report frame.sequence result).2.state = .streaming) :
    (s.reporting frame result).Complete := by
  have haccounted := h.accounted
  rw [taken] at haccounted
  obtain ⟨hcompleted, hpartial, hshort, herror, hoverflow⟩ := h.counts
  cases result with
  | ok d =>
    obtain ⟨hafter, hnotices⟩ := Pipeline.report_ok running frame.sequence d
    have hdelivered := haccounted.deliver (same d rfl)
    rw [← hafter, ← hnotices] at hdelivered
    refine h.doing (Pipeline.deeds_of_kept ?_ ?_ ?_) ?_ ?_ hdelivered
    · rw [hafter]
    · rw [hafter]
    · simp [hnotices, Notice.isTerminal]
    · rw [hafter]
    · rw [hafter, Hub.stats_deliver]
      exact ⟨hcompleted, hpartial, hshort, herror, hoverflow⟩
  | error e =>
    rcases Nat.lt_or_ge (s.pipeline.errors + 1) s.pipeline.maxErrors with hfew | hmany
    · obtain ⟨hafter, hnotices⟩ := Pipeline.report_error running frame.sequence e hfew
      have hfailed := haccounted.fail e (s.pipeline.errors + 1)
      rw [← hafter, ← hnotices] at hfailed
      refine h.doing (Pipeline.deeds_of_kept ?_ ?_ ?_) ?_ ?_ hfailed
      · rw [hafter]
      · rw [hafter]
      · simp [hnotices, Notice.isTerminal, StreamEvent.isTerminal]
      · rw [hafter]
      · rw [hafter]
        exact ⟨hcompleted, hpartial, hshort, herror, hoverflow⟩
    · -- This failure is one too many, and ends the stream.
      have hfaulted := (Pipeline.report_last running frame.sequence e hmany).1
      rw [hfaulted] at goesOn
      cases goesOn

/-- As long as the stream runs, everything that happens leaves nothing unaccounted for. -/
theorem Complete.step (h : a.Complete) (hs : Step a b) (story : Story a)
    (streaming : b.pipeline.state = .streaming) : b.Complete := by
  cases hs with
  | payload bytes runs free =>
    have hrunning := (a.pipeline.state_payload bytes).symm.trans streaming
    exact h.payload hrunning (story.running hrunning).1 bytes
  | take frame free next =>
    have htaken := (free ▸ h.accounted).take next
    have hnotices := Pipeline.notices_of_silent (f := Pipeline.take) (p := a.pipeline) rfl
    refine h.doing (Pipeline.deeds_of_kept rfl (FrameQueue.closed_tryPop _) ?_) rfl h.counts ?_
    · simp [hnotices]
    · simpa [hnotices] using htaken
  | decoded frame result taken same =>
    by_cases hrunning : a.pipeline.state = .streaming
    · exact h.report hrunning taken same streaming
    · have hidle := Pipeline.report_of_other hrunning frame.sequence result
      exact absurd ((congrArg (·.2.state) hidle).symm.trans streaming) hrunning
  | fall party event may running => cases streaming
  | late party event may other => exact h
  | shut party event fallen => exact absurd streaming (story.under fallen).1
  | tell party event shut => exact absurd streaming (story.under shut).1
  | drained free => exact ⟨h.fed, h.counts, h.accounted⟩
  | stop opened free => cases streaming
  | discard stopping drained =>
    have hno := (story.running streaming).2.2.2
    rw [hno] at stopping
    cases stopping
  | finish discarded free => cases streaming
  | listen frames events =>
    obtain ⟨hplaced, hdelivered, hfailed, hevicted⟩ := h.accounted
    have hnotices := Pipeline.notices_of_silent (f := Pipeline.listen frames events)
      (p := a.pipeline) rfl
    refine h.doing (f := Pipeline.listen frames events) (Pipeline.deeds_of_kept rfl rfl ?_) rfl
      h.counts ?_
    · simp [hnotices]
    · rw [hnotices, List.append_nil]
      exact ⟨hplaced, hdelivered, hfailed, hevicted⟩

/-- What runs now has run all the time. -/
theorem Step.ran (hs : Step a b) (streaming : b.pipeline.state = .streaming) :
    a.pipeline.state = .streaming := by
  by_contra hother
  exact (hs.silent hother).state streaming

theorem Reachable.complete (h : Reachable s) (streaming : s.pipeline.state = .streaming) :
    s.Complete := by
  induction h with
  | start c config => exact .start c config
  | step hr hs ih => exact (ih (hs.ran streaming)).step hs hr.story streaming

/-- **No frame is unaccounted for.** As long as the stream runs, whatever the reassembler made of the
payloads and in whichever order payloads came and the worker moved on, the numbers of the frames
completed so far are those delivered, those reported as undecodable, those reported as evicted, the one
that is being decoded and those that wait, each exactly once. The counters are the sizes of these places
and the numbers of outcomes, and frames are delivered in ascending order. -/
theorem frames_accounted (h : Reachable s) (streaming : s.pipeline.state = .streaming) :
    (s.delivered ++ s.failed ++ s.evicted ++ s.decoding.toList.map (·.sequence) ++
        s.pipeline.queue.frames.map (·.sequence)).Perm
      (List.range' 1 s.pipeline.hub.stats.framesCompleted) ∧
    s.pipeline.hub.stats.framesDelivered = s.delivered.length ∧
    s.pipeline.hub.stats.decodeErrors = s.failed.length ∧
    s.pipeline.hub.stats.droppedBackpressure = s.evicted.length ∧
    s.pipeline.hub.stats.Counts s.outcomes ∧
    s.delivered.Pairwise (· < ·) := by
  obtain ⟨-, hcounts, hplaced, hdelivered, hfailed, hevicted⟩ := h.complete streaming
  refine ⟨?_, hdelivered, hfailed, hevicted, hcounts, (List.pairwise_append.mp hplaced.order).1⟩
  have hplaces := hplaced.places
  rw [Pipeline.line, List.map_append, ← List.append_assoc] at hplaces
  exact hplaces

/-- The worker reports what its decoder makes of the frame. -/
theorem Reachable.decodes (h : Reachable s) (frame : CompletedFrame)
    (taken : s.decoding = some frame) :
    Reachable
      (s.reporting frame (Pipeline.decodeResult (s.pipeline.decoder.decode frame))) :=
  h.step (.decoded s frame _ taken fun _ => FormatDecoder.sequence_decode)

/-! ### A busy worker -/

/-- A picture of one grey pixel, as it comes out of the reassembler. -/
def pixel (sequence : Nat) (grey : UInt8) : CompletedFrame :=
  { sequence, width := 1, height := 1, encoding := .grey, pts := none, data := [grey] }

/-- The worker decodes the first picture, and the third has taken the place of the second. -/
def crowded : Session :=
  ((((start .narrow .pixels).received [2, 2, 7]).taking (pixel 1 7)).received [2, 3, 8]).received
    [2, 2, 9]

/-- The first picture is delivered, and the third is broken. The fourth is decoded, and the fifth
waits. -/
def busy : Session :=
  ((((crowded.reporting (pixel 1 7)
      (Pipeline.decodeResult (crowded.pipeline.decoder.decode (pixel 1 7)))).taking
        (pixel 3 9)).received [2, 3, 10]).reporting (pixel 3 9) (.error (.jpeg none)) |>.taking
          (pixel 4 10)).received [2, 2, 11]

theorem reachable_busy : Reachable busy := by
  have hcrowded : Reachable crowded :=
    (((Reachable.start _ _).step (.payload _ _ rfl rfl)).step
      (.take _ _ rfl (by decide +kernel))).step (.payload _ _ rfl rfl) |>.step
        (.payload _ _ rfl rfl)
  have hdelivered := hcrowded.decodes (pixel 1 7) (by decide +kernel)
  have hfailed := (((hdelivered.step (.take _ (pixel 3 9) rfl (by decide +kernel))).step
    (.payload _ [2, 3, 10] rfl rfl)).step
      (.decoded _ (pixel 3 9) (.error (.jpeg none)) (by decide +kernel) nofun))
  exact (hfailed.step (.take _ (pixel 4 10) rfl (by decide +kernel))).step (.payload _ _ rfl rfl)

/-- Every place has one picture in it. -/
theorem frames_accounted_busy :
    busy.pipeline.state = .streaming ∧
      busy.delivered = [1] ∧ busy.failed = [3] ∧ busy.evicted = [2] ∧
      [1, 3, 2, 4, 5].Perm (List.range' 1 5) := by
  have hrunning : busy.pipeline.state = .streaming := by decide +kernel
  obtain ⟨hplaces, -⟩ := frames_accounted reachable_busy hrunning
  have hdelivered : busy.delivered = [1] := by decide +kernel
  have hfailed : busy.failed = [3] := by decide +kernel
  have hevicted : busy.evicted = [2] := by decide +kernel
  have hdecoding : busy.decoding.toList.map (·.sequence) = [4] := by decide +kernel
  have hwaiting : busy.pipeline.queue.frames.map (·.sequence) = [5] := by decide +kernel
  have hcompleted : busy.pipeline.hub.stats.framesCompleted = 5 := by decide +kernel
  rw [hdelivered, hfailed, hevicted, hdecoding, hwaiting, hcompleted] at hplaces
  exact ⟨hrunning, hdelivered, hfailed, hevicted, hplaces⟩

end Session

end UsbVideo
