import UsbVideo.Proofs.Delivery.Ending

/-!
# The worker in parts

A session takes in what the worker reports at one go. The worker itself does one thing after the other,
and anybody else may come in between:

    take ┊ look ┬ success ┊ succeed
                └ failure ┊ fail ┊ few
                                 ┊ fall ┊ shut ┊ tell
                                 ┊ lost

When the decoder is back, the worker looks at the state of the stream once. If the stream runs, it goes on
to deliver the frame, or to tell and count the error, even if the stream has been ended by then. After the
last of too many errors it moves the state from streaming to faulted, unless somebody else has been faster.

A `Shift` is a session with a worker like this. With nobody in between it does what the session says
(`Shift.run_report`), so every session is that of a shift (`Shift.exists_wholes`).
-/

namespace UsbVideo

namespace Pipeline

/-! ### Parts of a report of the worker -/

/-- A frame is delivered. -/
def succeed (frame : DecodedFrame) (p : Pipeline) : List (Effect Call) × Pipeline :=
  ((p.hub.deliver frame).1, { p with hub := (p.hub.deliver frame).2, errors := 0 })

/-- A failed decode is counted and told. -/
def fail (sequence : Nat) (e : DecodeError) (p : Pipeline) : List (Effect Call) × Pipeline :=
  { p with errors := p.errors + 1 }.emit (.decodeError sequence e)

variable {p : Pipeline}

/-- A report consists of these parts. -/
theorem report_eq (sequence : Nat) (result : Except DecodeError DecodedFrame) :
    p.report sequence result =
      if p.state = .streaming then
        match result with
        | .ok frame => p.succeed frame
        | .error e =>
          let (first, p) := p.fail sequence e
          if p.maxErrors ≤ p.errors then
            let (last, p) := p.terminate (.fault (.decodeErrors p.errors))
            (first ++ last, p)
          else (first, p)
      else ([], p) := rfl

theorem report_few (streaming : p.state = .streaming) (sequence : Nat) (e : DecodeError)
    (few : p.errors + 1 < p.maxErrors) : p.report sequence (.error e) = p.fail sequence e := by
  rw [report_eq, if_pos streaming]
  exact if_neg (Nat.not_le.mpr few)

theorem report_many (streaming : p.state = .streaming) (sequence : Nat) (e : DecodeError)
    (many : p.maxErrors ≤ p.errors + 1) :
    (p.report sequence (.error e)).2 =
      ((p.fail sequence e).2.fall.2.shut.2.emit (.fault (.decodeErrors (p.errors + 1)))).2 := by
  have hterminate : (p.fail sequence e).2.terminate (.fault (.decodeErrors (p.errors + 1))) =
      (p.fail sequence e).2.fall.2.shut.2.emit (.fault (.decodeErrors (p.errors + 1))) :=
    ((p.fail sequence e).2.terminate_eq _).trans (if_pos streaming)
  rw [← hterminate, report_eq, if_pos streaming]
  show (if p.maxErrors ≤ p.errors + 1 then
      ((p.fail sequence e).1 ++ _, ((p.fail sequence e).2.terminate _).2)
    else p.fail sequence e).2 = _
  rw [if_pos many]

theorem deeds_report_many (streaming : p.state = .streaming) (sequence : Nat) (e : DecodeError)
    (many : p.maxErrors ≤ p.errors + 1) :
    p.deeds (·.report sequence (.error e)) =
      [.told (.event (.decodeError sequence e)), .faulted] ++
        (if p.queue.closed = false then [.shut] else []) ++
        [.told (.event (.fault (.decodeErrors (p.errors + 1))))] := by
  obtain ⟨hstate, hqueue, htold⟩ := report_last streaming sequence e many
  have hclosed : (p.report sequence (.error e)).2.queue.closed = true := by rw [hqueue]; rfl
  simp [deeds, htold, hstate, hclosed, streaming, Notice.isTerminal, StreamEvent.isTerminal]

theorem deeds_succeed (frame : DecodedFrame) : p.deeds (·.succeed frame) = [.told (.frame frame)] := by
  have htold : p.notices (·.succeed frame) = [.frame frame] := rfl
  rw [deeds_of_kept rfl rfl (by simp [htold, Notice.isTerminal]), htold]
  rfl

theorem deeds_fail (sequence : Nat) (e : DecodeError) :
    p.deeds (·.fail sequence e) = [.told (.event (.decodeError sequence e))] := by
  have htold : p.notices (·.fail sequence e) = [.event (.decodeError sequence e)] := rfl
  rw [deeds_of_kept rfl rfl (by simp [htold, Notice.isTerminal, StreamEvent.isTerminal]), htold]
  rfl

/-! Only the worker counts errors. -/

theorem errors_route (p : Pipeline) (outcome : Outcome) :
    (p.route outcome).2.errors = p.errors ∧ (p.route outcome).2.maxErrors = p.maxErrors := by
  cases outcome with
  | frame frame =>
    unfold route enqueue
    dsimp only [count]
    split <;> exact ⟨rfl, rfl⟩
  | _ => exact ⟨rfl, rfl⟩

theorem errors_routeAll (p : Pipeline) (outcomes : List Outcome) :
    (p.routeAll outcomes).2.errors = p.errors ∧
      (p.routeAll outcomes).2.maxErrors = p.maxErrors := by
  induction outcomes generalizing p with
  | nil => exact ⟨rfl, rfl⟩
  | cons outcome outcomes ih =>
    obtain ⟨herrors, hmax⟩ := p.errors_route outcome
    exact ⟨(ih _).1.trans herrors, (ih _).2.trans hmax⟩

theorem errors_payload (p : Pipeline) (bytes : Bytes) :
    (p.payload bytes).2.errors = p.errors ∧ (p.payload bytes).2.maxErrors = p.maxErrors := by
  unfold payload
  split
  · exact errors_routeAll _ _
  · exact ⟨rfl, rfl⟩

end Pipeline

namespace Session

/-- The deeds of a party. -/
def deedsOf (s : Session) (party : Party) : List Deed :=
  s.history.filterMap fun d => if d.1 = party then some d.2 else none

theorem deedsOf_doing (s : Session) (party : Party) (f : Pipeline → List (Effect Call) × Pipeline) :
    (s.doing party f).deedsOf party = s.deedsOf party ++ s.pipeline.deeds f := by
  simp [deedsOf, doing, List.filterMap_append, List.filterMap_map]

theorem deedsOf_doing_of_ne (s : Session) {party other : Party} (h : other ≠ party)
    (f : Pipeline → List (Effect Call) × Pipeline) :
    (s.doing other f).deedsOf party = s.deedsOf party := by
  simp [deedsOf, doing, List.filterMap_append, List.filterMap_map, h]

/-! ### Others -/

/-- What others do has nothing to do with the worker. -/
structure Aside (a b : Session) : Prop where
  decoding : b.decoding = a.decoding
  errors : b.pipeline.errors = a.pipeline.errors
  maxErrors : b.pipeline.maxErrors = a.pipeline.maxErrors
  deeds : b.deedsOf .worker = a.deedsOf .worker
  report : b.report .worker = none
  /-- A stream that has stopped does not run again. -/
  state : a.pipeline.state ≠ .streaming → b.pipeline.state ≠ .streaming

variable {a b : Session}

/-- Another party does something at one go, and goes on with its own affairs. -/
theorem Aside.of_doing {p : Party} {f : Pipeline → List (Effect Call) × Pipeline}
    (other : p ≠ .worker) (errors : (f a.pipeline).2.errors = a.pipeline.errors)
    (maxErrors : (f a.pipeline).2.maxErrors = a.pipeline.maxErrors)
    (pipeline : b.pipeline = (f a.pipeline).2) (history : b.history = (a.doing p f).history)
    (decoding : b.decoding = a.decoding) (report : b.report .worker = none)
    (state : a.pipeline.state ≠ .streaming → b.pipeline.state ≠ .streaming) : Aside a b where
  decoding
  errors := by rw [pipeline, errors]
  maxErrors := by rw [pipeline, maxErrors]
  deeds := by
    have hdeeds := a.deedsOf_doing_of_ne other f
    rwa [deedsOf, ← history] at hdeeds
  report
  state

/-- The worker takes frames and reports on them. Everything else is done by others. -/
theorem Step.aside (hs : Step a b) (same : b.decoding = a.decoding) (free : a.report .worker = none) :
    Aside a b := by
  have hstate (state : a.pipeline.state ≠ .streaming) : b.pipeline.state ≠ .streaming :=
    (hs.silent state).state
  have hkept {party : Party} (hne : party ≠ .worker) (report : Option Report) :
      Function.update a.report party report .worker = none := by
    rw [Function.update_of_ne hne.symm, free]
  have hreports {party : Party} {report : Report} (under : a.report party = some report) :
      party ≠ .worker := by
    rintro rfl
    exact nomatch free.symm.trans under
  cases hs with
  | payload bytes runs =>
    obtain ⟨herrors, hmax⟩ := a.pipeline.errors_payload bytes
    exact .of_doing (p := .transfers) (f := (·.payload bytes)) nofun herrors hmax rfl rfl rfl free
      hstate
  -- The worker's own steps change the frame it is busy with.
  | take frame none next => exact nomatch none.symm.trans same.symm
  | decoded frame result taken => exact nomatch taken.symm.trans same.symm
  | fall party event may =>
    have hne : party ≠ .worker := by
      rintro rfl
      exact may
    exact .of_doing (f := Pipeline.fall) hne rfl rfl rfl rfl rfl (hkept hne _) hstate
  | late party event => exact ⟨rfl, rfl, rfl, rfl, free, hstate⟩
  | shut party event fallen =>
    have hne := hreports fallen
    exact .of_doing (f := Pipeline.shut) hne rfl rfl rfl rfl rfl (hkept hne _) hstate
  | tell party event shut =>
    have hne := hreports shut
    exact .of_doing (f := (·.emit event)) hne rfl rfl rfl rfl rfl (hkept hne _) hstate
  | drained => exact ⟨rfl, rfl, rfl, rfl, free, hstate⟩
  | stop => exact .of_doing (p := .host) (f := Pipeline.stop) nofun rfl rfl rfl rfl rfl free hstate
  | discard =>
    exact .of_doing (p := .host) (f := Pipeline.discard) nofun rfl rfl rfl rfl rfl free hstate
  | finish =>
    exact .of_doing (p := .host) (f := Pipeline.finish) nofun rfl rfl rfl rfl rfl free hstate
  | listen frames events =>
    exact .of_doing (p := .host) (f := Pipeline.listen frames events) nofun rfl rfl rfl rfl rfl free
      hstate

end Session

/-! ### A shift of the worker -/

/-- What came back from the decoder, and whether the stream was running when the worker looked. -/
structure Arrival where
  frame : CompletedFrame
  outcome : Except DecodeFailure DecodedFrame
  streaming : Bool
  deriving DecidableEq

namespace Arrival

/-- A decoder that breaks down has refused the frame. -/
def result (a : Arrival) : Except DecodeError DecodedFrame := Pipeline.decodeResult a.outcome

def failed (a : Arrival) : Bool :=
  match a.result with
  | .ok _ => false
  | .error _ => true

/-- What listeners are told of it. -/
def notice (a : Arrival) : Notice :=
  match a.result with
  | .ok frame => .frame frame
  | .error e => .event (.decodeError a.frame.sequence e)

end Arrival

/-- How far the worker is with what it reports. -/
inductive Turn where
  /-- It waits for a frame, or for the decoder. -/
  | idle
  | success (frame : DecodedFrame)
  | failure (sequence : Nat) (error : DecodeError)
  /-- The error is told and counted. -/
  | counted
  /-- The state is moved. -/
  | fallen
  /-- The queue is closed. -/
  | shut
  deriving DecidableEq

/-- How the worker goes on once it has seen the stream running. -/
def Arrival.turn (a : Arrival) : Turn :=
  match a.result with
  | .ok frame => .success frame
  | .error e => .failure a.frame.sequence e

/-- A session and its worker. -/
@[ext]
structure Shift where
  session : Session
  turn : Turn := .idle
  /-- The frames the worker took, in the order of the queue. -/
  taken : List CompletedFrame := []
  /-- What came of them. -/
  arrivals : List Arrival := []
  /-- How the stream stood when the worker was to end it. -/
  found : Option StreamState := none

namespace Shift

def start (c : Controller) (config : StreamConfig) : Shift where
  session := .start c config

def pipeline (w : Shift) : Pipeline := w.session.pipeline

/-- The worker does one thing. -/
def act (w : Shift) (f : Pipeline → List (Effect Call) × Pipeline) (turn : Turn) : Shift :=
  { w with session := w.session.doing .worker f, turn }

/-- The worker is done with its frame. -/
def done (w : Shift) : Shift :=
  { w with session := { w.session with decoding := none }, turn := .idle }

/-- The worker takes the oldest frame. -/
def take (w : Shift) (frame : CompletedFrame) : Shift :=
  { w with session := w.session.taking frame, taken := w.taken ++ [frame] }

/-- The decoder is back, and the worker looks at the stream. -/
def look (w : Shift) (frame : CompletedFrame) (outcome : Except DecodeFailure DecodedFrame) : Shift :=
  let arrival : Arrival := ⟨frame, outcome, w.pipeline.state = .streaming⟩
  let seen : Shift := { w with arrivals := w.arrivals ++ [arrival] }
  if w.pipeline.state = .streaming then { seen with turn := arrival.turn } else seen.done

/-- One thing happens. -/
inductive Step : Shift → Shift → Prop where
  /-- Somebody else does something. -/
  | other (w : Shift) (s : Session) (step : Session.Step w.session s)
      (same : s.decoding = w.session.decoding) : Step w { w with session := s }
  | take (w : Shift) (frame : CompletedFrame) (idle : w.turn = .idle)
      (free : w.session.decoding = none) (next : w.pipeline.queue.tryPop.1 = some frame) :
      Step w (w.take frame)
  /-- Whatever came of the frame. -/
  | look (w : Shift) (frame : CompletedFrame) (outcome : Except DecodeFailure DecodedFrame)
      (idle : w.turn = .idle) (taken : w.session.decoding = some frame) :
      Step w (w.look frame outcome)
  | succeed (w : Shift) (frame : DecodedFrame) (turn : w.turn = .success frame) :
      Step w (w.act (·.succeed frame) .idle).done
  | fail (w : Shift) (sequence : Nat) (e : DecodeError) (turn : w.turn = .failure sequence e) :
      Step w (w.act (·.fail sequence e) .counted)
  /-- The stream goes on. -/
  | few (w : Shift) (turn : w.turn = .counted) (few : w.pipeline.errors < w.pipeline.maxErrors) :
      Step w w.done
  /-- The worker ends the stream. -/
  | fall (w : Shift) (turn : w.turn = .counted) (many : w.pipeline.maxErrors ≤ w.pipeline.errors)
      (streaming : w.pipeline.state = .streaming) :
      Step w { w.act Pipeline.fall .fallen with found := some .streaming }
  /-- Somebody else has been faster. -/
  | lost (w : Shift) (turn : w.turn = .counted) (many : w.pipeline.maxErrors ≤ w.pipeline.errors)
      (other : w.pipeline.state ≠ .streaming) :
      Step w { w.done with found := some w.pipeline.state }
  | shut (w : Shift) (turn : w.turn = .fallen) : Step w (w.act Pipeline.shut .shut)
  | tell (w : Shift) (turn : w.turn = .shut) :
      Step w (w.act (·.emit (.fault (.decodeErrors w.pipeline.errors))) .idle).done

/-- One thing after the other. -/
def Run : Shift → Shift → Prop := Relation.ReflTransGen Step

/-! ### Nobody in between -/

section Alone

variable {w : Shift}

theorem idle_of_shut (turn : w.turn = .shut) : ∃ w', Run w w' ∧ w'.turn = .idle :=
  ⟨_, .single (.tell w turn), rfl⟩

theorem idle_of_fallen (turn : w.turn = .fallen) : ∃ w', Run w w' ∧ w'.turn = .idle := by
  obtain ⟨w', hrun, hidle⟩ := idle_of_shut (w := w.act Pipeline.shut .shut) rfl
  exact ⟨w', .head (.shut w turn) hrun, hidle⟩

theorem idle_of_counted (turn : w.turn = .counted) : ∃ w', Run w w' ∧ w'.turn = .idle := by
  rcases Nat.lt_or_ge w.pipeline.errors w.pipeline.maxErrors with hfew | hmany
  · exact ⟨_, .single (.few w turn hfew), rfl⟩
  by_cases hstreaming : w.pipeline.state = .streaming
  · obtain ⟨w', hrun, hidle⟩ :=
      idle_of_fallen (w := { w.act Pipeline.fall .fallen with found := some .streaming }) rfl
    exact ⟨w', .head (.fall w turn hmany hstreaming) hrun, hidle⟩
  · exact ⟨_, .single (.lost w turn hmany hstreaming), rfl⟩

/-- Whatever the others have done, the worker gets on with its report by itself. -/
theorem exists_idle (w : Shift) : ∃ w', Run w w' ∧ w'.turn = .idle := by
  cases turn : w.turn with
  | idle => exact ⟨w, .refl, turn⟩
  | success frame => exact ⟨_, .single (.succeed w frame turn), rfl⟩
  | failure sequence e =>
    obtain ⟨w', hrun, hidle⟩ := idle_of_counted (w := w.act (·.fail sequence e) .counted) rfl
    exact ⟨w', .head (.fail w sequence e turn) hrun, hidle⟩
  | counted => exact idle_of_counted turn
  | fallen => exact idle_of_fallen turn
  | shut => exact idle_of_shut turn

end Alone

/-- What is the same thing with and without listeners is the same deed. -/
theorem doing_congr (s : Session) (party : Party) {f g : Pipeline → List (Effect Call) × Pipeline}
    (h : f s.pipeline = g s.pipeline) (attended : f s.pipeline.attended = g s.pipeline.attended) :
    s.doing party f = s.doing party g := by
  rw [Session.doing, Session.doing, Pipeline.deeds, Pipeline.deeds, Pipeline.notices,
    Pipeline.notices, h, attended]

section Report

variable (s : Session)

theorem doing_report_ok (streaming : s.pipeline.state = .streaming) (sequence : Nat)
    (frame : DecodedFrame) :
    s.doing .worker (·.report sequence (.ok frame)) = s.doing .worker (·.succeed frame) :=
  doing_congr s .worker (if_pos streaming) (if_pos streaming)

theorem doing_report_few (streaming : s.pipeline.state = .streaming) (sequence : Nat)
    (e : DecodeError) (few : s.pipeline.errors + 1 < s.pipeline.maxErrors) :
    s.doing .worker (·.report sequence (.error e)) = s.doing .worker (·.fail sequence e) :=
  doing_congr s .worker (Pipeline.report_few streaming sequence e few)
    (Pipeline.report_few (p := s.pipeline.attended) streaming sequence e few)

theorem doing_report_many (streaming : s.pipeline.state = .streaming) (sequence : Nat)
    (e : DecodeError) (many : s.pipeline.maxErrors ≤ s.pipeline.errors + 1) :
    s.doing .worker (·.report sequence (.error e)) =
      (((s.doing .worker (·.fail sequence e)).doing .worker Pipeline.fall).doing .worker
        Pipeline.shut).doing .worker
          (·.emit (.fault (.decodeErrors (s.pipeline.errors + 1)))) := by
  have hfall : (s.pipeline.fail sequence e).2.deeds Pipeline.fall = [.faulted] :=
    Pipeline.deeds_fall streaming
  have hshut : (s.pipeline.fail sequence e).2.fall.2.deeds Pipeline.shut =
      if s.pipeline.queue.closed = false then [.shut] else [] := Pipeline.deeds_shut
  have hterminal : (StreamEvent.fault (.decodeErrors (s.pipeline.errors + 1))).isTerminal = true := rfl
  rw [Session.doing, Pipeline.report_many streaming sequence e many,
    Pipeline.deeds_report_many streaming sequence e many]
  simp only [Session.doing, Pipeline.deeds_fail, hfall, hshut, Pipeline.deeds_emit hterminal]
  simp

theorem doing_report_other (other : s.pipeline.state ≠ .streaming) (sequence : Nat)
    (result : Except DecodeError DecodedFrame) :
    s.doing .worker (·.report sequence result) = s := by
  have hnone := Pipeline.report_of_other other sequence result
  have hdeeds := Pipeline.deeds_of_idle (f := (·.report sequence result)) hnone
    (by rw [Pipeline.report_of_other (by simpa using other)])
  rw [Session.doing, hdeeds, hnone]
  simp

end Report

/-! ### A report at one go -/

/-- The worker reports without interruption. It has found the stream running if it moves the state. -/
def report (w : Shift) (frame : CompletedFrame) (outcome : Except DecodeFailure DecodedFrame) : Shift :=
  let arrival : Arrival := ⟨frame, outcome, w.pipeline.state = .streaming⟩
  let reported := w.pipeline.report frame.sequence arrival.result
  { w with
    session := w.session.reporting frame arrival.result
    arrivals := w.arrivals ++ [arrival]
    found := if reported.2.state = w.pipeline.state then w.found else some .streaming }

/-- The worker ends the stream. -/
def ended (w : Shift) : Shift :=
  let w := { w.act Pipeline.fall .fallen with found := some .streaming }.act Pipeline.shut .shut
  (w.act (·.emit (.fault (.decodeErrors w.pipeline.errors))) .idle).done

section

variable {w w' : Shift} {frame : CompletedFrame} {outcome : Except DecodeFailure DecodedFrame}

theorem look_of_streaming (streaming : w.pipeline.state = .streaming) :
    w.look frame outcome =
      { w with
        arrivals := w.arrivals ++ [⟨frame, outcome, true⟩]
        turn := Arrival.turn ⟨frame, outcome, true⟩ } := by
  rw [look, if_pos streaming, decide_eq_true streaming]

theorem look_of_other (other : w.pipeline.state ≠ .streaming) :
    w.look frame outcome =
      { w with arrivals := w.arrivals ++ [⟨frame, outcome, false⟩] : Shift }.done := by
  rw [look, if_neg other, decide_eq_false other]

section Streaming

variable (idle : w.turn = .idle) (streaming : w.pipeline.state = .streaming)

include idle streaming

/-- Whoever does this after a look has made the whole report. -/
theorem report_eq_of (turn : w'.turn = .idle) (taken : w'.taken = w.taken)
    (arrivals : w'.arrivals = (w.look frame outcome).arrivals)
    (session : w.session.reporting frame (Pipeline.decodeResult outcome) = w'.session)
    (found : (if (w.pipeline.report frame.sequence (Pipeline.decodeResult outcome)).2.state = .streaming
      then w.found else some .streaming) = w'.found) : w.report frame outcome = w' := by
  rw [look_of_streaming streaming] at arrivals
  have harrivals : (w.report frame outcome).arrivals = w'.arrivals := by
    rw [arrivals, report, decide_eq_true streaming]
  have hfound : (w.report frame outcome).found = w'.found := by
    rw [← found, report, streaming]
    rfl
  exact Shift.ext session (idle.trans turn.symm) taken.symm harrivals hfound

theorem report_ok {decoded : DecodedFrame} (result : Pipeline.decodeResult outcome = .ok decoded) :
    w.report frame outcome = ((w.look frame outcome).act (·.succeed decoded) .idle).done := by
  refine report_eq_of idle streaming rfl ?_ rfl ?_ ?_
  all_goals rw [look_of_streaming streaming]
  · rfl
  · rw [result, Session.reporting, doing_report_ok _ streaming]
    rfl
  · rw [result, Pipeline.report_eq, if_pos streaming]
    exact if_pos streaming

theorem report_few {e : DecodeError} (result : Pipeline.decodeResult outcome = .error e)
    (few : w.pipeline.errors + 1 < w.pipeline.maxErrors) :
    w.report frame outcome =
      ((w.look frame outcome).act (·.fail frame.sequence e) .counted).done := by
  refine report_eq_of idle streaming rfl ?_ rfl ?_ ?_
  all_goals rw [look_of_streaming streaming]
  · rfl
  · rw [result, Session.reporting, doing_report_few _ streaming _ _ few]
    rfl
  · rw [result, Pipeline.report_few streaming _ _ few]
    exact if_pos streaming

theorem report_many {e : DecodeError} (result : Pipeline.decodeResult outcome = .error e)
    (many : w.pipeline.maxErrors ≤ w.pipeline.errors + 1) :
    w.report frame outcome =
      ((w.look frame outcome).act (·.fail frame.sequence e) .counted).ended := by
  refine report_eq_of idle streaming rfl ?_ rfl ?_ ?_
  all_goals rw [look_of_streaming streaming]
  · rfl
  · rw [result, Session.reporting, doing_report_many _ streaming _ _ many]
    rfl
  · rw [result, (Pipeline.report_last streaming _ e many).1]
    rfl

end Streaming

theorem report_other (idle : w.turn = .idle) (other : w.pipeline.state ≠ .streaming) :
    w.report frame outcome = w.look frame outcome := by
  have hreport := Pipeline.report_of_other other frame.sequence (Pipeline.decodeResult outcome)
  rw [look_of_other other]
  refine Shift.ext ?_ idle rfl ?_ ?_
  · show w.session.reporting frame (Pipeline.decodeResult outcome) = _
    rw [Session.reporting, doing_report_other _ other]
    rfl
  · rw [report, decide_eq_false other]
    rfl
  · show (if (w.pipeline.report _ (Pipeline.decodeResult outcome)).2.state = _ then _ else _) = _
    rw [hreport]
    exact if_pos rfl

/-- The parts of a report come to the whole of it. -/
theorem run_report (idle : w.turn = .idle) (taken : w.session.decoding = some frame) :
    Run w (w.report frame outcome) := by
  have hlook : Step w (w.look frame outcome) := .look w frame outcome idle taken
  by_cases hstreaming : w.pipeline.state = .streaming
  · have hsame : (w.look frame outcome).pipeline = w.pipeline := by
      rw [look_of_streaming hstreaming]
      rfl
    have hturn : (w.look frame outcome).turn = Arrival.turn ⟨frame, outcome, true⟩ := by
      rw [look_of_streaming hstreaming]
    cases hresult : Pipeline.decodeResult outcome with
    | ok decoded =>
      rw [Arrival.turn, Arrival.result, hresult] at hturn
      rw [report_ok idle hstreaming hresult]
      exact .head hlook (.single (.succeed _ decoded hturn))
    | error e =>
      rw [Arrival.turn, Arrival.result, hresult] at hturn
      have hfail := Step.fail _ frame.sequence e hturn
      rcases Nat.lt_or_ge (w.pipeline.errors + 1) w.pipeline.maxErrors with hfew | hmany
      · rw [report_few idle hstreaming hresult hfew]
        rw [← hsame] at hfew
        exact .head hlook (.head hfail (.single (.few _ rfl hfew)))
      · rw [report_many idle hstreaming hresult hmany]
        rw [← hsame] at hmany hstreaming
        have hfall := Step.fall ((w.look frame outcome).act (·.fail frame.sequence e) .counted) rfl
          hmany hstreaming
        exact .head hlook (.head hfail (.head hfall (.head (.shut _ rfl) (.single (.tell _ rfl)))))
  · rw [report_other idle hstreaming]
    exact .single hlook

end

/-- One thing happens, and a report is one thing. -/
inductive Whole : Shift → Shift → Prop where
  | other (w : Shift) (s : Session) (step : Session.Step w.session s)
      (same : s.decoding = w.session.decoding) : Whole w { w with session := s }
  | take (w : Shift) (frame : CompletedFrame) (free : w.session.decoding = none)
      (next : w.pipeline.queue.tryPop.1 = some frame) : Whole w (w.take frame)
  | report (w : Shift) (frame : CompletedFrame) (outcome : Except DecodeFailure DecodedFrame)
      (taken : w.session.decoding = some frame) : Whole w (w.report frame outcome)

variable {w w' : Shift}

theorem Whole.run (h : Whole w w') (idle : w.turn = .idle) : Run w w' ∧ w'.turn = .idle := by
  cases h with
  | other s step same => exact ⟨.single (.other w s step same), idle⟩
  | take frame free next => exact ⟨.single (.take w frame idle free next), idle⟩
  | report frame outcome taken => exact ⟨run_report idle taken, idle⟩

theorem Whole.runs (h : Relation.ReflTransGen Whole w w') (idle : w.turn = .idle) :
    Run w w' ∧ w'.turn = .idle := by
  induction h with
  | refl => exact ⟨.refl, idle⟩
  | tail _ hs ih =>
    obtain ⟨hrun, hidle⟩ := hs.run ih.2
    exact ⟨ih.1.trans hrun, hidle⟩

/-- Whatever happens next in a session happens next in a shift. -/
theorem exists_whole {s : Session} (hs : Session.Step w.session s) :
    ∃ w', Whole w w' ∧ w'.session = s := by
  by_cases hsame : s.decoding = w.session.decoding
  · exact ⟨_, .other w s hs hsame, rfl⟩
  cases hs with
  | take frame free next => exact ⟨_, .take w frame free next, rfl⟩
  | decoded frame result taken =>
    obtain ⟨outcome, houtcome⟩ : ∃ outcome, Pipeline.decodeResult outcome = result := by
      cases result with
      | ok decoded => exact ⟨.ok decoded, rfl⟩
      | error e => exact ⟨.error (.error e), rfl⟩
    exact ⟨_, .report w frame outcome taken, congrArg (w.session.reporting frame) houtcome⟩
  | _ => exact absurd rfl hsame

/-- Every session is that of a shift. -/
theorem exists_wholes {s : Session} (h : Session.Run w.session s) :
    ∃ w', Relation.ReflTransGen Whole w w' ∧ w'.session = s := by
  induction h with
  | refl => exact ⟨w, .refl, rfl⟩
  | tail _ hs ih =>
    obtain ⟨w', hwhole, rfl⟩ := ih
    obtain ⟨w'', hnext, hsession⟩ := exists_whole hs
    exact ⟨w'', hwhole.tail hnext, hsession⟩

end Shift

end UsbVideo
