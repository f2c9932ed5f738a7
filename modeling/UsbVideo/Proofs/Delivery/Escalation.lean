import Mathlib.Data.List.TakeWhile
import UsbVideo.Proofs.Delivery.Shift

/-!
# Too many errors in a row

The worker counts failed decodes in a row. What it does in a shift is one notice for each outcome that
counts, in the order of the frames, and perhaps the end of the stream:

    told │ told │ … │ told │ faulted │ told (fault)

An outcome counts if the stream was running when the worker looked. As soon as the limit is reached the
worker is to end the stream; it does so unless somebody else has been faster (`Shift.found`). Either way
the stream does not run any more, and nothing counts from then on.

`Shift.Stage` tells how far the worker is and that its books are in order; every step carries it on.
-/

namespace UsbVideo

/-! ### Failures in a row -/

/-- The number of failures at the end. -/
def failures (arrivals : List Arrival) : Nat := (arrivals.reverse.takeWhile (·.failed)).length

theorem failures_concat (arrivals : List Arrival) (a : Arrival) :
    failures (arrivals ++ [a]) = if a.failed then failures arrivals + 1 else 0 := by
  rw [failures, List.reverse_append, List.reverse_singleton, List.singleton_append,
    List.takeWhile_cons, failures]
  split <;> rfl

/-- So many failures stand at the end. -/
theorem le_failures_iff {arrivals : List Arrival} {n : Nat} :
    n ≤ failures arrivals ↔
      ∃ front run, arrivals = front ++ run ∧ run.length = n ∧ ∀ a ∈ run, a.failed = true := by
  constructor
  · intro h
    have hsplit : arrivals.reverse = (arrivals.reverse.takeWhile (·.failed)).take n ++
        arrivals.reverse.drop n := by
      have hprefix := List.takeWhile_prefix (l := arrivals.reverse) (·.failed)
      rw [failures] at h
      rw [List.prefix_iff_eq_take.mp hprefix, List.take_take, Nat.min_eq_left h,
        List.take_append_drop]
    refine ⟨(arrivals.reverse.drop n).reverse,
      ((arrivals.reverse.takeWhile (·.failed)).take n).reverse, ?_, ?_, fun a ha => ?_⟩
    · rw [← List.reverse_append, ← hsplit, List.reverse_reverse]
    · rw [List.length_reverse, List.length_take_of_le h]
    · exact List.mem_takeWhile_imp (List.mem_of_mem_take (List.mem_reverse.mp ha))
  · rintro ⟨front, run, rfl, rfl, hfailed⟩
    rw [failures, List.reverse_append,
      List.takeWhile_append_of_pos fun a ha => hfailed a (List.mem_reverse.mp ha),
      List.length_append, List.length_reverse]
    exact Nat.le_add_right ..

namespace Shift

/-! ### Books -/

/-- The outcomes that count. -/
def counted (w : Shift) : List Arrival := w.arrivals.filter (·.streaming)

/-- What the worker has done. It may find the queue closed, so that does not matter. -/
def work (w : Shift) : List Deed := (w.session.deedsOf .worker).filter (· ≠ .shut)

/-- The end of the stream. -/
def ending (limit : Nat) : List Deed :=
  [.faulted, .told (.event (.fault (.decodeErrors limit)))]

/-- So much has been reported, and this has been done besides. -/
structure Books (w : Shift) (reported : List Arrival) (besides : List Deed) : Prop where
  work : w.work = reported.map (fun a => .told a.notice) ++ besides
  errors : w.pipeline.errors = failures reported
  taken : w.taken = w.arrivals.map (·.frame) ++
    if w.turn = .idle then w.session.decoding.toList else []

/-- How far the worker is, by its turn. -/
inductive Stage (limit : Nat) (w : Shift) : Turn → Prop where
  | running (found : w.found = none) (few : failures w.counted < limit)
      (books : w.Books w.counted []) : Stage limit w .idle
  /-- The last outcome is not reported yet. -/
  | success (before : List Arrival) (a : Arrival) (frame : DecodedFrame) (result : a.result = .ok frame)
      (found : w.found = none) (counted : w.counted = before ++ [a]) (few : failures before < limit)
      (books : w.Books before []) : Stage limit w (.success frame)
  | failure (before : List Arrival) (a : Arrival) (e : DecodeError) (result : a.result = .error e)
      (found : w.found = none) (counted : w.counted = before ++ [a]) (few : failures before < limit)
      (books : w.Books before []) : Stage limit w (.failure a.frame.sequence e)
  /-- It may have been one too many. -/
  | counted (found : w.found = none) (some : 0 < failures w.counted)
      (bound : failures w.counted ≤ limit) (books : w.Books w.counted []) : Stage limit w .counted
  | fallen (found : w.found = some .streaming) (full : failures w.counted = limit)
      (books : w.Books w.counted [.faulted]) : Stage limit w .fallen
  | shut (found : w.found = some .streaming) (full : failures w.counted = limit)
      (books : w.Books w.counted [.faulted]) : Stage limit w .shut
  | ended (found : w.found = some .streaming) (full : failures w.counted = limit)
      (books : w.Books w.counted (ending limit)) : Stage limit w .idle
  | lost (state : StreamState) (found : w.found = some state) (other : state ≠ .streaming)
      (full : failures w.counted = limit) (books : w.Books w.counted []) : Stage limit w .idle

/-- What holds however far the worker is, if so many errors are allowed. -/
structure Orderly (maxErrors limit : Nat) (w : Shift) : Prop where
  maxErrors : w.pipeline.maxErrors = maxErrors
  report : w.session.report .worker = none
  /-- Behind an outcome that does not count none does. -/
  order : w.arrivals.Pairwise fun a b => b.streaming → a.streaming
  arrivals : w.pipeline.state = .streaming → ∀ a ∈ w.arrivals, a.streaming = true
  found : w.pipeline.state = .streaming → w.found = none
  /-- The limit is reached by the last outcome that counts, if at all. -/
  few : ∀ front back, w.counted = front ++ back → back ≠ [] → failures front < limit

variable {w w' : Shift} {maxErrors limit : Nat} {reported : List Arrival} {besides : List Deed}

/-! What does not touch the books. -/

/-- Whoever keeps the deeds and the errors of the worker, and goes on with its frames, keeps its books. -/
theorem Books.same (h : w.Books reported besides) (work : w'.work = w.work)
    (errors : w'.pipeline.errors = w.pipeline.errors)
    (taken : w'.taken = w'.arrivals.map (·.frame) ++
      if w'.turn = .idle then w'.session.decoding.toList else []) : w'.Books reported besides :=
  ⟨work.trans h.work, errors.trans h.errors, taken⟩

/-- One more deed. -/
theorem work_act (f : Pipeline → List (Effect Call) × Pipeline) (turn : Turn) :
    (w.act f turn).work = w.work ++ (w.pipeline.deeds f).filter (· ≠ .shut) := by
  rw [work, act, Session.deedsOf_doing, List.filter_append, work]
  rfl

theorem Stage.same {turn : Turn} (h : w.Stage limit turn) (found : w'.found = w.found)
    (counted : w'.counted = w.counted)
    (books : ∀ reported besides, w.Books reported besides → w'.Books reported besides) :
    w'.Stage limit turn := by
  cases h with
  | running found' few books' =>
    exact .running (found.trans found') (counted ▸ few) (counted ▸ books _ _ books')
  | success before a frame result found' counted' few books' =>
    exact .success before a frame result (found.trans found') (counted.trans counted') few
      (books _ _ books')
  | failure before a e result found' counted' few books' =>
    exact .failure before a e result (found.trans found') (counted.trans counted') few
      (books _ _ books')
  | counted found' some bound books' =>
    exact .counted (found.trans found') (counted ▸ some) (counted ▸ bound)
      (counted ▸ books _ _ books')
  | fallen found' full books' =>
    exact .fallen (found.trans found') (counted ▸ full) (counted ▸ books _ _ books')
  | shut found' full books' =>
    exact .shut (found.trans found') (counted ▸ full) (counted ▸ books _ _ books')
  | ended found' full books' =>
    exact .ended (found.trans found') (counted ▸ full) (counted ▸ books _ _ books')
  | lost state found' other full books' =>
    exact .lost state (found.trans found') other (counted ▸ full) (counted ▸ books _ _ books')

/-- Others do not touch the books. -/
theorem Stage.other {turn : Turn} (h : w.Stage limit turn) {s : Session}
    (aside : Session.Aside w.session s) : Stage limit { w with session := s } turn := by
  refine h.same rfl rfl fun reported besides books => books.same ?_ aside.errors ?_
  · exact congrArg (·.filter (· ≠ .shut)) aside.deeds
  · rw [aside.decoding]
    exact books.taken

theorem Stage.take (h : w.Stage limit .idle) (idle : w.turn = .idle)
    (free : w.session.decoding = none) (frame : CompletedFrame) : (w.take frame).Stage limit .idle := by
  have hwork : (w.take frame).work = w.work := by
    have hdeeds := w.session.deedsOf_doing .worker Pipeline.take
    rw [Pipeline.deeds_take, List.append_nil] at hdeeds
    exact congrArg (·.filter (· ≠ .shut)) hdeeds
  refine h.same rfl rfl fun reported besides books => books.same hwork rfl ?_
  have htaken := books.taken
  rw [if_pos idle, free, Option.toList_none, List.append_nil] at htaken
  rw [if_pos (show (w.take frame).turn = .idle from idle)]
  exact congrArg (· ++ [frame]) htaken

/-! ### The worker looks -/

section Look

variable {frame : CompletedFrame} {outcome : Except DecodeFailure DecodedFrame}

theorem turn_ne_idle (a : Arrival) : a.turn ≠ .idle := by
  rw [Arrival.turn]
  split <;> simp

/-- An idle worker that has not found the stream ended is running. -/
theorem Stage.of_idle (h : w.Stage limit .idle) (found : w.found = none) :
    failures w.counted < limit ∧ w.Books w.counted [] := by
  cases h with
  | running _ few books => exact ⟨few, books⟩
  | ended found' => exact nomatch found.symm.trans found'
  | lost _ found' => exact nomatch found.symm.trans found'

theorem Books.taken_of_idle (h : w.Books reported besides) (idle : w.turn = .idle)
    (taken : w.session.decoding = some frame) : w.taken = w.arrivals.map (·.frame) ++ [frame] := by
  have htaken := h.taken
  rwa [if_pos idle, taken] at htaken

theorem Stage.look (h : w.Stage limit .idle) (found : w.pipeline.state = .streaming → w.found = none)
    (idle : w.turn = .idle) (taken : w.session.decoding = some frame) :
    (w.look frame outcome).Stage limit (w.look frame outcome).turn := by
  by_cases hstreaming : w.pipeline.state = .streaming
  · -- Nobody has ended the stream, so the worker has not come to the limit yet.
    obtain ⟨few, books⟩ := h.of_idle (found hstreaming)
    rw [look_of_streaming hstreaming]
    let arrival : Arrival := ⟨frame, outcome, true⟩
    let seen : Shift := { w with arrivals := w.arrivals ++ [arrival], turn := arrival.turn }
    have hcounted : seen.counted = w.counted ++ [arrival] := by
      simp [seen, arrival, Shift.counted, List.filter_append]
    have hbooks : seen.Books w.counted [] := by
      refine books.same rfl rfl ?_
      rw [if_neg (turn_ne_idle arrival), List.map_append, List.append_nil]
      exact books.taken_of_idle idle taken
    show seen.Stage limit arrival.turn
    cases hresult : arrival.result with
    | ok decoded =>
      rw [show arrival.turn = .success decoded by rw [Arrival.turn, hresult]]
      exact .success _ arrival decoded hresult (found hstreaming) hcounted few hbooks
    | error e =>
      rw [show arrival.turn = .failure frame.sequence e by rw [Arrival.turn, hresult]]
      exact .failure _ arrival e hresult (found hstreaming) hcounted few hbooks
  · -- The outcome is dropped: it is one more arrival, but it does not count.
    rw [look_of_other hstreaming]
    refine h.same rfl ?_ fun reported besides books => books.same rfl rfl ?_
    · simp [Shift.counted, done, List.filter_append]
    · have htaken := books.taken_of_idle idle taken
      simpa [done] using htaken

end Look

/-! ### The worker reports -/

theorem Books.taken_of_busy (h : w.Books reported besides) (busy : w.turn ≠ .idle) :
    w.taken = w.arrivals.map (·.frame) := by
  have htaken := h.taken
  rwa [if_neg busy, List.append_nil] at htaken

/-- A worker that reports adds these deeds, and is done with its frame or goes on. -/
theorem Books.step (h : w.Books reported besides) (busy : w.turn ≠ .idle)
    {more : List Arrival} {besides' later : List Deed} (taken : w'.taken = w.taken)
    (arrivals : w'.arrivals = w.arrivals) (free : w'.turn = .idle → w'.session.decoding = none)
    (errors : w'.pipeline.errors = failures (reported ++ more)) (work : w'.work = w.work ++ later)
    (same : besides ++ later = more.map (fun a => .told a.notice) ++ besides') :
    w'.Books (reported ++ more) besides' := by
  refine ⟨?_, errors, ?_⟩
  · rw [work, h.work, List.append_assoc, same, List.map_append, List.append_assoc]
  · rw [taken, arrivals, h.taken_of_busy busy]
    split
    · next hidle => rw [free hidle, Option.toList_none, List.append_nil]
    · rw [List.append_nil]

/-- One that reports no outcome does something besides. -/
theorem Books.also (h : w.Books reported besides) (busy : w.turn ≠ .idle) {later : List Deed}
    (taken : w'.taken = w.taken) (arrivals : w'.arrivals = w.arrivals)
    (free : w'.turn = .idle → w'.session.decoding = none)
    (errors : w'.pipeline.errors = w.pipeline.errors) (work : w'.work = w.work ++ later) :
    w'.Books reported (besides ++ later) := by
  have hreported : reported ++ [] = reported := List.append_nil _
  have hbooks : w'.Books (reported ++ []) (besides ++ later) :=
    h.step busy taken arrivals free (by rw [errors, h.errors, hreported]) work rfl
  rwa [hreported] at hbooks

theorem Stage.succeed {frame : DecodedFrame} (h : w.Stage limit (.success frame))
    (turn : w.turn = .success frame) (positive : 0 < limit) :
    (w.act (·.succeed frame) .idle).done.Stage limit .idle := by
  cases h with
  | success before a _ result found counted few books =>
    have hfailed : a.failed = false := by rw [Arrival.failed, result]
    have hzero : failures (before ++ [a]) = 0 := by
      rw [failures_concat, hfailed]
      rfl
    have hwork : (w.act (·.succeed frame) .idle).done.work = w.work ++ [.told (.frame frame)] := by
      refine (w.work_act _ .idle).trans ?_
      rw [Pipeline.deeds_succeed]
      rfl
    have hbooks : (w.act (·.succeed frame) .idle).done.Books (before ++ [a]) [] :=
      books.step (by rw [turn]; exact nofun) rfl rfl (fun _ => rfl) hzero.symm hwork
        (by simp [Arrival.notice, result])
    have hcounted : (w.act (·.succeed frame) .idle).done.counted = before ++ [a] := counted
    exact .running found (by rw [hcounted, hzero]; exact positive) (hcounted ▸ hbooks)

theorem Stage.fail {sequence : Nat} {e : DecodeError} (h : w.Stage limit (.failure sequence e))
    (turn : w.turn = .failure sequence e) :
    (w.act (·.fail sequence e) .counted).Stage limit .counted := by
  cases h with
  | failure before a _ result found counted few books =>
    have hfailed : a.failed = true := by rw [Arrival.failed, result]
    have hmore : failures (before ++ [a]) = failures before + 1 := by
      rw [failures_concat, hfailed]
      rfl
    have hwork : (w.act (·.fail a.frame.sequence e) .counted).work =
        w.work ++ [.told (.event (.decodeError a.frame.sequence e))] := by
      rw [work_act, Pipeline.deeds_fail]
      rfl
    have hbooks : (w.act (·.fail a.frame.sequence e) .counted).Books (before ++ [a]) [] :=
      books.step (by rw [turn]; exact nofun) rfl rfl nofun
        ((congrArg (· + 1) books.errors).trans hmore.symm) hwork (by simp [Arrival.notice, result])
    have hcounted : (w.act (·.fail a.frame.sequence e) .counted).counted = before ++ [a] := counted
    exact .counted found (by rw [hcounted, hmore]; exact Nat.succ_pos _)
      (by rw [hcounted, hmore]; exact few) (hcounted ▸ hbooks)

/-- Nothing more is done for the frame. -/
theorem Books.done (h : w.Books reported besides) (busy : w.turn ≠ .idle) :
    w.done.Books reported besides :=
  h.same rfl rfl ((h.taken_of_busy busy).trans (List.append_nil _).symm)

theorem Stage.few (h : w.Stage limit .counted) (turn : w.turn = .counted)
    (few : w.pipeline.errors < limit) : w.done.Stage limit .idle := by
  cases h with
  | counted found _ _ books =>
    exact .running found (books.errors ▸ few) (books.done (by rw [turn]; exact nofun))

/-- The limit is reached, and no more than that. -/
theorem Stage.full (h : w.Stage (max maxErrors 1) .counted) (many : maxErrors ≤ w.pipeline.errors) :
    failures w.counted = max maxErrors 1 ∧ w.Books w.counted [] := by
  cases h with
  | counted _ some bound books =>
    rw [books.errors] at many
    exact ⟨by omega, books⟩

theorem Stage.fall (h : w.Stage (max maxErrors 1) .counted) (turn : w.turn = .counted)
    (many : maxErrors ≤ w.pipeline.errors) (streaming : w.pipeline.state = .streaming) :
    Stage (max maxErrors 1) { w.act Pipeline.fall .fallen with found := some .streaming } .fallen := by
  obtain ⟨hfull, books⟩ := h.full many
  have hwork : (w.act Pipeline.fall .fallen).work = w.work ++ [.faulted] := by
    rw [work_act, Pipeline.deeds_fall streaming]
    rfl
  exact .fallen rfl hfull (books.also (by rw [turn]; exact nofun) rfl rfl nofun rfl hwork)

theorem Stage.lose (h : w.Stage (max maxErrors 1) .counted) (turn : w.turn = .counted)
    (many : maxErrors ≤ w.pipeline.errors) (other : w.pipeline.state ≠ .streaming) :
    Stage (max maxErrors 1) { w.done with found := some w.pipeline.state } .idle := by
  obtain ⟨hfull, books⟩ := h.full many
  have hbooks := books.done (by rw [turn]; exact nofun)
  exact .lost _ rfl other hfull (hbooks.same rfl rfl hbooks.taken)

theorem Stage.close (h : w.Stage limit .fallen) (turn : w.turn = .fallen) :
    (w.act Pipeline.shut .shut).Stage limit .shut := by
  cases h with
  | fallen found full books =>
    have hwork : (w.act Pipeline.shut .shut).work = w.work ++ [] := by
      rw [work_act, Pipeline.deeds_shut]
      split <;> rfl
    exact .shut found full (books.also (by rw [turn]; exact nofun) rfl rfl nofun rfl hwork)

theorem Stage.tell (h : w.Stage limit .shut) (turn : w.turn = .shut) :
    (w.act (·.emit (.fault (.decodeErrors w.pipeline.errors))) .idle).done.Stage limit .idle := by
  cases h with
  | shut found full books =>
    have hlimit : w.pipeline.errors = limit := books.errors.trans full
    have hwork : (w.act (·.emit (.fault (.decodeErrors w.pipeline.errors))) .idle).done.work =
        w.work ++ [.told (.event (.fault (.decodeErrors limit)))] := by
      refine (w.work_act _ .idle).trans ?_
      have hterminal : (StreamEvent.fault (.decodeErrors w.pipeline.errors)).isTerminal = true := rfl
      rw [Pipeline.deeds_emit hterminal, hlimit]
      rfl
    exact .ended found full (books.also (by rw [turn]; exact nofun) rfl rfl (fun _ => rfl) rfl hwork)

/-! ### Runs -/

theorem Step.stage (hs : Step w w') (h : w.Orderly maxErrors (max maxErrors 1))
    (stage : w.Stage (max maxErrors 1) w.turn) : w'.Stage (max maxErrors 1) w'.turn := by
  cases hs with
  | other s step same => exact stage.other (step.aside same h.report)
  | take frame idle free next =>
    rw [idle] at stage
    exact idle ▸ stage.take idle free frame
  | look frame outcome idle taken =>
    rw [idle] at stage
    exact stage.look h.found idle taken
  | succeed frame turn => exact (turn ▸ stage).succeed turn (by omega)
  | fail sequence e turn => exact (turn ▸ stage).fail turn
  | few turn few =>
    rw [h.maxErrors] at few
    exact (turn ▸ stage).few turn (by omega)
  | fall turn many streaming => exact (turn ▸ stage).fall turn (h.maxErrors ▸ many) streaming
  | lost turn many other => exact (turn ▸ stage).lose turn (h.maxErrors ▸ many) other
  | shut turn => exact (turn ▸ stage).close turn
  | tell turn => exact (turn ▸ stage).tell turn

/-- What neither decodes nor reports, and does not set the stream going again, keeps the order. -/
theorem Orderly.same (h : w.Orderly maxErrors limit)
    (max : w'.pipeline.maxErrors = w.pipeline.maxErrors)
    (report : w'.session.report .worker = none) (arrivals : w'.arrivals = w.arrivals)
    (state : w'.pipeline.state = .streaming → w.pipeline.state = .streaming ∧ w'.found = w.found) :
    w'.Orderly maxErrors limit where
  maxErrors := max.trans h.maxErrors
  report
  order := arrivals ▸ h.order
  arrivals hstate := arrivals ▸ h.arrivals (state hstate).1
  found hstate := (state hstate).2.trans (h.found (state hstate).1)
  few front back hcounted := by
    rw [counted, arrivals] at hcounted
    exact h.few front back hcounted

theorem Orderly.look (h : w.Orderly maxErrors limit) (stage : w.Stage limit .idle)
    (frame : CompletedFrame) (outcome : Except DecodeFailure DecodedFrame) :
    (w.look frame outcome).Orderly maxErrors limit := by
  by_cases hstreaming : w.pipeline.state = .streaming
  · rw [look_of_streaming hstreaming]
    have hall := h.arrivals hstreaming
    refine ⟨h.maxErrors, h.report, ?_, fun _ a ha => ?_, h.found, fun front back hcounted hback => ?_⟩
    · exact List.pairwise_append.mpr ⟨h.order, List.pairwise_singleton _ _, fun a ha _ _ _ => hall a ha⟩
    · rcases List.mem_append.mp ha with ha | ha
      · exact hall a ha
      · rw [List.mem_singleton.mp ha]
    · -- Without the new outcome there are fewer than the limit, as they were all the time before.
      obtain ⟨init, last, rfl⟩ := List.eq_nil_or_concat' back |>.resolve_left hback
      have hinit : w.counted = front ++ init := by
        have hsplit : w.counted ++ [⟨frame, outcome, true⟩] = (front ++ init) ++ [last] := by
          rw [List.append_assoc, ← hcounted]
          simp [counted, List.filter_append]
        exact (List.append_inj' hsplit rfl).1
      by_cases hempty : init = []
      · rw [hempty, List.append_nil] at hinit
        exact hinit ▸ (stage.of_idle (h.found hstreaming)).1
      · exact h.few front init hinit hempty
  · rw [look_of_other hstreaming]
    refine ⟨h.maxErrors, h.report, ?_, fun state => absurd state hstreaming, h.found,
      fun front back hcounted hback => ?_⟩
    · exact List.pairwise_append.mpr ⟨h.order, List.pairwise_singleton _ _, fun _ _ b hb => by
        rw [List.mem_singleton.mp hb]
        exact nofun⟩
    · refine h.few front back ?_ hback
      rw [← hcounted]
      simp [counted, done, List.filter_append]

theorem Step.orderly (hs : Step w w') (h : w.Orderly maxErrors limit)
    (stage : w.Stage limit w.turn) : w'.Orderly maxErrors limit := by
  cases hs with
  | other s step same =>
    have haside := step.aside same h.report
    refine h.same haside.maxErrors haside.report rfl fun state => ⟨?_, rfl⟩
    by_contra hother
    exact haside.state hother state
  | take frame idle free next => exact h.same rfl h.report rfl fun state => ⟨state, rfl⟩
  | look frame outcome idle taken => exact h.look (idle ▸ stage) frame outcome
  | succeed frame turn => exact h.same rfl h.report rfl fun state => ⟨state, rfl⟩
  | fail sequence e turn => exact h.same rfl h.report rfl fun state => ⟨state, rfl⟩
  | few turn few => exact h.same rfl h.report rfl fun state => ⟨state, rfl⟩
  | fall turn many streaming => exact h.same rfl h.report rfl nofun
  | lost turn many other => exact h.same rfl h.report rfl fun state => absurd state other
  | shut turn => exact h.same rfl h.report rfl fun state => ⟨state, rfl⟩
  | tell turn => exact h.same rfl h.report rfl fun state => ⟨state, rfl⟩

theorem Run.stage {c : Controller} {config : StreamConfig} (h : Run (start c config) w) :
    let maxErrors := c.settings.pipeline.maxConsecutiveDecodeErrors
    w.Orderly maxErrors (max maxErrors 1) ∧ w.Stage (max maxErrors 1) w.turn := by
  intro maxErrors
  induction h with
  | refl =>
    have hpositive : 0 < max maxErrors 1 := by omega
    refine ⟨⟨rfl, rfl, .nil, fun _ a ha => absurd ha List.not_mem_nil, fun _ => rfl,
      fun front back hcounted hback => ?_⟩, .running rfl hpositive ⟨rfl, rfl, rfl⟩⟩
    exact absurd (List.append_eq_nil_iff.mp hcounted.symm).2 hback
  | tail _ hs ih => exact ⟨hs.orderly ih.1 ih.2, hs.stage ih.1 ih.2⟩

/-- What a worker has done that is not about to report. -/
structure Settled (limit : Nat) (w : Shift) : Prop where
  /-- Frames are decoded in the order in which they were taken. -/
  taken : w.taken = w.arrivals.map (·.frame) ++ w.session.decoding.toList
  /-- Once the stream does not run, nothing counts any more. -/
  order : w.arrivals.Pairwise fun a b => b.streaming → a.streaming
  /-- One notice for each outcome that counts, and the end of the stream if the worker is to end it and
  finds it running. -/
  work : w.work = w.counted.map (fun a => .told a.notice) ++
    if w.found = some .streaming then ending limit else []
  /-- Failures in a row are counted. -/
  errors : w.pipeline.errors = failures w.counted
  /-- The worker is to end the stream if and only if so many outcomes in a row have failed. -/
  escalates : w.found.isSome = true ↔
    ∃ front run, w.counted = front ++ run ∧ run.length = limit ∧ ∀ a ∈ run, a.failed = true
  /-- This happens once, and nothing counts after it. -/
  last : ∀ front run back, w.counted = front ++ run ++ back → run.length = limit →
    (∀ a ∈ run, a.failed = true) → back = []
  ended : w.found.isSome = true → w.pipeline.state ≠ .streaming

theorem Stage.settled (h : w.Stage limit .idle) (idle : w.turn = .idle)
    (orderly : w.Orderly maxErrors limit) : w.Settled limit := by
  have hlast (front run back : List Arrival) (hcounted : w.counted = front ++ run ++ back)
      (hlength : run.length = limit) (hfailed : ∀ a ∈ run, a.failed = true) : back = [] := by
    by_contra hback
    have hfew := orderly.few (front ++ run) back hcounted hback
    exact absurd (le_failures_iff.mpr ⟨front, run, rfl, hlength, hfailed⟩) (Nat.not_le.mpr hfew)
  have htaken {besides : List Deed} (books : w.Books w.counted besides) :
      w.taken = w.arrivals.map (·.frame) ++ w.session.decoding.toList := by
    have htaken := books.taken
    rwa [if_pos idle] at htaken
  have hended (found : w.found.isSome = true) : w.pipeline.state ≠ .streaming := fun state => by
    rw [orderly.found state] at found
    cases found
  cases h with
  | running found few books =>
    refine ⟨htaken books, orderly.order, ?_, books.errors, ?_, hlast, hended⟩
    · rw [books.work, found, if_neg nofun]
    · rw [← le_failures_iff, found]
      exact iff_of_false nofun (Nat.not_le.mpr few)
  | ended found full books =>
    refine ⟨htaken books, orderly.order, ?_, books.errors, ?_, hlast, hended⟩
    · rw [books.work, if_pos found]
    · rw [← le_failures_iff, found]
      exact iff_of_true rfl full.ge
  | lost state found other full books =>
    refine ⟨htaken books, orderly.order, ?_, books.errors, ?_, hlast, hended⟩
    · rw [books.work, if_neg (by rw [found]; simpa using other)]
    · rw [← le_failures_iff, found]
      exact iff_of_true rfl full.ge

theorem Run.settled {c : Controller} {config : StreamConfig} (h : Run (start c config) w)
    (idle : w.turn = .idle) :
    w.Settled (max c.settings.pipeline.maxConsecutiveDecodeErrors 1) :=
  (idle ▸ h.stage.2).settled idle h.stage.1

/-- In every run, whoever else does whatever in between and whatever the decoder makes of the frames: the
worker tells each outcome that counts once, in the order of the frames, and it ends the stream as soon as
the limit of failures in a row is reached, unless the stream has been ended by then. Outcomes that come
back later make no difference. From wherever it is, the worker gets there by itself.

All this holds of every session, where the worker makes a report at one go. -/
theorem worker_escalates (c : Controller) (config : StreamConfig) :
    let limit := max c.settings.pipeline.maxConsecutiveDecodeErrors 1
    (∀ w, Run (start c config) w →
      (w.turn = .idle → w.Settled limit) ∧ ∃ w', Run w w' ∧ w'.turn = .idle) ∧
      ∀ s, Session.Run (.start c config) s →
        ∃ w, Relation.ReflTransGen Whole (start c config) w ∧ w.session = s ∧ w.Settled limit := by
  refine ⟨fun w h => ⟨h.settled, w.exists_idle⟩, fun s h => ?_⟩
  obtain ⟨w, hwhole, hsession⟩ := exists_wholes (w := start c config) h
  obtain ⟨hrun, hidle⟩ := Whole.runs hwhole rfl
  exact ⟨w, hwhole, hsession, hrun.settled hidle⟩

/-! ### Two pictures in a row -/

def received (w : Shift) (bytes : Bytes) : Shift := { w with session := w.session.received bytes }

/-- A frame is taken, and the decoder does not make anything of it. -/
def refusing (w : Shift) (frame : CompletedFrame) (failure : DecodeFailure) (e : DecodeError) : Shift :=
  ((w.take frame).look frame (.error failure)).act (·.fail frame.sequence e) .counted

theorem run_refusing {frame : CompletedFrame} {failure : DecodeFailure} {e : DecodeError}
    (idle : w.turn = .idle) (free : w.session.decoding = none)
    (next : w.pipeline.queue.tryPop.1 = some frame) (state : w.pipeline.state = .streaming)
    (result : Pipeline.decodeResult (.error failure) = .error e) :
    Run w (w.refusing frame failure e) := by
  have htake : Step w (w.take frame) := .take w frame idle free next
  have hlook := Step.look (w.take frame) frame (.error failure) idle rfl
  have hturn : ((w.take frame).look frame (.error failure)).turn = .failure frame.sequence e := by
    rw [look_of_streaming (w := w.take frame) state, Arrival.turn, Arrival.result, result]
  exact .head htake (.head hlook (.single (.fail _ frame.sequence e hturn)))

/-- The second error in a row is one too many. -/
def strict : Controller where
  settings := { pipeline := { queueCapacity := 1, maxConsecutiveDecodeErrors := 2 } }
  codecs := .software

def picture (sequence : Nat) (pixel : UInt8) : CompletedFrame :=
  ⟨{ sequence, width := 1, height := 1, encoding := .grey, pts := none }, [pixel]⟩

/-- The decoder has broken down on the first picture, and the second one comes in. -/
def waiting : Shift :=
  (((start strict .pixels).received [2, 2, 7]).refusing (picture 1 7) .crash (.jpeg none)).done.received
    [2, 3, 8]

/-- The worker moves the state, and the host begins to close the stream. -/
def closing : Shift :=
  let w := (waiting.refusing (picture 2 8) (.error .missingEnd) .missingEnd).act Pipeline.fall .fallen
  { w with
    session := { w.session.doing .host Pipeline.stop with closing := .stopping }
    found := some .streaming }

def told : Shift :=
  let w := closing.act Pipeline.shut .shut
  (w.act (·.emit (.fault (.decodeErrors w.pipeline.errors))) .idle).done

theorem run_told : Run (start strict .pixels) told := by
  have hfirst : Run (start strict .pixels) waiting := by
    refine .head (.other _ _ (.payload _ [2, 2, 7] rfl rfl) rfl) ?_
    refine .trans (@run_refusing _ (picture 1 7) .crash (.jpeg none) rfl rfl (by decide +kernel)
      (by decide +kernel) rfl) ?_
    exact .head (.few _ rfl (by decide +kernel)) (.single (.other _ _ (.payload _ _ rfl rfl) rfl))
  have hsecond : Run waiting closing := by
    refine .trans (@run_refusing _ (picture 2 8) (.error .missingEnd) .missingEnd rfl rfl
      (by decide +kernel) (by decide +kernel) rfl) ?_
    refine .head (.fall _ rfl (by decide +kernel) (by decide +kernel)) ?_
    exact .single (.other _ _ (.stop _ rfl rfl) rfl)
  exact (hfirst.trans hsecond).trans (.head (.shut _ rfl) (.single (.tell _ rfl)))

/-- The same two pictures, and each report at one go. -/
def atOnce : Session :=
  let first := (Session.start strict .pixels).received [2, 2, 7]
  let second := ((first.taking (picture 1 7)).reporting (picture 1 7) (.error (.jpeg none))).received
    [2, 3, 8]
  (second.taking (picture 2 8)).reporting (picture 2 8) (.error .missingEnd)

theorem run_atOnce : Session.Run (.start strict .pixels) atOnce := by
  refine .head (.payload _ [2, 2, 7] rfl rfl) (.head (.take _ (picture 1 7) rfl (by decide +kernel)) ?_)
  refine .head (.decoded _ (picture 1 7) (.error (.jpeg none)) rfl nofun) ?_
  refine .head (.payload _ [2, 3, 8] rfl rfl) (.head (.take _ (picture 2 8) rfl (by decide +kernel)) ?_)
  exact .single (.decoded _ (picture 2 8) (.error .missingEnd) rfl nofun)

theorem worker_escalates_told :
    (Run (start strict .pixels) told ∧ told.turn = .idle ∧ told.Settled 2 ∧
      told.work = [.told (.event (.decodeError 1 (.jpeg none))),
        .told (.event (.decodeError 2 .missingEnd)), .faulted,
        .told (.event (.fault (.decodeErrors 2)))]) ∧
    ∃ w : Shift, w.session = atOnce ∧ w.Settled 2 ∧ w.work = told.work := by
  obtain ⟨hall, hwhole⟩ := worker_escalates strict .pixels
  refine ⟨⟨run_told, rfl, (hall told run_told).1 rfl, by decide +kernel⟩, ?_⟩
  obtain ⟨w, -, hsession, hsettled⟩ := hwhole atOnce run_atOnce
  refine ⟨w, hsession, hsettled, ?_⟩
  rw [work, hsession]
  decide +kernel

end Shift

end UsbVideo
