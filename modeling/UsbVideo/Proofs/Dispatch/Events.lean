import UsbVideo.Proofs.Dispatch.Receive

/-!
# What ends a stream from within

Transfers that fail one after another end a stream, and so does a device that is gone. A dispatch
learns of both in two ways:

    processed   a transfer has its turn, with the status it completed with
    refused     a transfer at hand is not taken for another round

`Raises` is the rule: it says of a whole history of such events whether the last of them raises a
fault, and which. A dispatch does not look back at the history. It counts failures in a row, event by
event, and stops at the first fault (`Judged`); `Judged.verdict` says that this comes to the same.

`Dispatch.events` are the events of taking in a completion and `Dispatch.refusals` those of a round of
submissions. They follow the recursions of the dispatch, and `judged_receive` and `judged_refill` say
that it judges them.
-/

namespace UsbVideo

/-- Something that counts towards a fault. -/
inductive DispatchEvent where
  | processed (received : Received)
  | refused (error : TransportError)
  deriving DecidableEq

namespace DispatchEvent

/-- Whether the device is gone. -/
def gone : DispatchEvent → Bool
  | processed r => r.status == .noDevice
  | refused error => error == .noDevice

/-- The status of a failure; a refusal counts as an error. -/
def failure? : DispatchEvent → Option TransferStatus
  | processed r => if r.status = .completed ∨ r.status = .noDevice then none else some r.status
  | refused error => if error = .noDevice then none else some .error

/-- The payloads handed on with the event. -/
def payloads : DispatchEvent → List Bytes
  | processed r => if r.status = .completed then r.payloads else []
  | refused _ => []

/-- What was processed. -/
def received? : DispatchEvent → Option Received
  | processed r => some r
  | refused _ => none

def isRefusal : DispatchEvent → Bool
  | processed _ => false
  | refused _ => true

end DispatchEvent

/-! ### The rule -/

/-- The last of these events raises a fault: it is the third failure in a row, or says that the device
is gone. -/
inductive Raises : List DispatchEvent → StreamFault → Prop where
  | failures {before : List DispatchEvent} {first second third : DispatchEvent}
      {last : TransferStatus} (h₁ : first.failure?.isSome = true) (h₂ : second.failure?.isSome = true)
      (h₃ : third.failure? = some last) :
      Raises (before ++ [first, second, third]) (.transferFailures 3 last)
  | gone {before : List DispatchEvent} {e : DispatchEvent} (h : e.gone = true) :
      Raises (before ++ [e]) .disconnected

/-- What a history comes to: no event but the last raises a fault, and the last raises this one. -/
structure Verdict (es : List DispatchEvent) (fault : Option StreamFault) : Prop where
  earlier : ∀ before e after, es = before ++ e :: after → ∀ f, ¬ Raises before f
  now : ∀ f, fault = some f ↔ Raises es f

namespace DispatchEvent

/-- Number of failures in a row at the end of a history. -/
def streak (es : List DispatchEvent) : Nat :=
  (es.reverse.takeWhile (·.failure?.isSome)).length

theorem streak_concat (es : List DispatchEvent) (e : DispatchEvent) :
    streak (es ++ [e]) = if e.failure?.isSome then streak es + 1 else 0 := by
  rw [streak, List.reverse_concat, List.takeWhile_cons]
  split
  · rfl
  · rfl

theorem two_le_streak {es : List DispatchEvent} (h : 2 ≤ streak es) :
    ∃ before first second, es = before ++ [first, second] ∧ first.failure?.isSome = true ∧
      second.failure?.isSome = true := by
  rcases es.eq_nil_or_concat with rfl | ⟨es, second, rfl⟩
  · exact absurd h (by decide)
  rw [List.concat_eq_append, streak_concat] at h
  split at h
  · next hsecond =>
    rcases es.eq_nil_or_concat with rfl | ⟨es, first, rfl⟩
    · exact absurd h (by decide)
    rw [List.concat_eq_append, streak_concat] at h
    split at h
    · next hfirst => exact ⟨es, first, second, by simp, hfirst, hsecond⟩
    · exact absurd h (by decide)
  · exact absurd h (by decide)

/-- Whether one more event raises a fault depends on the failures in a row before it. -/
theorem raises_concat {es : List DispatchEvent} {e : DispatchEvent} {f : StreamFault} :
    Raises (es ++ [e]) f ↔ (e.gone = true ∧ f = .disconnected) ∨
      ∃ last, e.failure? = some last ∧ 2 ≤ streak es ∧ f = .transferFailures 3 last := by
  constructor
  · intro h
    generalize hes : es ++ [e] = history at h
    cases h with
    | failures h₁ h₂ h₃ =>
      next before first second third last =>
      have hsplit : es ++ [e] = (before ++ [first] ++ [second]) ++ [third] := by simpa using hes
      obtain ⟨rfl, heq⟩ := List.append_inj' hsplit rfl
      cases heq
      refine .inr ⟨last, h₃, ?_, rfl⟩
      rw [streak_concat, if_pos h₂, streak_concat, if_pos h₁]
      exact Nat.le_add_left 2 _
    | gone h =>
      obtain ⟨rfl, heq⟩ := List.append_inj' hes rfl
      cases heq
      exact .inl ⟨h, rfl⟩
  · rintro (⟨hgone, rfl⟩ | ⟨last, hlast, hstreak, rfl⟩)
    · exact .gone hgone
    · obtain ⟨before, first, second, rfl, hfirst, hsecond⟩ := two_le_streak hstreak
      have hthree : before ++ [first, second] ++ [e] = before ++ [first, second, e] := by simp
      rw [hthree]
      exact .failures hfirst hsecond hlast

/-- Three failures in a row are a fault. -/
theorem streak_lt_three {es : List DispatchEvent} (h : Verdict es none) : streak es < 3 := by
  rcases es.eq_nil_or_concat with rfl | ⟨es, e, rfl⟩
  · decide
  rw [List.concat_eq_append] at h ⊢
  rw [streak_concat]
  split
  · next hfailed =>
    obtain ⟨last, hlast⟩ := Option.isSome_iff_exists.mp hfailed
    by_contra hmany
    have hraises : Raises (es ++ [e]) (.transferFailures 3 last) :=
      raises_concat.mpr (.inr ⟨last, hlast, by omega, rfl⟩)
    cases (h.now _).mpr hraises
  · decide

/-! ### Counting -/

/-- How a dispatch judges an event after so many failures in a row. -/
def judge (failures : Nat) (e : DispatchEvent) : Nat × Option StreamFault :=
  if e.gone then (failures, some .disconnected)
  else
    match e.failure? with
    | none => (0, none)
    | some status =>
      (failures + 1,
        if maxConsecutiveFailures ≤ failures + 1 then
          some (.transferFailures (failures + 1) status)
        else none)

/-- A device that is gone is not one more failure. -/
theorem failure?_of_gone {e : DispatchEvent} (h : e.gone = true) : e.failure? = none := by
  cases e with
  | processed r => exact if_pos (.inr (beq_iff_eq.mp h))
  | refused error => exact if_pos (beq_iff_eq.mp h)

/-- Who is judged without a fault so far is judged by the rule. -/
theorem verdict_concat {es : List DispatchEvent} (h : Verdict es none) (e : DispatchEvent) :
    Verdict (es ++ [e]) (e.judge (streak es)).2 ∧
      ((e.judge (streak es)).2 = none → (e.judge (streak es)).1 = streak (es ++ [e])) := by
  have hearlier : ∀ before e' after, es ++ [e] = before ++ e' :: after → ∀ f, ¬ Raises before f := by
    intro before e' after hsplit f hraises
    rcases after.eq_nil_or_concat with rfl | ⟨after, last, rfl⟩
    · obtain ⟨rfl, -⟩ := List.append_inj' hsplit rfl
      cases (h.now f).mpr hraises
    · have hshort : es ++ [e] = (before ++ e' :: after) ++ [last] := by simpa using hsplit
      obtain ⟨rfl, -⟩ := List.append_inj' hshort rfl
      exact h.earlier before e' after rfl f hraises
  refine ⟨⟨hearlier, fun f => ?_⟩, fun hnone => ?_⟩
  · rw [raises_concat, judge]
    split
    · next hgone => simp [failure?_of_gone hgone, hgone, eq_comm]
    · next hgone =>
      cases hfailure : e.failure? with
      | none => simp [hgone]
      | some status =>
        -- The count says three because it said less than three before.
        have hless := streak_lt_three h
        by_cases hthird : 2 ≤ streak es
        · have htwo : streak es = 2 := by omega
          simp [htwo, hgone, maxConsecutiveFailures, eq_comm]
        · have hfew : ¬ 3 ≤ streak es + 1 := by omega
          simp [maxConsecutiveFailures, hfew, hthird, hgone]
  · rw [judge] at hnone ⊢
    rw [streak_concat]
    split
    · next hgone => simp [hgone] at hnone
    · cases hfailure : e.failure? with
      | none => rfl
      | some status => rfl

end DispatchEvent

/-- Events are judged one after another, up to the first fault. -/
inductive Judged : Nat → List DispatchEvent → Nat → Option StreamFault → Prop where
  | nil (n : Nat) : Judged n [] n none
  | fault {n m : Nat} {e : DispatchEvent} {f : StreamFault} (h : e.judge n = (m, some f)) :
      Judged n [e] m (some f)
  | cons {n m k : Nat} {e : DispatchEvent} {es : List DispatchEvent} {f : Option StreamFault}
      (h : e.judge n = (m, none)) (rest : Judged m es k f) : Judged n (e :: es) k f

namespace Judged

variable {n m k : Nat} {e : DispatchEvent} {es later : List DispatchEvent} {f : Option StreamFault}

/-- One event. -/
theorem one (h : e.judge n = (m, f)) : Judged n [e] m f := by
  cases f with
  | none => exact .cons h (.nil m)
  | some fault => exact .fault h

/-- Without an event there is no fault. -/
theorem fault_of_nil (h : Judged n [] m f) : f = none := by
  cases h
  rfl

theorem append (h : Judged n es m none) (h' : Judged m later k f) : Judged n (es ++ later) k f := by
  generalize hnone : none = g at h
  induction h with
  | nil n => exact h'
  | fault h => cases hnone
  | cons h rest ih => exact .cons h (ih h' hnone)

/-- Counting failures in a row from the start of a history comes to what the rule says. -/
theorem verdict (h : Judged 0 es n f) : Verdict es f := by
  -- By induction on what is still to be judged; the count is the streak of what was judged before.
  have hgo : ∀ {n m : Nat} {later : List DispatchEvent} {f : Option StreamFault}, Judged n later m f →
      ∀ before, Verdict before none → n = DispatchEvent.streak before →
        Verdict (before ++ later) f := by
    intro n m later f h
    induction h with
    | nil n =>
      intro before hbefore _
      rwa [List.append_nil]
    | @fault n m e f h =>
      rintro before hbefore rfl
      have hlast := (DispatchEvent.verdict_concat hbefore e).1
      rwa [h] at hlast
    | @cons n m k e es f h rest ih =>
      rintro before hbefore rfl
      obtain ⟨hfirst, hcount⟩ := DispatchEvent.verdict_concat hbefore e
      rw [h] at hfirst hcount
      rw [List.append_cons]
      exact ih _ hfirst (hcount rfl)
  have hnothing : Verdict [] none := by
    refine ⟨fun before e after hsplit => ?_, fun f => ⟨nofun, fun hraises => ?_⟩⟩
    · simp at hsplit
    · generalize hes : ([] : List DispatchEvent) = es at hraises
      cases hraises with
      | failures => simp at hes
      | gone => simp at hes
  exact hgo h [] hnothing rfl

end Judged

/-! ### The events of a dispatch -/

/-- The numbers that passed before and those that pass now. -/
theorem ReorderWindow.passed_add {w w' : ReorderWindow} {n : Nat} (h : w'.next = w.next + n)
    (hpos : 1 ≤ w.next) : w'.passed = w.passed ++ List.range' w.next n := by
  have hstart : w.next = 1 + (w.next - 1) := by omega
  have hcount : w.next + n - 1 = w.next - 1 + n := by omega
  rw [passed, passed, h, hcount, ← List.range'_append_1, ← hstart]

namespace DispatchTally

/-- What is processed of the held ones whose turn has come, in order, up to a fault. -/
def released (t : DispatchTally) (w : ReorderWindow) : List Received :=
  match _h : w.ready? with
  | none => []
  | some r =>
    match t.process r with
    | (_, _, some _) => [r]
    | (t, _, none) => r :: t.released w.pass
termination_by w.held.length
decreasing_by exact ReorderWindow.length_pass_lt _h

theorem judge_process (t : DispatchTally) (r : Received) :
    (DispatchEvent.processed r).judge t.failures = ((t.process r).1.failures, (t.process r).2.2) := by
  obtain ⟨status, payloads, failedPackets⟩ := r
  cases status with
  | completed | noDevice => rfl
  | _ => rfl

theorem judge_fail (t : DispatchTally) {error : TransportError} (h : ¬ error = .noDevice) :
    (DispatchEvent.refused error).judge t.failures =
      ((t.fail .error).1.failures, (t.fail .error).2.2) := by
  have hgone : ¬ (DispatchEvent.refused error).gone = true := fun hgone => h (beq_iff_eq.mp hgone)
  have hfailure : (DispatchEvent.refused error).failure? = some .error := if_neg h
  rw [DispatchEvent.judge, if_neg hgone, hfailure]
  rfl

theorem payloads_processed (t : DispatchTally) (r : Received) :
    DispatchOutput.payloads (t.process r).2.1 = (DispatchEvent.processed r).payloads := by
  obtain ⟨status, payloads, failedPackets⟩ := r
  cases status with
  | completed => exact DispatchOutput.payloads_map_payload payloads
  | _ => rfl

theorem refused_process (t : DispatchTally) (r : Received) :
    (t.process r).1.stats.resubmitFailures = t.stats.resubmitFailures := by
  unfold process
  split <;> rfl

theorem released_of_none {t : DispatchTally} {w : ReorderWindow} (h : w.ready? = none) :
    t.released w = [] := by
  rw [released]
  split
  · rfl
  · next r hready => rw [h] at hready; cases hready

theorem released_of_ready {t : DispatchTally} {w : ReorderWindow} {r : Received}
    (h : w.ready? = some r) :
    t.released w = r :: if (t.process r).2.2.isSome then [] else (t.process r).1.released w.pass := by
  conv_lhs => rw [released]
  split
  · next hready => rw [h] at hready; cases hready
  · next r' hready =>
    rw [h] at hready
    cases hready
    rcases t.process r with ⟨t', outputs, _ | fault⟩
    · rfl
    · rfl

/-- Releasing what is held judges what is released, and hands on its payloads. -/
theorem judged_releaseReady (t : DispatchTally) (w : ReorderWindow) :
    let s := t.releaseReady w
    let es := (t.released w).map DispatchEvent.processed
    Judged t.failures es s.1.failures s.2.2.2 ∧
      DispatchOutput.payloads s.2.2.1 = es.flatMap DispatchEvent.payloads ∧
        s.1.stats.resubmitFailures = t.stats.resubmitFailures := by
  fun_induction releaseReady t w with
  | case1 t w hnone =>
    rw [released_of_none hnone]
    exact ⟨.nil _, rfl, rfl⟩
  | case2 t w r hready t' outputs fault hprocess =>
    have hjudge := t.judge_process r
    have hpayloads := t.payloads_processed r
    have hrefused := t.refused_process r
    rw [hprocess] at hjudge hpayloads hrefused
    rw [released_of_ready hready, hprocess]
    exact ⟨.fault hjudge, by simpa using hpayloads, hrefused⟩
  | case3 t w r hready t' outputs hprocess t'' w'' later fault hlater ih =>
    have hjudge := t.judge_process r
    have hpayloads := t.payloads_processed r
    have hrefused := t.refused_process r
    rw [hprocess] at hjudge hpayloads hrefused
    rw [hlater] at ih
    obtain ⟨hjudged, hrest, hsame⟩ := ih
    rw [released_of_ready hready, hprocess]
    refine ⟨.cons hjudge hjudged, ?_, hsame.trans hrefused⟩
    rw [DispatchOutput.payloads_append, hpayloads, hrest]
    rfl

/-- What is released was held under the numbers whose turn it was, one after another. -/
theorem released_turns (t : DispatchTally) (w : ReorderWindow) :
    ∃ entries : List (Nat × Received),
      t.released w = entries.map (·.2) ∧ (∀ entry ∈ entries, entry ∈ w.held) ∧
        entries.map (·.1) = List.range' w.next entries.length ∧
          (t.releaseReady w).2.1.next = w.next + entries.length := by
  fun_induction releaseReady t w with
  | case1 t w hnone => exact ⟨[], released_of_none hnone, nofun, rfl, rfl⟩
  | case2 t w r hready t' outputs fault hprocess =>
    refine ⟨[(w.next, r)], ?_, ?_, rfl, rfl⟩
    · rw [released_of_ready hready, hprocess]
      rfl
    · intro entry hentry
      rw [List.mem_singleton.mp hentry]
      exact ReorderWindow.mem_of_ready hready
  | case3 t w r hready t' outputs hprocess t'' w'' later fault hlater ih =>
    obtain ⟨entries, hreleased, hheld, hturns, hnext⟩ := ih
    rw [hlater] at hnext
    refine ⟨(w.next, r) :: entries, ?_, ?_, ?_, ?_⟩
    · rw [released_of_ready hready, hprocess, List.map_cons, ← hreleased]
      rfl
    · intro entry hentry
      rcases List.mem_cons.mp hentry with rfl | hentry
      · exact ReorderWindow.mem_of_ready hready
      · exact (List.mem_filter.mp (hheld entry hentry)).1
    · rw [List.map_cons, hturns]
      rfl
    · rw [hnext, List.length_cons]
      show w.next + 1 + entries.length = _
      omega

end DispatchTally

namespace Dispatch

/-- What is processed when a completion is taken in, in order, up to a fault. -/
def processed (d : Dispatch) (c : Completion) : List Received :=
  let received := Received.ofCompletion c
  if d.window.isNext c.transfer.id then
    let (tally, _, fault) := d.tally.process received
    received :: if fault.isSome then [] else tally.released d.window.advance
  else d.tally.released (d.window.hold c.transfer.id received)

theorem processed_in_turn {d : Dispatch} {c : Completion} (h : c.transfer.id = d.window.next) :
    d.processed c = .ofCompletion c ::
      if (d.tally.process (.ofCompletion c)).2.2.isSome then []
      else (d.tally.process (.ofCompletion c)).1.released d.window.advance := by
  unfold processed
  exact if_pos (ReorderWindow.isNext_eq_true_iff.mpr h)

theorem processed_early {d : Dispatch} {c : Completion} (h : c.transfer.id ≠ d.window.next) :
    d.processed c = d.tally.released (d.window.hold c.transfer.id (.ofCompletion c)) := by
  unfold processed
  simp only [ReorderWindow.isNext_eq_false_iff.mpr h, Bool.false_eq_true, if_false]

/-- The refusal that ends a round of submissions, if there is one. -/
def refusals {σ : Type} [Transport σ] (d : Dispatch) (device : σ) : List DispatchEvent :=
  ({ d with idle := [] }.submitPool device d.idle).1.toList.map .refused

/-- The events of receiving a completion: what is processed, and then a refusal, unless there was a
fault before. -/
def events {σ : Type} [Transport σ] (d : Dispatch) (c : Completion) (device : σ) :
    List DispatchEvent :=
  (d.processed c).map .processed ++
    if (d.takeIn c).2.2.isSome then [] else (d.takeIn c).1.refusals device

/-- Taking in a completion judges what is processed. -/
theorem judged_takeIn (d : Dispatch) (c : Completion) :
    let es := (d.processed c).map DispatchEvent.processed
    Judged d.tally.failures es (d.takeIn c).1.tally.failures (d.takeIn c).2.2 ∧
      DispatchOutput.payloads (d.takeIn c).2.1 = es.flatMap DispatchEvent.payloads ∧
        (d.takeIn c).1.tally.stats.resubmitFailures = d.tally.stats.resubmitFailures := by
  have hjudge := d.tally.judge_process (.ofCompletion c)
  have hpayloads := d.tally.payloads_processed (.ofCompletion c)
  have hrefused := d.tally.refused_process (.ofCompletion c)
  rcases d.takeIn_cases c with ⟨hid, hfault, htally, -, hout⟩ | ⟨hid, hfault, htally, -, hout⟩ |
    ⟨hid, htally, -, hout⟩
  · have hsome := Option.isSome_iff_ne_none.mpr hfault
    simp only [processed_in_turn hid, if_true, hsome, htally, hout]
    exact ⟨.one hjudge, by simpa using hpayloads, hrefused⟩
  · obtain ⟨hjudged, hrest, hsame⟩ :=
      (d.tally.process (.ofCompletion c)).1.judged_releaseReady d.window.advance
    rw [hfault] at hjudge
    simp only [processed_in_turn hid, hfault, htally, hout]
    refine ⟨.cons hjudge hjudged, ?_, hsame.trans hrefused⟩
    rw [DispatchOutput.payloads_append, hpayloads, hrest]
    rfl
  · simp only [processed_early hid, htally, hout]
    exact d.tally.judged_releaseReady (d.window.hold c.transfer.id (.ofCompletion c))

/-- What is processed is what the completion brought or was held, in the order of the numbers. -/
theorem processed_turns (d : Dispatch) (c : Completion) :
    ∃ entries : List (Nat × Received),
      d.processed c = entries.map (·.2) ∧
        (∀ entry ∈ entries, entry = (c.transfer.id, .ofCompletion c) ∨ entry ∈ d.window.held) ∧
          entries.map (·.1) = List.range' d.window.next entries.length ∧
            (d.takeIn c).1.window.next = d.window.next + entries.length := by
  rcases d.takeIn_cases c with ⟨hid, hfault, -, hwindow, -⟩ | ⟨hid, hfault, -, hwindow, -⟩ |
    ⟨hid, -, hwindow, -⟩
  · have hsome := Option.isSome_iff_ne_none.mpr hfault
    simp only [processed_in_turn hid, if_true, hsome, hwindow]
    exact ⟨[(c.transfer.id, .ofCompletion c)], rfl, by simp, by simp [hid], rfl⟩
  · -- What it brought is processed first, and then what was held behind it.
    obtain ⟨entries, hreleased, hheld, hturns, hlast⟩ :=
      (d.tally.process (.ofCompletion c)).1.released_turns d.window.advance
    simp only [processed_in_turn hid, hfault, hwindow]
    refine ⟨(c.transfer.id, .ofCompletion c) :: entries, ?_, ?_, ?_, ?_⟩
    · rw [List.map_cons, ← hreleased]
      rfl
    · intro entry hentry
      exact (List.mem_cons.mp hentry).imp_right (hheld entry)
    · rw [List.map_cons, hturns, hid]
      rfl
    · rw [hlast, List.length_cons]
      show d.window.next + 1 + entries.length = _
      omega
  · obtain ⟨entries, hreleased, hheld, hturns, hlast⟩ :=
      d.tally.released_turns (d.window.hold c.transfer.id (.ofCompletion c))
    simp only [processed_early hid, hwindow]
    refine ⟨entries, hreleased, ?_, hturns, hlast⟩
    intro entry hentry
    exact (List.mem_cons.mp (hheld entry hentry)).imp_right fun hmem => (List.mem_filter.mp hmem).1

section Submitting

variable {σ : Type} [Transport σ]

/-- Submitting counts what was submitted and nothing else. -/
theorem submit_tally {σ : Type} [Transport σ] (d : Dispatch) (transfer : Transfer) (device : σ) :
    (d.submit transfer device).2.1.tally.failures = d.tally.failures ∧
      (d.submit transfer device).2.1.tally.stats.resubmitFailures =
        d.tally.stats.resubmitFailures := by
  unfold submit
  split
  · exact ⟨rfl, rfl⟩
  · exact ⟨rfl, rfl⟩

theorem submitPool_tally {σ : Type} [Transport σ] (d : Dispatch) (device : σ)
    (pool : List Transfer) :
    (d.submitPool device pool).2.1.tally.failures = d.tally.failures ∧
      (d.submitPool device pool).2.1.tally.stats.resubmitFailures =
        d.tally.stats.resubmitFailures := by
  induction pool generalizing d device with
  | nil => exact ⟨rfl, rfl⟩
  | cons transfer rest ih =>
    have hfirst := d.submit_tally transfer device
    unfold submitPool
    rcases hsubmit : d.submit transfer device with ⟨refused, d', device'⟩
    rw [hsubmit] at hfirst
    cases refused with
    | none => exact ⟨(ih d' device').1.trans hfirst.1, (ih d' device').2.trans hfirst.2⟩
    | some refusal => exact hfirst

/-- A round of submissions judges the refusal that ends it, and counts it. -/
theorem judged_submitAll (d : Dispatch) (l : Ledger σ) (transfers : List Transfer) :
    let s := d.submitAll l transfers
    let es := (d.submitPool l transfers).1.toList.map DispatchEvent.refused
    Judged d.tally.failures es s.dispatch.tally.failures s.fault ∧
      s.dispatch.tally.stats.resubmitFailures = d.tally.stats.resubmitFailures + es.length := by
  induction transfers generalizing d l with
  | nil => exact ⟨.nil _, rfl⟩
  | cons transfer rest ih =>
    have hsame := d.submit_tally transfer l
    unfold submitAll submitPool
    rcases hsubmit : d.submit transfer l with ⟨refused, d', l'⟩
    rw [hsubmit] at hsame
    cases refused with
    | none =>
      have hrest := ih d' l'
      rw [hsame.1, hsame.2] at hrest
      exact hrest
    | some refusal =>
      obtain ⟨rfl, -, -⟩ := submit_refused hsubmit
      dsimp only [Option.toList, List.map_cons, List.map_nil, List.length_singleton]
      split
      · next hgone =>
        rw [hgone]
        exact ⟨.fault rfl, rfl⟩
      · next hgone =>
        exact ⟨.one (DispatchTally.judge_fail _ hgone), rfl⟩

theorem countP_refusals (d : Dispatch) (l : Ledger σ) :
    (d.refusals l).countP DispatchEvent.isRefusal = (d.refusals l).length := by
  rw [refusals, List.countP_map, List.length_map, List.countP_eq_length]
  exact fun _ _ => rfl

theorem received_refusals (d : Dispatch) (l : Ledger σ) :
    (d.refusals l).filterMap DispatchEvent.received? = [] := by
  rw [refusals, List.filterMap_map]
  exact List.filterMap_eq_nil_iff.mpr fun _ _ => rfl

/-- What is processed stands in the events as it is. -/
theorem received_events (d : Dispatch) (c : Completion) (l : Ledger σ) :
    (d.events c l).filterMap DispatchEvent.received? = d.processed c := by
  have hprocessed :
      ((d.processed c).map DispatchEvent.processed).filterMap DispatchEvent.received? =
        d.processed c := by
    rw [List.filterMap_map]
    exact List.filterMap_some
  rw [events, List.filterMap_append, hprocessed]
  split
  · exact List.append_nil _
  · rw [received_refusals, List.append_nil]

/-- Submitting what is at hand hands on nothing. -/
theorem judged_refill (d : Dispatch) (l : Ledger σ) :
    Judged d.tally.failures (d.refusals l) (d.refill l).dispatch.tally.failures (d.refill l).fault ∧
      DispatchOutput.payloads (d.refill l).outputs = (d.refusals l).flatMap DispatchEvent.payloads ∧
        (d.refill l).dispatch.tally.stats.resubmitFailures =
          d.tally.stats.resubmitFailures + (d.refusals l).length := by
  obtain ⟨hjudged, hcount⟩ := judged_submitAll { d with idle := [] } l d.idle
  refine ⟨hjudged, ?_, hcount⟩
  rw [(d.refill_submitted l).1, refusals, List.flatMap_map]
  exact (List.flatMap_eq_nil_iff.mpr fun _ _ => rfl).symm

/-- Receiving a completion judges its events, hands on their payloads and counts the refusals. -/
theorem judged_receive (d : Dispatch) (c : Completion) (l : Ledger σ) :
    let s := d.receive c l
    let es := d.events c l
    Judged d.tally.failures es s.dispatch.tally.failures s.fault ∧
      DispatchOutput.payloads s.outputs = es.flatMap DispatchEvent.payloads ∧
        s.dispatch.tally.stats.resubmitFailures =
          d.tally.stats.resubmitFailures + es.countP DispatchEvent.isRefusal := by
  obtain ⟨hjudged, hpayloads, hsame⟩ := d.judged_takeIn c
  have hprocessed : ((d.processed c).map DispatchEvent.processed).countP DispatchEvent.isRefusal = 0 := by
    rw [List.countP_map, List.countP_eq_zero]
    exact fun _ _ => Bool.false_ne_true
  rw [receive_eq, events]
  split
  · next fault hfault =>
    rw [hfault] at hjudged
    simp only [hfault, Option.isSome_some, if_true, List.append_nil, hprocessed]
    exact ⟨hjudged, hpayloads, hsame⟩
  · next hfault =>
    rw [hfault] at hjudged
    obtain ⟨hlater, hnothing, hcount⟩ := (d.takeIn c).1.judged_refill l
    simp only [hfault, Option.isSome_none, Bool.false_eq_true, if_false]
    refine ⟨hjudged.append hlater, ?_, ?_⟩
    · rw [DispatchOutput.payloads_append, hpayloads, hnothing, List.flatMap_append]
    · rw [hcount, hsame, List.countP_append, hprocessed, countP_refusals, Nat.zero_add]

/-- Submitting does not touch the window. -/
theorem window_receive (d : Dispatch) (c : Completion) (l : Ledger σ) :
    (d.receive c l).dispatch.window = (d.takeIn c).1.window := by
  rw [receive_eq]
  split
  · rfl
  · obtain ⟨-, n, hsubmitted, -⟩ := (d.takeIn c).1.refill_submitted l
    exact hsubmitted.window

end Submitting

end Dispatch

end UsbVideo
