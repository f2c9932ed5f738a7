import UsbVideo.Proofs.Delivery.Frames
import UsbVideo.Proofs.Engine.Background
import UsbVideo.Proofs.Engine.Course

/-!
# The parties of an engine

In a `Session` anything may happen between other things. A `World` has its parties do several things at
one go, and each of that is a run of the session:

    Pipeline.fault, disconnect    fall │ shut │ tell     or   late
    Pipeline.work                 take │ decoded         or   nothing
    World.closeStream             stop ┊ drained │ discard ┊ finish

A session `Mirrors` a controller if it has the pipeline of its open stream and nobody is in the middle of
anything. It begins with `World.openStream` and ends with `World.closeStream`, and whatever the world does
by itself, the session goes along with it (`Controller.Accompanied`).
-/

namespace UsbVideo

namespace Pipeline

variable {p : Pipeline}

/-- To end a stream is done in three parts. -/
theorem deeds_terminate (streaming : p.state = .streaming) {event : StreamEvent}
    (terminal : event.isTerminal = true) :
    p.deeds (·.terminate event) =
      p.deeds fall ++ p.fall.2.deeds shut ++ p.fall.2.shut.2.deeds (·.emit event) := by
  have htold : p.notices (·.terminate event) = [.event event] := by
    rw [← p.fall.2.shut.2.notices_emit event, notices, terminate_eq,
      if_pos (show p.attended.state = .streaming from streaming)]
    rfl
  have hterminal : (Notice.event event).isTerminal = true := terminal
  have hafter : (p.terminate event).2 = (p.fall.2.shut.2.emit event).2 := by
    rw [terminate_eq, if_pos streaming]
  have hshut : p.fall.2.deeds shut = if p.queue.closed = false then [.shut] else [] := deeds_shut
  rw [deeds_fall streaming, hshut, deeds_emit terminal]
  simp [deeds, htold, hterminal, hafter, streaming, emit, fall, shut, FrameQueue.close]

theorem terminate_of_other (other : p.state ≠ .streaming) (event : StreamEvent) :
    p.terminate event = ([], p) := by
  rw [terminate_eq, if_neg other]

/-- A worker that finds no frame, or a closed queue, does nothing. -/
theorem work_of_none (h : p.queue.closed = true ∨ p.queue.tryPop.1 = none) : p.work = ([], p) := by
  cases hclosed : p.queue.closed with
  | true => rw [work, FrameQueue.pop_closed hclosed]
  | false =>
    have hnone : p.queue.tryPop.1 = none := h.resolve_left (Bool.eq_false_iff.mp hclosed)
    cases hframes : p.queue.frames with
    | nil => rw [work, FrameQueue.pop_nil hclosed hframes]
    | cons oldest rest =>
      rw [FrameQueue.tryPop_cons hframes] at hnone
      cases hnone

/-- Whoever takes a frame and reports on it at one go does what the report does. -/
theorem deeds_work {frame : CompletedFrame} (opened : p.queue.closed = false)
    (next : p.queue.tryPop.1 = some frame) :
    p.deeds work =
      p.take.2.deeds (·.report frame.sequence (decodeResult (p.decoder.decode frame))) := by
  have htold : p.notices work =
      p.take.2.notices (·.report frame.sequence (decodeResult (p.decoder.decode frame))) :=
    congrArg (·.map Call.notice) (messages_work (p := p.attended) opened next).2
  have hclosed : p.take.2.queue.closed = p.queue.closed := FrameQueue.closed_tryPop _
  rw [deeds, deeds, htold, (messages_work opened next).1, hclosed]
  rfl

end Pipeline

namespace Session

variable {s : Session}

/-- Who looks at the state first and finds that the stream does not run does nothing. -/
theorem doing_of_idle {party : Party} {f : Pipeline → List (Effect Call) × Pipeline}
    (idle : f s.pipeline = ([], s.pipeline)) (attended : (f s.pipeline.attended).1 = []) :
    s.doing party f = s := by
  rw [doing, Pipeline.deeds_of_idle idle attended, idle]
  simp

/-- A party reports the end of the stream, or comes too late. -/
theorem run_terminate {party : Party} (event : StreamEvent) (may : s.MayReport event party)
    (free : s.report party = none) : Run s (s.doing party (·.terminate event)) := by
  by_cases hstreaming : s.pipeline.state = .streaming
  · let fallen : Session :=
      { s.doing party Pipeline.fall with
        report := Function.update s.report party (some { event }) }
    let closed : Session :=
      { fallen.doing party Pipeline.shut with
        report := Function.update fallen.report party (some { event, shut := true }) }
    let told : Session :=
      { closed.doing party (·.emit event) with
        report := Function.update closed.report party none }
    have hfall : Step s fallen := .fall s party event may hstreaming
    have hshut : Step fallen closed := .shut fallen party event (Function.update_self ..)
    have htell : Step closed told := .tell closed party event (Function.update_self ..)
    have htold : s.doing party (·.terminate event) = told := by
      have hreport : told.report = s.report := by
        simp only [told, closed, fallen, Function.update_idem]
        rw [← free, Function.update_eq_self]
      rw [doing, Pipeline.deeds_terminate hstreaming may.terminal, Pipeline.terminate_eq,
        if_pos hstreaming, ← hreport]
      simp [told, closed, fallen, doing]
    rw [htold]
    exact .head hfall (.head hshut (.single htell))
  · have hidle (q : Pipeline) (other : q.state ≠ .streaming) :=
      Pipeline.terminate_of_other other event
    rw [doing_of_idle (hidle _ hstreaming) (by rw [hidle s.pipeline.attended hstreaming])]
    exact .single (.late s party event may hstreaming)

theorem run_fault (runs : s.drained = false) (free : s.report .transfers = none)
    (fault : StreamFault) : Run s (s.doing .transfers (·.fault fault)) :=
  run_terminate (Pipeline.faultEvent fault) ⟨runs, free, fault, rfl⟩ free

theorem run_disconnect (opened : s.closing = .no) (free : s.report .host = none) :
    Run s (s.doing .host Pipeline.disconnect) :=
  run_terminate .disconnected ⟨opened, free, rfl⟩ free

/-- In its turn the worker takes a frame and reports on it, if there is one and the queue is open. -/
theorem run_work (free : s.decoding = none) : Run s (s.doing .worker Pipeline.work) := by
  by_cases hnone : s.pipeline.queue.closed = true ∨ s.pipeline.queue.tryPop.1 = none
  · have hattended := Pipeline.work_of_none (p := s.pipeline.attended) hnone
    rw [doing_of_idle (Pipeline.work_of_none hnone) (by rw [hattended])]
    exact .refl
  · obtain ⟨hopen, hsome⟩ := not_or.mp hnone
    replace hopen := Bool.eq_false_of_not_eq_true hopen
    obtain ⟨frame, hnext⟩ := Option.ne_none_iff_exists'.mp hsome
    let result := Pipeline.decodeResult (s.pipeline.decoder.decode frame)
    have htake : Step s (s.taking frame) := .take s frame free hnext
    have hreport : Step (s.taking frame) ((s.taking frame).reporting frame result) :=
      .decoded _ frame result rfl fun d h => FormatDecoder.sequence_decode h
    have hwork : s.doing .worker Pipeline.work = (s.taking frame).reporting frame result := by
      have htaken : s.pipeline.deeds Pipeline.take = [] := Pipeline.deeds_take
      rw [doing, Pipeline.deeds_work hopen hnext, (Pipeline.messages_work hopen hnext).1, reporting,
        taking, doing, doing, htaken]
      simp [free, result]
    rw [hwork]
    exact .head htake (.single hreport)

end Session

/-! ### The session of a controller -/

/-- The pipeline of the open stream. -/
def Controller.pipeline? (c : Controller) : Option Pipeline :=
  c.stream.map fun stream => ⟨stream.stages, c.state, c.hub⟩

theorem Controller.pipeline?_withPipeline (c : Controller)
    (f : Pipeline → List (Effect Call) × Pipeline) :
    (c.withPipeline f).2.pipeline? = c.pipeline?.map (f · |>.2) := by
  obtain ⟨settings, codecs, state, hub, catalog, stream⟩ := c
  cases stream <;> rfl

/-- This is the session of the open stream of a controller, and nobody is in the middle of anything. -/
structure Session.Mirrors (s : Session) (c : Controller) : Prop where
  pipeline : c.pipeline? = some s.pipeline
  reports : ∀ party, s.report party = none
  decoding : s.decoding = none
  /-- The transfers run, or nothing they bring is taken in any more. -/
  takes : s.drained = false ∨ s.pipeline.state ≠ .streaming

namespace Session.Mirrors

variable {s : Session} {c : Controller}

/-- A party does something at one go. -/
theorem doing (h : s.Mirrors c) (party : Party) {f : Pipeline → List (Effect Call) × Pipeline}
    (onward : s.pipeline.state.Onward (f s.pipeline).2.state) :
    (s.doing party f).Mirrors (c.withPipeline f).2 where
  pipeline := by
    rw [c.pipeline?_withPipeline, h.pipeline]
    rfl
  reports := h.reports
  decoding := h.decoding
  takes := h.takes.imp_right fun other => by
    rcases onward with hsame | ⟨hstreaming, -⟩
    · exact hsame ▸ other
    · exact absurd hstreaming other

/-- Outside of streaming nothing is done by a party that looks at the state first. -/
theorem idle (h : s.Mirrors c) (other : s.pipeline.state ≠ .streaming)
    {f : Pipeline → List (Effect Call) × Pipeline}
    (idle : ∀ p : Pipeline, p.state ≠ .streaming → f p = ([], p)) :
    s.Mirrors (c.withPipeline f).2 where
  pipeline := by rw [c.pipeline?_withPipeline, h.pipeline, Option.map_some, idle _ other]
  reports := h.reports
  decoding := h.decoding
  takes := h.takes

/-- The host begins to close the stream. -/
theorem stop (h : s.Mirrors c) (opened : s.closing = .no) :
    ∃ s', s.Run s' ∧ s'.closing = .stopping ∧ s'.pipeline.state ≠ .streaming ∧
      s'.Mirrors { c with state := .stopping } := by
  obtain ⟨stream, hstream, hpipeline⟩ := Option.map_eq_some_iff.mp h.pipeline
  refine ⟨_, .single (.stop s opened (h.reports _)), rfl, nofun, ?_, h.reports, h.decoding, .inr nofun⟩
  rw [Controller.pipeline?, hstream, Option.map_some]
  show some _ = some { s.pipeline with state := .stopping }
  rw [← hpipeline]

/-- The transfers are back, and the host throws away what waits. -/
theorem discard (h : s.Mirrors c) (stopping : s.closing = .stopping)
    (other : s.pipeline.state ≠ .streaming) :
    ∃ s', s.Run s' ∧ s'.closing = .discarded ∧ s'.Mirrors c.discardFrames := by
  have hdone := h.doing .host (f := Pipeline.discard) (.inl rfl)
  rw [c.withPipeline_discard] at hdone
  exact ⟨_, .head (.drained s (h.reports _)) (.single (.discard _ stopping rfl)), rfl, hdone.pipeline,
    hdone.reports, hdone.decoding, .inr other⟩

/-- The stream is closed. -/
theorem finish (h : s.Mirrors c) (discarded : s.closing = .discarded) :
    ∃ s', s.Run s' ∧ s'.closing = .done ∧ c.closed.state = s'.pipeline.state ∧
      c.closed.hub = s'.pipeline.hub := by
  obtain ⟨stream, hstream, hpipeline⟩ := Option.map_eq_some_iff.mp h.pipeline
  refine ⟨_, .single (.finish s discarded h.decoding), rfl, rfl, ?_⟩
  show c.hub = s.pipeline.hub
  rw [← hpipeline]

end Session.Mirrors

namespace Controller

/-- Whatever session a controller has, it goes along with what becomes of the controller. The host does
not go on with closing meanwhile. -/
def Accompanied (c c' : Controller) : Prop :=
  ∀ s : Session, s.Mirrors c → ∃ s', s.Run s' ∧ s'.closing = s.closing ∧ s'.Mirrors c'

namespace Accompanied

variable {c c' c'' : Controller}

protected theorem refl (c : Controller) : Accompanied c c := fun s h => ⟨s, .refl, rfl, h⟩

theorem trans (h : Accompanied c c') (h' : Accompanied c' c'') : Accompanied c c'' := by
  intro s hs
  obtain ⟨a, hrun, hclosing, ha⟩ := h s hs
  obtain ⟨b, hrun', hclosing', hb⟩ := h' a ha
  exact ⟨b, hrun.trans hrun', hclosing'.trans hclosing, hb⟩

theorem payload (c : Controller) (bytes : Bytes) :
    Accompanied c (StreamClient.payload (ν := Call) bytes c).2 := by
  intro s h
  rcases h.takes with hruns | hother
  · have hdone := h.doing .transfers (f := (·.payload bytes)) (.inl (s.pipeline.state_payload bytes))
    -- The session remembers the payload besides.
    exact ⟨s.received bytes, .single (.payload s bytes hruns (h.reports _)), rfl,
      hdone.pipeline, hdone.reports, hdone.decoding, hdone.takes⟩
  · exact ⟨s, .refl, rfl, h.idle hother fun p other => Pipeline.payload_of_other other bytes⟩

theorem fault (c : Controller) (fault : StreamFault) :
    Accompanied c (StreamClient.fault (ν := Call) fault c).2 := by
  intro s h
  rcases h.takes with hruns | hother
  · exact ⟨_, Session.run_fault hruns (h.reports _) fault, rfl,
      h.doing .transfers (Pipeline.onward_terminate _ _)⟩
  · exact ⟨s, .refl, rfl, h.idle hother fun p other => Pipeline.terminate_of_other other _⟩

theorem work (c : Controller) : Accompanied c (c.withPipeline Pipeline.work).2 := fun s h =>
  ⟨_, Session.run_work h.decoding, rfl, h.doing .worker s.pipeline.onward_work⟩

theorem workTurns (c : Controller) (turns : Nat) :
    Accompanied c (c.withPipeline (·.workTurns turns)).2 := by
  induction turns generalizing c with
  | zero =>
    have hsame : (c.withPipeline (·.workTurns 0)).2 = c := by
      obtain ⟨settings, codecs, state, hub, catalog, stream⟩ := c
      cases stream <;> rfl
    rw [hsame]
    exact .refl c
  | succ turns ih =>
    have hturn : (c.withPipeline (·.workTurns (turns + 1))).2 =
        ((c.withPipeline Pipeline.work).2.withPipeline (·.workTurns turns)).2 := by
      obtain ⟨settings, codecs, state, hub, catalog, stream⟩ := c
      cases stream <;> rfl
    rw [hturn]
    exact (work c).trans (ih _)

theorem workOff (c : Controller) : Accompanied c (StreamClient.work (ν := Call) c).2 := by
  obtain ⟨settings, codecs, state, hub, catalog, stream⟩ := c
  cases stream with
  | none => exact .refl _
  | some stream => exact workTurns _ stream.stages.queue.frames.length

theorem relay (c : Controller) (outputs : List DispatchOutput) :
    Accompanied c (UsbVideo.relay (ν := Call) c outputs).2 := by
  induction outputs generalizing c with
  | nil => exact .refl c
  | cons output outputs ih =>
    cases output with
    | log line => exact ih c
    | payload bytes => exact (payload c bytes).trans (ih _)

/-- A step of its task. -/
theorem step {σ : Type} [Transport σ] {t : DispatchTask} {now : Nat} {device : σ}
    {s : TaskStep σ Controller Call} (h : t.step now c device = some s) : Accompanied c s.client := by
  cases DispatchTask.step_move h with
  | stop | leave | reclaim => exact .refl c
  | receive | retry => exact relay c _
  | finish deadline reason before =>
    cases reason with
    | none => exact .refl c
    | some reason => exact fault c reason

end Accompanied

end Controller

namespace World

variable {σ : Type} [Transport σ] {w w' : World (Ledger σ) Controller Call} {i : Nat}
  {c : Controller}

/-- By itself a world leads a controller on, and its session goes along. -/
theorem BackgroundStep.accompanied (h : BackgroundStep w w') (served : w.Served)
    (there : w.clients[i]? = some c) : ∃ c', w'.clients[i]? = some c' ∧ c.Accompanied c' := by
  cases h with
  | task ht hclient hstep =>
    rename_i t client s
    obtain ⟨ready, hafter⟩ := afterSteps_eq served.distinct ht (DispatchTask.step_books hstep).mailbox
    rw [hafter]
    by_cases hi : t.client = i
    · subst hi
      obtain rfl : client = c := Option.some.inj (hclient.symm.trans there)
      exact ⟨s.client, List.getElem?_set_self (List.getElem?_eq_some_iff.mp there).1, .step hstep⟩
    · exact ⟨c, (List.getElem?_set_ne hi).trans there, .refl c⟩
  | client j =>
    unfold runClient
    split
    · exact ⟨c, there, .refl c⟩
    · next client hclient =>
      by_cases hi : j = i
      · subst hi
        obtain rfl : client = c := Option.some.inj (hclient.symm.trans there)
        exact ⟨_, List.getElem?_set_self (List.getElem?_eq_some_iff.mp there).1, .workOff client⟩
      · exact ⟨c, (List.getElem?_set_ne hi).trans there, .refl c⟩
  | pass time =>
    obtain ⟨ready, hpass⟩ := w.advanceTo_eq time
    rw [hpass]
    exact ⟨c, there, .refl c⟩
  | schedule ready => exact ⟨c, there, .refl c⟩

theorem Background.accompanied (h : Background w w') (served : w.Served)
    (there : w.clients[i]? = some c) : ∃ c', w'.clients[i]? = some c' ∧ c.Accompanied c' := by
  induction h with
  | refl => exact ⟨c, there, .refl c⟩
  | tail h hstep ih =>
    obtain ⟨a, ha, hfirst⟩ := ih
    obtain ⟨b, hb, hnext⟩ := hstep.accompanied (Background.served h served) ha
    exact ⟨b, hb, hfirst.trans hnext⟩

/-! ### What the host asks for -/

variable {s : Session}

/-- What is started for a controller leaves the controllers alone. -/
theorem clients_start {plan : TransferPlan} {mailbox : Mailbox} (h : (w.start i plan).1 = .ok mailbox) :
    (w.start i plan).2.clients = w.clients := by
  unfold start at h ⊢
  rcases w.tryStart_cases i plan with ⟨error, heq⟩ | ⟨claims, size, pool, -, heq⟩
  · rw [heq] at h
    cases h
  · obtain ⟨refused, t, ready, trace, -, -, -, -, -, -, -, hlaunch⟩ :=
      { w with claims }.launch_eq i (.endpoint (Transport.deviceId w.device) plan.endpoint) plan size pool
    rw [hlaunch] at heq
    rw [heq] at h ⊢
    cases refused with
    | none => rfl
    | some error => cases h

theorem client_startStream {k : Controller} {config : StreamConfig} (there : w.clients[i]? = some k)
    (h : (w.startStream i c config).1 = .ok ()) :
    ∃ mailbox, (w.startStream i c config).2.clients[i]? =
      some { k with state := .streaming, stream := some ⟨config, mailbox, k.stagesFor config⟩ } := by
  unfold startStream at h ⊢
  obtain ⟨device, -, ⟨error, heq⟩ | heq⟩ := w.selectFor_eq i config
  · rw [heq] at h
    cases h
  · rw [heq] at h ⊢
    dsimp only at h ⊢
    generalize hselected :
      { w with device }.modifyController i (fun c => { c with state := .streaming }) = selected at h ⊢
    have hthere : selected.clients[i]? = some { k with state := .streaming } := by
      rw [← hselected, modifyController, List.getElem?_modify_eq, there]
      rfl
    rcases hstart : selected.start i (config.plan c.settings.transfer) with ⟨error | mailbox, w'⟩
    · rw [hstart] at h
      cases h
    · have hclients := clients_start (w := selected) (congrArg Prod.fst hstart)
      rw [hstart] at hclients
      refine ⟨mailbox, ?_⟩
      show (w'.clients.modify i _)[i]? = _
      rw [List.getElem?_modify_eq, hclients, hthere]
      rfl

theorem client_bringUp {k : Controller} (request : StreamRequest) {config : StreamConfig}
    (there : w.clients[i]? = some k) (h : (w.bringUp i c request).1 = .ok config) :
    ∃ catalog mailbox, (w.bringUp i c request).2.clients[i]? =
      some { k with
        state := .streaming
        catalog := some catalog
        stream := some ⟨config, mailbox, k.stagesFor config⟩ } := by
  unfold bringUp at h ⊢
  obtain ⟨device, trace, -, ⟨error, heq⟩ | ⟨agreed, catalog, heq⟩⟩ := w.agreeFor_eq i c request
  · rw [heq] at h
    cases h
  · rw [heq] at h ⊢
    dsimp only at h ⊢
    generalize hcatalog : { w with device, trace }.modifyController i
      (fun c => { c with catalog := some catalog }) = keeps at h ⊢
    have hthere : keeps.clients[i]? = some { k with catalog := some catalog } := by
      rw [← hcatalog, modifyController, List.getElem?_modify_eq, there]
      rfl
    cases hstarted : (keeps.startStream i c agreed).1 with
    | error error =>
      rw [hstarted] at h
      cases h
    | ok =>
      rw [hstarted] at h
      cases h
      obtain ⟨mailbox, hclient⟩ := client_startStream hthere hstarted
      exact ⟨catalog, mailbox, hclient⟩

/-- A stream that is opened begins a session. -/
theorem openStream_mirrored {request : StreamRequest} {config : StreamConfig}
    (there : w.clients[i]? = some c) (h : (w.openStream i request).1 = .ok config) :
    ∃ c', (w.openStream i request).2.clients[i]? = some c' ∧ (Session.start c config).Mirrors c' := by
  unfold openStream at h ⊢
  rw [there] at h ⊢
  dsimp only at h ⊢
  by_cases hclosed : c.state = .closed
  · rw [if_neg (not_not_intro hclosed)] at h ⊢
    cases hacquire : w.claims.acquire w.deviceClaim with
    | none =>
      rw [hacquire] at h
      cases h
    | some claims =>
      rw [hacquire] at h
      dsimp only at h ⊢
      generalize hclaimed :
        { w with claims }.modifyController i Controller.negotiating = claimed at h ⊢
      have hthere : claimed.clients[i]? = some c.negotiating := by
        rw [← hclaimed, modifyController, List.getElem?_modify_eq, there]
        rfl
      rcases hbrought : claimed.bringUp i c request with ⟨error | agreed, w'⟩
      · rw [hbrought] at h
        cases h
      · rw [hbrought] at h
        cases h
        obtain ⟨catalog, mailbox, hclient⟩ :=
          client_bringUp request hthere (congrArg Prod.fst hbrought)
        rw [hbrought] at hclient
        exact ⟨_, hclient, rfl, fun _ => rfl, rfl, .inl rfl⟩
  · rw [if_pos hclosed] at h
    cases h

omit [Transport σ] in
/-- The notice that the device is gone. -/
theorem notifyDisconnect_mirrored (there : w.clients[i]? = some c) (h : s.Mirrors c)
    (opened : s.closing = .no) :
    ∃ s' c', s.Run s' ∧ s'.closing = .no ∧ (w.notifyDisconnect i).clients[i]? = some c' ∧
      s'.Mirrors c' := by
  refine ⟨_, _, Session.run_disconnect opened (h.reports _), opened, ?_,
    h.doing .host (Pipeline.onward_terminate _ _)⟩
  rw [notifyDisconnect, there]
  exact List.getElem?_set_self (List.getElem?_eq_some_iff.mp there).1

/-- To close a stream is to stop, to throw away what waits and to finish; whatever happens while the host
waits is a run of the session too. -/
theorem closeStream_mirrored (served : w.Served) (there : w.clients[i]? = some c) (h : s.Mirrors c)
    (opened : s.closing = .no) :
    ∃ s' c', s.Run s' ∧ s'.closing = .done ∧ (w.closeStream i).clients[i]? = some c' ∧
      c'.state = s'.pipeline.state ∧ c'.hub = s'.pipeline.hub ∧ c'.stream = none := by
  obtain ⟨stream, hstream, -⟩ := Option.map_eq_some_iff.mp h.pipeline
  let begun := w.beginClose i stream.mailbox
  let waited := begun.awaitEnd stream.mailbox
  let thrown := waited.modifyController i Controller.discardFrames
  have hclose : w.closeStream i = thrown.runReady.endClose i stream.config := by
    rw [closeStream, stream?, there, Option.bind_some, hstream]
  -- The host stops the stream, and waits for the transfers.
  obtain ⟨a, hstop, hstopping, hother, ha⟩ := h.stop opened
  have hbegun : begun.clients[i]? = some { c with state := .stopping } := by
    obtain ⟨tasks, ready, -, heq⟩ := w.beginClose_eq i stream.mailbox
    rw [show begun = _ from heq, List.getElem?_modify_eq, there]
    rfl
  have hserved : begun.Served := served.beginClose i stream.mailbox
  have hwait : Background begun waited := .awaitEnd hserved stream.mailbox
  obtain ⟨back, hback, haccompanied⟩ := hwait.accompanied hserved hbegun
  obtain ⟨a', hwaited, hclosing, ha'⟩ := haccompanied a ha
  -- It throws away what waits. Jobs that were woken still run.
  obtain ⟨b, hdiscard, hdiscarded, hb⟩ :=
    ha'.discard (hclosing.trans hstopping) (hwaited.silent hother).state
  have hthrown : thrown.clients[i]? = some back.discardFrames := by
    rw [show thrown.clients[i]? = _ from List.getElem?_modify_eq .., hback]
    rfl
  have hserved' : thrown.Served :=
    (hwait.served hserved).same rfl (Nat.le_refl _) (List.length_modify ..) rfl
  obtain ⟨last, hlast, haccompanied'⟩ := (Background.runReady hserved').accompanied hserved' hthrown
  obtain ⟨b', hready, hclosing', hb'⟩ := haccompanied' b hb
  -- It gives back what it claimed.
  obtain ⟨s', hfinish, hdone, hstate, hhub⟩ := hb'.finish (hclosing'.trans hdiscarded)
  obtain ⟨device, trace, -, heq⟩ := thrown.runReady.endClose_eq i stream.config
  refine ⟨s', last.closed, ?_, hdone, ?_, hstate, hhub, rfl⟩
  · exact hstop.trans (hwaited.trans (hdiscard.trans (hready.trans hfinish)))
  · rw [hclose, heq, List.getElem?_modify_eq, hlast]
    rfl

end World

end UsbVideo
