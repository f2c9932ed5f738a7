import UsbVideo.Proofs.Engine.Background
import UsbVideo.Proofs.Engine.Parts

/-!
# The background of an engine

What a world of controllers does by itself is made of the steps of an engine: of its tasks, and of its
workers, which take a turn for each frame. `World.Drifts` says so of two worlds, whatever calls are in
progress. Drifts compose, and the background of a world is one (`Background.drifts`).
-/

namespace UsbVideo

variable {σ : Type} [Transport σ]

namespace Engine

/-- One thing after the other. -/
def Run : Engine σ → Engine σ → Prop := Relation.ReflTransGen fun a b => ∃ event, Step a event b

/-- One thing after the other, and no call comes further. -/
def Background : Engine σ → Engine σ → Prop :=
  Relation.ReflTransGen fun a b => ∃ event, Step a event b ∧ b.calls = a.calls

end Engine

namespace World

/-- The background leads from one world to the other. -/
structure Drifts (w w' : World (Ledger σ) Controller Call) : Prop where
  background : ∀ e : Engine σ, e.world = w → Engine.Background e { e with world := w' }
  served : w.Served → w'.Served
  clients : w'.clients.length = w.clients.length

namespace Drifts

variable {w w' w'' : World (Ledger σ) Controller Call}

protected theorem refl (w : World (Ledger σ) Controller Call) : Drifts w w where
  background := by
    rintro e rfl
    exact .refl
  served := id
  clients := rfl

theorem trans (h : Drifts w w') (h' : Drifts w' w'') : Drifts w w'' where
  background e he := (h.background e he).trans (h'.background { e with world := w' } rfl)
  served hw := h'.served (h.served hw)
  clients := h'.clients.trans h.clients

/-- Jobs may be scheduled in any order. -/
theorem schedule (w : World (Ledger σ) Controller Call) (ready : List Job) :
    Drifts w { w with ready } where
  background := by
    rintro e rfl
    exact .single ⟨_, .schedule e ready e.world.memory, rfl⟩
  served served := served.same rfl (Nat.le_refl _) rfl rfl
  clients := rfl

theorem pass (w : World (Ledger σ) Controller Call) (time : Nat) : Drifts w (w.advanceTo time) where
  background := by
    rintro e rfl
    exact .single ⟨_, .pass e time, rfl⟩
  served served := served.advanceTo time
  clients := by
    obtain ⟨ready, heq⟩ := w.advanceTo_eq time
    rw [heq]

theorem worker (w : World (Ledger σ) Controller Call) (index : Nat)
    {move : Pipeline → List (Effect Call) × Pipeline} (worker : WorkerMove move) :
    Drifts w (w.onPipeline index move) where
  background := by
    rintro e rfl
    exact .single ⟨_, .worker e index worker, rfl⟩
  served := by
    rcases w.onPipeline_eq index worker.onward with hsame | ⟨c, c', trace, -, -, heq⟩
    · rw [hsame]
      exact id
    · rw [heq]
      exact fun served => served.same rfl (Nat.le_refl _) List.length_set rfl
  clients := by
    rcases w.onPipeline_eq index worker.onward with hsame | ⟨c, c', trace, -, -, heq⟩
    · rw [hsame]
    · rw [heq]
      exact List.length_set

/-- A step of a task. -/
theorem task {t : RunningTask} {c : Controller} {s : TaskStep (Ledger σ) Controller Call}
    (served : w.Served) (ht : t ∈ w.tasks) (there : w.clients[t.client]? = some c)
    (hstep : t.task.step w.now c w.device = some s) : Drifts w (w.afterSteps t s) := by
  have heq : w.stepTask t.mailbox = w.afterSteps t s := by
    unfold stepTask
    rw [task?_eq served.distinct ht]
    dsimp only
    rw [there]
    dsimp only
    rw [hstep]
  obtain ⟨ready, hafter⟩ := afterSteps_eq served.distinct ht (DispatchTask.step_books hstep).mailbox
  refine ⟨?_, fun _ => served.afterSteps ht (DispatchTask.step_ran hstep), ?_⟩
  · rintro e rfl
    rw [← heq]
    exact .single ⟨_, .task e t.mailbox, rfl⟩
  · rw [hafter]
    exact List.length_set

end Drifts

/-! ### Workers -/

omit [Transport σ] in
theorem onPipeline_none (w : World (Ledger σ) Controller Call) (index : Nat) :
    w.onPipeline index (fun p => ([], p)) = w := by
  unfold onPipeline
  split
  · rfl
  · next c there =>
    have hkeeps : c.withPipeline (fun p => ([], p)) = ([], c) := by
      obtain ⟨settings, codecs, state, hub, catalog, stream⟩ := c
      cases stream <;> rfl
    obtain ⟨hlt, rfl⟩ := List.getElem?_eq_some_iff.mp there
    simp [hkeeps, setClient, emit]

omit [Transport σ] in
/-- Two things happen in the pipeline of a controller, one after the other. -/
theorem onPipeline_onPipeline (w : World (Ledger σ) Controller Call) (index : Nat)
    (f g : Pipeline → List (Effect Call) × Pipeline) :
    (w.onPipeline index f).onPipeline index g =
      w.onPipeline index fun p => ((f p).1 ++ (g (f p).2).1, (g (f p).2).2) := by
  have htwice : ∀ c : Controller,
      c.withPipeline (fun p => ((f p).1 ++ (g (f p).2).1, (g (f p).2).2)) =
        ((c.withPipeline f).1 ++ ((c.withPipeline f).2.withPipeline g).1,
          ((c.withPipeline f).2.withPipeline g).2) := by
    intro c
    obtain ⟨settings, codecs, state, hub, catalog, stream⟩ := c
    cases stream <;> rfl
  cases there : w.clients[index]? with
  | none => simp [onPipeline, there]
  | some c =>
    have hlt : index < w.clients.length := (List.getElem?_eq_some_iff.mp there).1
    simp [onPipeline, htwice, setClient, emit, hlt]

/-- The worker takes one frame after the other. -/
theorem drifts_workTurns (turns : Nat) (w : World (Ledger σ) Controller Call) (index : Nat) :
    Drifts w (w.onPipeline index (·.workTurns turns)) := by
  induction turns generalizing w with
  | zero =>
    have hnone : w.onPipeline index (·.workTurns 0) = w := w.onPipeline_none index
    rw [hnone]
    exact .refl w
  | succ turns ih =>
    have hsplit : w.onPipeline index (·.workTurns (turns + 1)) =
        (w.onPipeline index Pipeline.work).onPipeline index (·.workTurns turns) :=
      (w.onPipeline_onPipeline index Pipeline.work (·.workTurns turns)).symm
    rw [hsplit]
    exact (Drifts.worker w index .turn).trans (ih _)

/-- A client does its background work. -/
theorem drifts_runClient (w : World (Ledger σ) Controller Call) (index : Nat) :
    Drifts w (w.runClient index) := by
  have hturns : ∃ turns, w.runClient index = w.onPipeline index (·.workTurns turns) := by
    cases there : w.clients[index]? with
    | none => exact ⟨0, by simp only [runClient, onPipeline, there]⟩
    | some c =>
      simp only [runClient, onPipeline, there]
      obtain ⟨settings, codecs, state, hub, catalog, stream⟩ := c
      cases stream with
      | none => exact ⟨0, rfl⟩
      | some s => exact ⟨s.stages.queue.frames.length, rfl⟩
  obtain ⟨turns, heq⟩ := hturns
  rw [heq]
  exact drifts_workTurns turns w index

/-- The background of a world is one of an engine. -/
theorem Background.drifts {w w' : World (Ledger σ) Controller Call} (h : Background w w')
    (served : w.Served) : Drifts w w' := by
  induction h with
  | refl => exact .refl w
  | tail _ hstep ih =>
    refine ih.trans ?_
    cases hstep with
    | task ht there hstep => exact .task (ih.served served) ht there hstep
    | client index => exact drifts_runClient _ index
    | pass time => exact .pass _ time
    | schedule ready => exact .schedule _ ready

end World

end UsbVideo
