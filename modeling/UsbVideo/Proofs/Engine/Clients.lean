import UsbVideo.Proofs.Engine.Claims

/-!
# What the background does to a controller

While nobody calls a controller, its stream is at work: the task hands on payloads and in the end a
fault, the worker decodes. Of all that the lifecycle sees one thing, the step from streaming to faulted:

    streaming ──a fault of the transfers, too many failed decodes, the device is gone──▶ faulted

`Controller.Onward` says so, and that catalog, configuration and mailbox stay. Every way into a
controller is shown to be onward: the three of `StreamClient` and the notice of the host.
-/

namespace UsbVideo

/-! ### Pipelines -/

namespace StreamState

/-- The state stays, or a stream faults. -/
def Onward (before after : StreamState) : Prop :=
  after = before ∨ before = .streaming ∧ after = .faulted

theorem Onward.trans {a b c : StreamState} (h : Onward a b) (h' : Onward b c) : Onward a c := by
  rcases h with rfl | ⟨hstreaming, rfl⟩
  · exact h'
  · rcases h' with rfl | ⟨hcontra, -⟩
    · exact .inr ⟨hstreaming, rfl⟩
    · cases hcontra

end StreamState

namespace Pipeline

open StreamState (Onward)

theorem state_enqueue (p : Pipeline) (frame : CompletedFrame) : (p.enqueue frame).2.state = p.state := by
  unfold enqueue
  dsimp only
  split <;> rfl

theorem state_route (p : Pipeline) (outcome : Outcome) : (p.route outcome).2.state = p.state := by
  cases outcome with
  | frame frame => exact p.state_enqueue frame
  | _ => rfl

theorem state_routeAll (p : Pipeline) (outcomes : List Outcome) :
    (p.routeAll outcomes).2.state = p.state := by
  induction outcomes generalizing p with
  | nil => rfl
  | cons outcome outcomes ih => exact (ih _).trans (p.state_route outcome)

/-- Payloads do not end a stream. -/
theorem state_payload (p : Pipeline) (bytes : Bytes) : (p.payload bytes).2.state = p.state := by
  unfold payload
  split
  · exact state_routeAll _ _
  · rfl

theorem onward_terminate (p : Pipeline) (event : StreamEvent) :
    Onward p.state (p.terminate event).2.state := by
  unfold terminate
  split
  · next hstreaming => exact .inr ⟨hstreaming, rfl⟩
  · exact .inl rfl

theorem onward_report (p : Pipeline) (sequence : Nat) (result : Except DecodeError DecodedFrame) :
    Onward p.state (p.report sequence result).2.state := by
  unfold report
  split
  · cases result with
    | ok frame => exact .inl rfl
    | error e =>
      dsimp only
      split
      · exact onward_terminate _ _
      · exact .inl rfl
  · exact .inl rfl

theorem onward_work (p : Pipeline) : Onward p.state p.work.2.state := by
  unfold work
  split
  · exact onward_report _ _ _
  · exact .inl rfl

end Pipeline

/-! ### Controllers -/

namespace Controller

/-- What happens to a controller nobody calls: its stream may fault, and nothing else changes that the
host can ask for. -/
structure Onward (c c' : Controller) : Prop where
  catalog : c'.catalog = c.catalog
  stream : c'.stream.map (fun s => (s.config, s.mailbox)) = c.stream.map fun s => (s.config, s.mailbox)
  state : c.state.Onward c'.state
  /-- Without a stream there is nothing that could fault. -/
  idle : c.stream = none → c'.state = c.state

namespace Onward

variable {c c' c'' : Controller}

protected theorem refl (c : Controller) : Onward c c := ⟨rfl, rfl, .inl rfl, fun _ => rfl⟩

theorem isSome_stream (h : Onward c c') : c'.stream.isSome = c.stream.isSome := by
  simpa using congrArg Option.isSome h.stream

theorem stream_none (h : Onward c c') : c'.stream = none ↔ c.stream = none := by
  rw [← Option.not_isSome_iff_eq_none, ← Option.not_isSome_iff_eq_none, h.isSome_stream]

theorem trans (h : Onward c c') (h' : Onward c' c'') : Onward c c'' where
  catalog := h'.catalog.trans h.catalog
  stream := h'.stream.trans h.stream
  state := h.state.trans h'.state
  idle := fun hnone => (h'.idle (h.stream_none.mpr hnone)).trans (h.idle hnone)

end Onward

theorem onward_withPipeline (c : Controller) {f : Pipeline → List (Effect Call) × Pipeline}
    (hf : ∀ p : Pipeline, p.state.Onward (f p).2.state) : Onward c (c.withPipeline f).2 := by
  obtain ⟨settings, codecs, state, hub, catalog, stream⟩ := c
  cases stream with
  | none => exact .refl _
  | some s => exact ⟨rfl, rfl, hf ⟨s.stages, state, hub⟩, fun hnone => nomatch hnone⟩

theorem onward_payload (c : Controller) (bytes : Bytes) :
    Onward c (StreamClient.payload (ν := Call) bytes c).2 :=
  c.onward_withPipeline fun p => .inl (p.state_payload bytes)

theorem onward_fault (c : Controller) (fault : StreamFault) :
    Onward c (StreamClient.fault (ν := Call) fault c).2 :=
  c.onward_withPipeline fun p => p.onward_terminate _

theorem onward_relay (c : Controller) (outputs : List DispatchOutput) :
    Onward c (relay (ν := Call) c outputs).2 := by
  induction outputs generalizing c with
  | nil => exact .refl c
  | cons output outputs ih =>
    cases output with
    | log line => exact ih c
    | payload bytes => exact (c.onward_payload bytes).trans (ih _)

end Controller

namespace DispatchTask

variable {σ : Type}

theorem onward_conclude (t : DispatchTask) (fault : Option StreamFault) (before : List (Effect Call))
    (c : Controller) (device : σ) : c.Onward (t.conclude fault before c device).client := by
  cases fault with
  | none => exact .refl c
  | some fault => exact c.onward_fault fault

/-- A step of its task leads a controller onward. -/
theorem onward_step [Transport σ] {t : DispatchTask} {now : Nat} {c : Controller} {device : σ}
    {s : TaskStep σ Controller Call} (h : t.step now c device = some s) : c.Onward s.client := by
  cases step_move h with
  | stop | leave | reclaim => exact .refl c
  | receive | retry => exact c.onward_relay _
  | finish deadline fault before => exact t.onward_conclude fault before c device

end DispatchTask

end UsbVideo
