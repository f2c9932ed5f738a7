import UsbVideo.Proofs.Engine.Lifecycle

/-!
# Endless runs

To be fair is much to ask of a run: nobody is passed over, time goes on, and the bus stack keeps its
contract for ever. There are such runs. When everything has come to rest, time may pass for ever
(`Rests.fair`), and any step may come before a fair run (`Fair.cons`), so a finite run that leads to
rest is the beginning of a fair one (`Reachable.fair`). The camera that was unplugged closes on one.
-/

namespace UsbVideo

namespace Engine

variable {σ : Type} [Transport σ] {name : String} {e : Engine σ} {event : Event} {i j : Nat}

/-! ### Beginnings and ends -/

/-- A step may come before a fair run. -/
theorem Fair.cons {run : Nat → Engine σ} (h : Fair name run) (reachable : Reachable name e)
    (hs : Step e event (run 0)) : Fair name fun n => n.casesOn e run where
  start := reachable
  next
    | 0 => ⟨event, hs⟩
    | n + 1 => h.next n
  contract
    | 0 => reachable.contract
    | n + 1 => h.contract n
  time := by
    intro moment
    obtain ⟨n, hn⟩ := h.time moment
    exact ⟨n + 1, hn⟩
  turns := by
    rintro (_ | n) t ht
    · -- The task is still there after the step.
      have hstill : ∃ t' ∈ (run 0).world.tasks, t'.mailbox = t.mailbox := by
        obtain ⟨t', ht', hkept | ⟨c, s, hstep, hkept⟩⟩ := hs.tasks reachable.sound.accounts.distinct ht
        · exact ⟨t', ht', hkept.mailbox⟩
        · exact ⟨t', ht', hkept.mailbox.trans (DispatchTask.step_books hstep).mailbox⟩
      obtain ⟨t', ht', hsame⟩ := hstill
      obtain ⟨k, -, hturn⟩ := h.turns 0 t' ht'
      rw [hsame] at hturn
      exact ⟨k + 1, Nat.zero_le _, hturn⟩
    · obtain ⟨k, hk, hturn⟩ := h.turns n t ht
      exact ⟨k + 1, Nat.succ_le_succ hk, hturn⟩
  calls := by
    rintro (_ | n) i u calling waited
    · by_cases hgone : (run 0).calls i = some u
      · obtain ⟨c, there⟩ := reachable.called i u calling
        obtain ⟨c', there'⟩ := hs.there reachable.sound there
        obtain ⟨k, -, hk⟩ := h.goes_on there' hgone
        exact ⟨k + 1, Nat.zero_le _, hk⟩
      · exact ⟨1, Nat.zero_le 1, hgone⟩
    · obtain ⟨k, hk, hgone⟩ := h.calls n i u calling waited
      exact ⟨k + 1, Nat.succ_le_succ hk, hgone⟩

/-- Nobody is called, and every task has ended. -/
structure Rests (e : Engine σ) : Prop where
  free : ∀ i, e.calls i = none
  ended : ∀ t ∈ e.world.tasks, t.task.isEnded = true

/-- At rest a task that is woken goes back to sleep. -/
theorem Rests.stepTask (rests : e.Rests) (mailbox : Mailbox) : e.world.stepTask mailbox = e.world := by
  rcases e.world.stepTask_cases mailbox with hsame | ⟨t, c, s, ht, -, hstep, -⟩
  · exact hsame
  · have hgoes := DispatchTask.goes_of_step hstep
    rw [rests.ended t ht] at hgoes
    cases hgoes

omit [Transport σ] in
/-- At rest nothing happens while time passes. -/
theorem Rests.advanceTo (rests : e.Rests) (time : Nat) :
    e.world.advanceTo time = { e.world with now := max e.world.now time } := by
  have hnobody : { e.world with now := max e.world.now time }.dueTasks = [] := by
    rw [World.dueTasks, List.map_eq_nil_iff, ← List.length_eq_zero_iff, List.length_mergeSort,
      List.length_eq_zero_iff, List.filterMap_eq_nil_iff]
    intro t ht
    rw [DispatchTask.dueAt, DispatchTask.isEnded_iff.mp (rests.ended t ht)]
  rw [World.advanceTo, hnobody]
  rfl

/-- Time may pass for ever. -/
theorem Rests.fair (rests : e.Rests) (h : Reachable name e) :
    Fair name fun n => { e with world := { e.world with now := e.world.now + n / 2 } } := by
  have hrests : ∀ time, { e with world := { e.world with now := time } }.Rests := fun _ =>
    ⟨rests.free, rests.ended⟩
  refine ⟨h, fun n => ⟨.other, ?_⟩, fun n => ?_, fun moment => ⟨2 * moment, ?_⟩, fun n t ht => ?_, ?_⟩
  · have hpass := Step.pass { e with world := { e.world with now := e.world.now + n / 2 } }
      (e.world.now + (n + 1) / 2)
    rw [(hrests _).advanceTo] at hpass
    have hlater :
        max (e.world.now + n / 2) (e.world.now + (n + 1) / 2) = e.world.now + (n + 1) / 2 := by omega
    rwa [hlater] at hpass
  · refine ⟨h.contract.name, h.contract.honest, fun t ht deadline fault hphase => ?_⟩
    have hended := DispatchTask.isEnded_iff.mp (rests.ended t ht)
    rw [hphase] at hended
    cases hended
  · dsimp only
    omega
  · -- Every other step is a turn for whoever wants it.
    refine ⟨2 * n, by omega, ?_⟩
    rw [(hrests _).stepTask]
    have hsame : (2 * n + 1) / 2 = 2 * n / 2 := by omega
    rw [hsame]
  · intro n i u calling
    rw [rests.free i] at calling
    cases calling

/-! ### From a call to rest -/

/-- Carry on with a call, after a step of a task. -/
def workOn (e : Engine σ) (index : Nat) (mailbox : Mailbox) : Engine σ :=
  { e with world := e.world.stepTask mailbox }.carryOn index

/-- Whether the bus stack keeps its contract while a task makes a number of steps and a call goes on. -/
def worksLawfully (name : String) (index : Nat) (mailbox : Mailbox) : Nat → Engine σ → Bool
  | 0, _ => true
  | n + 1, e =>
    { e with world := e.world.stepTask mailbox }.lawful name mailbox &&
      (e.workOn index mailbox).lawful name mailbox &&
        worksLawfully name index mailbox n (e.workOn index mailbox)

/-- A finite run that leads to rest is the beginning of a fair one. -/
theorem Reachable.fair (h : Reachable name e) (n index : Nat) (mailbox : Mailbox)
    (lawful : e.worksLawfully name index mailbox n = true)
    (rests : (fun e : Engine σ => e.workOn index mailbox)^[n] e |>.Rests) :
    ∃ run, Fair name run ∧ run 0 = e := by
  have hcons : ∀ {a b : Engine σ} {event : Event}, Reachable name a → Step a event b →
      (∃ run, Fair name run ∧ run 0 = b) → ∃ run, Fair name run ∧ run 0 = a := by
    rintro a b event ha hs ⟨run, hfair, rfl⟩
    exact ⟨_, hfair.cons ha hs, rfl⟩
  induction n generalizing e with
  | zero => exact ⟨_, Rests.fair rests h, rfl⟩
  | succ n ih =>
    simp only [worksLawfully, Bool.and_eq_true] at lawful
    obtain ⟨⟨hstep, hon⟩, hrest⟩ := lawful
    have htask := Step.task e mailbox
    have hreachable := h.step htask (.of_lawful mailbox hstep)
    have hcarry := carryOn_step { e with world := e.world.stepTask mailbox } index
    have hworked : Reachable name (e.workOn index mailbox) := by
      rcases hcarry with hsame | hcarry
      · rwa [workOn, hsame]
      · exact hreachable.step hcarry (.of_lawful mailbox hon)
    have hfair := ih hworked hrest rests
    refine hcons h htask ?_
    rcases hcarry with hsame | hcarry
    · rwa [workOn, hsame] at hfair
    · exact hcons hreachable hcarry hfair

omit [Transport σ] in
theorem calls_claimed (e : Engine σ) (request : StreamRequest) (claims : ClaimRegistry) (h : j ≠ i) :
    (e.claimed i request claims).calls j = e.calls j := Function.update_of_ne h ..

theorem calls_carryOn (e : Engine σ) (h : j ≠ i) : (e.carryOn i).calls j = e.calls j := by
  unfold carryOn
  split
  · split
    · exact Function.update_of_ne h ..
    · rfl
  · rfl

theorem calls_workOn (e : Engine σ) (mailbox : Mailbox) (h : j ≠ i) (n : Nat) :
    ((fun e : Engine σ => e.workOn i mailbox)^[n] e).calls j = e.calls j := by
  induction n generalizing e with
  | zero => rfl
  | succ n ih =>
    rw [Function.iterate_succ_apply, ih, workOn, calls_carryOn _ h]

/-- The camera is gone, and its controller is told to close. -/
def closingUnplugged : Engine Loopback :=
  match unplugged.world.stream? 0 with
  | some s => unplugged.closing 0 s
  | none => unplugged

theorem closingUnplugged_eq : ∃ c s, unplugged.Idle 0 c ∧ c.stream = some s ∧
    closingUnplugged = unplugged.closing 0 s := by
  have hopen : (unplugged.world.stream? 0).isSome = true := by decide +kernel
  obtain ⟨s, hstream⟩ := Option.isSome_iff_exists.mp hopen
  obtain ⟨c, there, hsome⟩ := Option.bind_eq_some_iff.mp hstream
  exact ⟨c, s, ⟨there, by decide +kernel, by decide +kernel⟩, hsome, by rw [closingUnplugged, hstream]⟩

/-- Nobody else is ever called. -/
theorem calls_closingUnplugged (hj : j ≠ 0) : closingUnplugged.calls j = none := by
  obtain ⟨c, s, -, -, heq⟩ := closingUnplugged_eq
  have hopened : opened.calls j = none := by
    rw [opened, calls_carryOn _ hj, calls_carryOn _ hj, calls_carryOn _ hj, calls_claimed _ _ _ hj]
    rfl
  rw [heq]
  exact (Function.update_of_ne hj ..).trans hopened

/-- It closes on a fair run. -/
theorem fair_closingUnplugged :
    closingUnplugged.Closing 0 ∧ ∃ run, Fair "camera" run ∧ run 0 = closingUnplugged := by
  obtain ⟨c, s, hidle, hstream, heq⟩ := closingUnplugged_eq
  have hclose := Step.close unplugged 0 c s hidle hstream
  rw [← heq] at hclose
  have hreachable : Reachable "camera" closingUnplugged :=
    reachable_unplugged.step hclose (.of_lawful 0 (by decide +kernel))
  refine ⟨hclose.closes, hreachable.fair 36 0 0 (by decide +kernel) ⟨fun j => ?_, fun t ht => ?_⟩⟩
  · by_cases hj : j = 0
    · rw [hj]
      decide +kernel
    · rw [calls_workOn _ _ hj, calls_closingUnplugged hj]
  · have hended : ((fun e : Engine Loopback => e.workOn 0 0)^[36] closingUnplugged).world.tasks.all
        (·.task.isEnded) = true := by decide +kernel
    exact List.all_eq_true.mp hended t ht

end Engine

end UsbVideo
