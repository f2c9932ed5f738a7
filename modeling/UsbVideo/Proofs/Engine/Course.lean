import Mathlib.Data.Prod.Lex
import UsbVideo.Proofs.Engine.Invariant
import UsbVideo.Proofs.Engine.Turns

/-!
# What one step does to a controller, a call and a task

Whatever happens, one controller, one call and one task go on in one of few ways, and these are all that
is needed to follow them along a run:

    controller   goes onward, or is the one that is called              `Step.clients`
    call         stays where it is, or its next part is carried out     `Step.calls`
    task         is kept, or makes a step of its own                    `Step.tasks`

A call comes nearer to its end with every part (`Undertaking.left`), and a task that winds down with
every step of its own (`DispatchTask.toGo`).
-/

namespace UsbVideo

/-! ### Calls -/

/-- Parts left of a call, at most. -/
def Undertaking.left : Undertaking → Nat
  | agree _ => 6
  | select _ => 5
  | launch _ => 4
  | unwind .. => 3
  | reset .. | drain .. => 2
  | giveUp _ | release _ => 1

namespace World

variable {σ : Type}

/-- What a part of a call leads to, as far as one controller, the tasks and the call itself are
concerned. -/
structure Proceeded (w : World (Ledger σ) Controller Call) (i : Nat) (u : Undertaking)
    (w' : World (Ledger σ) Controller Call) (next : Option Undertaking) : Prop where
  /-- A call does not make a controller faulted, and closing ends in closed. -/
  clients : ∃ f : Controller → Controller, w'.clients = w.clients.modify i f ∧
    (∀ k : Controller, (f k).state = .faulted → k.state = .faulted) ∧
      (u.closing = true → next = none → ∀ k : Controller, (f k).state = .closed)
  tasks : ∃ more, w'.tasks = w.tasks ++ more
  now : w'.now = w.now
  served : w.Served → i < w.clients.length → w'.Served
  nearer : ∀ v, next = some v → v.left < u.left ∧ (u.closing = true → v.closing = true)
  /-- What the controller waits for, or has as its stream, is a task of it. -/
  attended : ∀ c mailbox, w'.clients[i]? = some c → c.serves next = some mailbox →
    ∃ t ∈ w'.tasks, t.mailbox = mailbox ∧ t.client = i

namespace Proceeded

variable {w w' : World (Ledger σ) Controller Call} {i : Nat} {u v : Undertaking}
  {f : Controller → Controller}

/-- A part that is followed by another one, and starts no task. -/
theorem goOn (clients : w'.clients = w.clients.modify i f)
    (never : ∀ k : Controller, (f k).state = .faulted → k.state = .faulted)
    (tasks : w'.tasks = w.tasks) (now : w'.now = w.now) (next : w'.nextMailbox = w.nextMailbox)
    (nearer : v.left < u.left ∧ (u.closing = true → v.closing = true))
    (awaits : v.awaits = none) : Proceeded w i u w' (some v) where
  clients := ⟨f, clients, never, nofun⟩
  tasks := ⟨[], by rw [tasks, List.append_nil]⟩
  now := now
  served := fun served _ =>
    served.same tasks now.ge (by rw [clients, List.length_modify]) next
  nearer := by
    rintro _ ⟨⟩
    exact nearer
  attended := by
    intro c mailbox _ hserves
    rw [Controller.serves, awaits] at hserves
    cases hserves

/-- The last part of a call that leaves nothing open. -/
theorem giveBack (clients : w'.clients = w.clients.modify i Controller.closed)
    (tasks : w'.tasks = w.tasks) (now : w'.now = w.now) (next : w'.nextMailbox = w.nextMailbox) :
    Proceeded w i u w' none where
  clients := ⟨Controller.closed, clients, fun _ h => StreamState.noConfusion h, fun _ _ _ => rfl⟩
  tasks := ⟨[], by rw [tasks, List.append_nil]⟩
  now := now
  served := fun served _ =>
    served.same tasks now.ge (by rw [clients, List.length_modify]) next
  nearer := fun _ h => nomatch h
  attended := by
    intro c mailbox there hserves
    rw [clients, List.getElem?_modify_eq] at there
    obtain ⟨k, -, rfl⟩ := Option.map_eq_some_iff.mp there
    cases hserves

end Proceeded

theorem Served.beginClose {w : World (Ledger σ) Controller Call} (served : w.Served) (index : Nat)
    (mailbox : Mailbox) : (w.beginClose index mailbox).Served := by
  obtain ⟨tasks, ready, ⟨rfl, -⟩ | rfl, heq⟩ := w.beginClose_eq index mailbox
  · rw [heq]
    exact served.same rfl (Nat.le_refl _) (List.length_modify ..) rfl
  · rw [heq]
    exact served.map (RunningTask.keeps_told mailbox) rfl (Nat.le_refl _) (List.length_modify ..) rfl

variable [Transport σ]

theorem proceeded (w : World (Ledger σ) Controller Call) (i : Nat) (c : Controller)
    (u : Undertaking) : Proceeded w i u (w.proceed i c u).1 (w.proceed i c u).2 := by
  have hsame : w.clients = w.clients.modify i id := by simp
  cases u with
  | agree request =>
    obtain ⟨device, trace, -, ⟨error, heq⟩ | ⟨config, catalog, heq⟩⟩ := w.agreeFor_eq i c request
    · simp only [proceed, heq]
      exact .goOn hsame (fun _ => id) rfl rfl rfl
        (by simp [Undertaking.left, Undertaking.closing]) rfl
    · simp only [proceed, heq]
      exact .goOn rfl (fun _ => id) rfl rfl rfl
        (by simp [Undertaking.left, Undertaking.closing]) rfl
  | select config =>
    obtain ⟨device, -, ⟨error, heq⟩ | heq⟩ := w.selectFor_eq i config
    · simp only [proceed, heq]
      exact .goOn hsame (fun _ => id) rfl rfl rfl
        (by simp [Undertaking.left, Undertaking.closing]) rfl
    · simp only [proceed, heq]
      exact .goOn rfl (fun _ h => StreamState.noConfusion h) rfl rfl rfl
        (by simp [Undertaking.left, Undertaking.closing]) rfl
  | launch config =>
    rcases w.tryStart_cases i (config.plan c.settings.transfer) with
      ⟨error, heq⟩ | ⟨claims, size, pool, -, heq⟩
    · simp only [proceed, heq]
      exact .goOn hsame (fun _ => id) rfl rfl rfl
        (by simp [Undertaking.left, Undertaking.closing]) rfl
    · obtain ⟨refused, t, ready, trace, hclient, -, hmailbox, hruns, -, -, -, hlaunch⟩ :=
        { w with claims }.launch_eq i _ (config.plan c.settings.transfer) size pool
      -- A task was started either way. It serves the stream, or it winds down and is waited for.
      have hnew : t ∈ w.tasks ++ [t] := List.mem_append_right _ (List.mem_singleton_self t)
      rw [hlaunch] at heq
      cases refused with
      | none =>
        simp only [proceed, heq]
        refine ⟨⟨_, rfl, fun _ => id, by simp [Undertaking.closing]⟩, ⟨_, rfl⟩, rfl,
          fun served hlt => ?_, by simp, fun c' mailbox there hserves => ?_⟩
        · exact served.add hmailbox (by rwa [hclient]) hruns rfl rfl (List.length_modify ..) rfl
        replace there : (w.clients.modify i _)[i]? = some c' := there
        rw [List.getElem?_modify_eq] at there
        obtain ⟨k, -, rfl⟩ := Option.map_eq_some_iff.mp there
        cases hserves
        exact ⟨t, hnew, hmailbox, hclient⟩
      | some error =>
        simp only [proceed, heq]
        refine ⟨⟨id, hsame, fun _ => id, by simp [Undertaking.closing]⟩, ⟨_, rfl⟩, rfl,
          fun served hlt => ?_, ?_, fun c' mailbox _ hserves => ?_⟩
        · exact served.add hmailbox (by rwa [hclient]) hruns rfl rfl rfl rfl
        · rintro _ ⟨⟩
          exact ⟨Nat.lt_succ_self 3, by simp [Undertaking.closing]⟩
        · cases hserves
          exact ⟨t, hnew, hmailbox, hclient⟩
  | unwind config mailbox error =>
    simp only [proceed]
    exact .goOn hsame (fun _ => id) rfl rfl rfl
      (by simp [Undertaking.left, Undertaking.closing]) rfl
  | reset config error =>
    obtain ⟨device, trace, -, heq⟩ := w.resetInterface_eq config.interface
    simp only [proceed, heq]
    exact .goOn hsame (fun _ => id) rfl rfl rfl
      (by simp [Undertaking.left, Undertaking.closing]) rfl
  | giveUp error =>
    simp only [proceed]
    exact .giveBack rfl rfl rfl rfl
  | drain config mailbox =>
    simp only [proceed]
    exact .goOn rfl (fun _ => id) rfl rfl rfl (by simp [Undertaking.left, Undertaking.closing]) rfl
  | release config =>
    obtain ⟨device, trace, -, heq⟩ := w.endClose_eq i config
    simp only [proceed, heq]
    exact .giveBack rfl rfl rfl rfl

end World

/-! ### Controllers -/

namespace Engine

variable {σ : Type}

/-- The state of a controller. -/
def state? (e : Engine σ) (index : Nat) : Option StreamState :=
  e.world.clients[index]?.map (·.state)

variable [Transport σ] {name : String} {a b : Engine σ} {event : Event}

theorem calls_proceed (e : Engine σ) (i : Nat) (c : Controller) (u : Undertaking) :
    (e.proceed i c u).calls i = (e.world.proceed i c u).2 := Function.update_self ..

/-- In a step either the background leads all controllers onward, or one of them is called: that one does
not become faulted, and if it was, the call is to close it or it goes away. What it waits for from then
on, or has as its stream, it had before, or it is a new task of it. -/
theorem Step.clients (hs : Step a event b) (h : a.Sound name) :
    ClientsOnward a.world.clients b.world.clients ∧ b.calls = a.calls ∨
      ∃ i f, b.world.clients = a.world.clients.modify i f ∧ (∀ j, j ≠ i → b.calls j = a.calls j) ∧
        ∀ c : Controller, a.world.clients[i]? = some c →
          ((f c).state = .faulted → c.state = .faulted) ∧
            (c.state = .faulted → event = .closes i ∨ event = .drops i) ∧
              ∀ mailbox, (f c).serves (b.calls i) = some mailbox →
                c.serves (a.calls i) = some mailbox ∨
                  ∃ t ∈ b.world.tasks, t.mailbox = mailbox ∧ t.client = i := by
  cases hs with
  | claim index c request claims idle closed acquired =>
    refine .inr ⟨index, _, rfl, fun j hj => Function.update_of_ne hj .., fun k there =>
      ⟨fun h => StreamState.noConfusion h, fun hfaulted => ?_, fun mailbox hserves => ?_⟩⟩
    · rw [idle.there] at there
      cases there
      rw [closed] at hfaulted
      cases hfaulted
    · simp [claimed, Controller.serves, Undertaking.awaits] at hserves
  | proceed index c u there calling waited =>
    have hproceeded := a.world.proceeded index c u
    obtain ⟨f, hclients, hnever, -⟩ := hproceeded.clients
    refine .inr ⟨index, f, hclients, fun j hj => Function.update_of_ne hj .., fun k there' =>
      ⟨hnever k, fun hfaulted => ?_, fun mailbox hserves => .inr ?_⟩⟩
    · have hfits := h.roles.fits index k there'
      rw [calling] at hfits
      exact absurd hfaulted hfits.calling.2
    · have hself : (a.world.proceed index c u).1.clients[index]? = some (f k) := by
        rw [hclients, List.getElem?_modify_eq, there']
        rfl
      rw [calls_proceed] at hserves
      exact hproceeded.attended (f k) mailbox hself hserves
  | close index c s idle stream =>
    obtain ⟨tasks, ready, -, heq⟩ := a.world.beginClose_eq index s.mailbox
    rw [closing, heq]
    refine .inr ⟨index, _, rfl, fun j hj => Function.update_of_ne hj .., fun k there =>
      ⟨fun h => StreamState.noConfusion h, fun _ => .inl rfl, fun mailbox hserves => .inl ?_⟩⟩
    -- The task that is waited for from now on is that of its stream.
    rw [idle.there] at there
    cases there
    rw [idle.free]
    simpa [Controller.serves, Undertaking.awaits, stream] using hserves
  | disconnect index c idle =>
    rcases a.world.notifyDisconnect_eq index with hsame | ⟨c, c', trace, there, honward, heq⟩
    · rw [hsame]
      exact .inl ⟨.refl _, rfl⟩
    · rw [heq]
      exact .inl ⟨.set there honward, rfl⟩
  | listen index c hub idle =>
    refine .inl ⟨ClientsOnward.modify (fun c => ?_) a.world.clients index, rfl⟩
    exact ⟨rfl, rfl, .inl rfl, fun _ => rfl⟩
  | drop index c idle =>
    rcases a.world.abandon_eq index with ⟨-, heq⟩ | ⟨s, device, ready, trace, -, -, heq⟩
    · rw [dropped, heq]
      exact .inl ⟨.refl _, rfl⟩
    · rw [dropped, heq]
      refine .inr ⟨index, _, rfl, fun _ _ => rfl, fun k _ =>
        ⟨fun h => StreamState.noConfusion h, fun _ => .inr rfl, fun mailbox hserves => ?_⟩⟩
      rw [idle.free] at hserves
      cases hserves
  | task mailbox =>
    rcases stepTask_eq h.accounts.distinct mailbox with
      hsame | ⟨t, c, s, ready, -, -, there, hstep, -, heq⟩
    · rw [hsame]
      exact .inl ⟨.refl _, rfl⟩
    · rw [heq]
      exact .inl ⟨.set there (DispatchTask.onward_step hstep), rfl⟩
  | worker index worker =>
    rcases a.world.onPipeline_eq index worker.onward with hsame | ⟨c, c', trace, there, honward, heq⟩
    · rw [hsame]
      exact .inl ⟨.refl _, rfl⟩
    · rw [heq]
      exact .inl ⟨.set there honward, rfl⟩
  | device device posts =>
    obtain ⟨ready, heq⟩ := World.act_eq h.accounts.distinct device posts
    rw [heq]
    exact .inl ⟨.refl _, rfl⟩
  | pass time =>
    obtain ⟨ready, heq⟩ := a.world.advanceTo_eq time
    rw [heq]
    exact .inl ⟨.refl _, rfl⟩
  | schedule | acquire | release => exact .inl ⟨.refl _, rfl⟩

/-- No controller is lost. -/
theorem Step.there (hs : Step a event b) (h : a.Sound name) {i : Nat} {c : Controller}
    (there : a.world.clients[i]? = some c) : ∃ c', b.world.clients[i]? = some c' := by
  rcases hs.clients h with ⟨honward, -⟩ | ⟨j, f, hclients, -⟩
  · obtain ⟨c', hafter, -⟩ := honward.after there
    exact ⟨c', hafter⟩
  · rw [hclients, List.getElem?_modify, there]
    exact ⟨_, rfl⟩

/-- A controller becomes faulted from streaming only, and stays so unless it is closed or goes away. -/
theorem Step.faulted (hs : Step a event b) (h : a.Sound name) (i : Nat) :
    (b.state? i = some .faulted → a.state? i = some .faulted ∨ a.state? i = some .streaming) ∧
      (a.state? i = some .faulted →
        b.state? i = some .faulted ∨ event = .closes i ∨ event = .drops i) := by
  unfold state?
  rcases hs.clients h with ⟨honward, -⟩ | ⟨j, f, hclients, -, hcalled⟩
  · have hrel := honward i
    cases hbefore : a.world.clients[i]? with
    | none =>
      rw [hbefore] at hrel
      cases hafter : b.world.clients[i]? with
      | none => exact ⟨nofun, nofun⟩
      | some c' =>
        rw [hafter] at hrel
        cases hrel
    | some c =>
      obtain ⟨c', hafter, hon⟩ := honward.after hbefore
      rw [hafter]
      simp only [Option.map_some, Option.some.injEq]
      rcases hon.state with hsame | ⟨hstreaming, hfaulted⟩
      · rw [hsame]
        exact ⟨.inl, .inl⟩
      · exact ⟨fun _ => .inr hstreaming, fun _ => .inl hfaulted⟩
  · rw [hclients, List.getElem?_modify]
    cases hbefore : a.world.clients[i]? with
    | none => exact ⟨nofun, nofun⟩
    | some c =>
      simp only [Option.map_eq_map, Option.map_some, Option.some.injEq]
      split
      · next hsame =>
        subst hsame
        obtain ⟨hnever, hcause, -⟩ := hcalled c hbefore
        exact ⟨fun hafter => .inl (hnever hafter), fun hfaulted => .inr (hcause hfaulted)⟩
      · exact ⟨.inl, .inl⟩

/-! ### Calls -/

/-- The last part of closing leaves the controller closed. -/
theorem closed_proceed {e : Engine σ} {i : Nat} {c : Controller} {u : Undertaking}
    (there : e.world.clients[i]? = some c) (closing : u.closing = true)
    (last : (e.world.proceed i c u).2 = none) : (e.proceed i c u).state? i = some .closed := by
  obtain ⟨f, hclients, -, hclosed⟩ := (e.world.proceeded i c u).clients
  rw [state?, proceed, hclients, List.getElem?_modify_eq, there]
  exact congrArg some (hclosed closing last c)

/-- A call goes on with its next part, when nothing is to be waited for. -/
theorem Step.calls (hs : Step a event b) {i : Nat} {u : Undertaking} (calling : a.calls i = some u) :
    b.calls i = some u ∨ ∃ c, a.world.clients[i]? = some c ∧ b = a.proceed i c u := by
  have hother : ∀ {index : Nat} {c : Controller}, a.Idle index c → ∀ v,
      Function.update a.calls index v i = some u := by
    intro index c idle v
    rw [Function.update_of_ne ?_, calling]
    rintro rfl
    rw [idle.free] at calling
    cases calling
  cases hs with
  | claim index c request claims idle => exact .inl (hother idle _)
  | close index c s idle => exact .inl (hother idle _)
  | proceed index c v there hcall waited =>
    by_cases hsame : i = index
    · subst hsame
      rw [calling] at hcall
      cases hcall
      exact .inr ⟨c, there, rfl⟩
    · exact .inl ((Function.update_of_ne hsame ..).trans calling)
  | _ => exact .inl calling

end Engine

/-! ### Tasks -/

namespace DispatchTask

/-- How far a task is from its end: phases to go through, then transfers to take back. -/
def toGo (t : DispatchTask) : Nat ×ₗ Nat := toLex (t.phase.rank, t.dispatch.inFlight.toList.length)

variable {σ κ ν : Type} [Transport σ] [StreamClient κ ν] {t : DispatchTask} {now : Nat} {client : κ}
  {l : Ledger σ}

/-- A task that winds down comes nearer to its end with every step. -/
theorem step_toGo {s : TaskStep (Ledger σ) κ ν} (h : t.step now client l = some s)
    (winding : t.Winding) (booked : Booked t.dispatch t.inbox l)
    (honest : l.Honest t.dispatch.mailbox) : s.task.toGo < t.toGo := by
  rw [toGo, toGo, Prod.Lex.toLex_lt_toLex]
  cases step_move h with
  | stop since phase =>
    rw [phase]
    exact .inl (Nat.lt_succ_self 2)
  | receive since c inbox phase told =>
    rw [winding.told phase] at told
    cases told
  | retry since phase told =>
    rw [winding.told phase] at told
    cases told
  | leave fault phase =>
    rw [phase]
    exact .inl (Nat.lt_succ_self 1)
  | reclaim deadline fault c inbox phase arrived =>
    -- The completion is one of a transfer in flight.
    rw [arrived] at booked
    have hmem := booked.mem_inFlight honest
    refine .inr ⟨rfl, ?_⟩
    dsimp only
    rw [Dispatch.reclaim, Lineup.toList_eraseP, ← List.erase_eq_eraseP',
      List.length_erase_of_mem hmem]
    exact Nat.sub_one_lt (List.length_pos_of_mem hmem).ne'
  | finish deadline fault before phase =>
    rw [phase, conclude_task]
    exact .inl Nat.zero_lt_one

end DispatchTask

theorem RunningTask.Kept.toGo {t t' : RunningTask} (h : t.Kept t') : t'.task.toGo = t.task.toGo := by
  rw [DispatchTask.toGo, h.phase, h.dispatch, DispatchTask.toGo]

namespace Engine

variable {σ : Type} [Transport σ] {name : String} {a b : Engine σ} {event : Event}

/-- A task is kept, or it makes a step and is kept then. -/
theorem Step.tasks (hs : Step a event b) (distinct : World.Distinct a.world.tasks) {t : RunningTask}
    (ht : t ∈ a.world.tasks) :
    ∃ t' ∈ b.world.tasks, t.Kept t' ∨
      ∃ (c : Controller) (s : TaskStep (Ledger σ) Controller Call),
        t.task.step a.world.now c a.world.device = some s ∧
          RunningTask.Kept { t with task := s.task } t' := by
  have hstays : t ∈ a.world.tasks ∧ (t.Kept t ∨
      ∃ (c : Controller) (s : TaskStep (Ledger σ) Controller Call),
        t.task.step a.world.now c a.world.device = some s ∧
          RunningTask.Kept { t with task := s.task } t) := ⟨ht, .inl (.refl t)⟩
  cases hs with
  | proceed index c u =>
    obtain ⟨more, htasks⟩ := (a.world.proceeded index c u).tasks
    refine ⟨t, ?_, hstays.2⟩
    rw [Engine.proceed, htasks]
    exact List.mem_append_left _ ht
  | close index c s =>
    obtain ⟨tasks, ready, ⟨rfl, -⟩ | rfl, heq⟩ := a.world.beginClose_eq index s.mailbox
    · rw [closing, heq]
      exact ⟨t, hstays⟩
    · rw [closing, heq]
      exact ⟨_, List.mem_map_of_mem ht, .inl (RunningTask.keeps_told s.mailbox t)⟩
  | drop index =>
    rcases a.world.abandon_eq index with ⟨-, heq⟩ | ⟨s, device, ready, trace, -, -, heq⟩
    · rw [dropped, heq]
      exact ⟨t, hstays⟩
    · rw [dropped, heq]
      exact ⟨_, List.mem_map_of_mem ht, .inl (RunningTask.keeps_told s.mailbox t)⟩
  | disconnect index c idle =>
    rcases a.world.notifyDisconnect_eq index with hsame | ⟨c, c', trace, -, -, heq⟩
    · rw [hsame]
      exact ⟨t, hstays⟩
    · rw [heq]
      exact ⟨t, hstays⟩
  | task mailbox =>
    rcases a.world.stepTask_cases mailbox with hsame | ⟨u, c, s, hu, -, hstep, hafter⟩
    · rw [hsame]
      exact ⟨t, hstays⟩
    · obtain ⟨ready, heq⟩ :=
        World.afterSteps_eq distinct hu (DispatchTask.step_books hstep).mailbox
      rw [hafter, heq]
      have hkeeps := RunningTask.keeps_receive s.posts
      by_cases hmine : t.mailbox = u.mailbox
      · obtain rfl := distinct.eq ht hu hmine
        exact ⟨_, List.mem_map_of_mem (World.mem_changed.mpr (.inr rfl)), .inr ⟨c, s, hstep, hkeeps _⟩⟩
      · exact ⟨_, List.mem_map_of_mem (World.mem_changed.mpr (.inl ⟨ht, hmine⟩)), .inl (hkeeps t)⟩
  | worker index worker =>
    rcases a.world.onPipeline_eq index worker.onward with hsame | ⟨c, c', trace, -, -, heq⟩
    · rw [hsame]
      exact ⟨t, hstays⟩
    · rw [heq]
      exact ⟨t, hstays⟩
  | device device posts =>
    obtain ⟨ready, heq⟩ := World.act_eq distinct device posts
    rw [heq]
    exact ⟨_, List.mem_map_of_mem ht, .inl (RunningTask.keeps_receive posts t)⟩
  | pass time =>
    obtain ⟨ready, heq⟩ := a.world.advanceTo_eq time
    rw [heq]
    exact ⟨t, hstays⟩
  | _ => exact ⟨t, hstays⟩

/-- A task of a controller stays one. -/
theorem Step.stays (hs : Step a event b) (distinct : World.Distinct a.world.tasks)
    {mailbox : Mailbox} {i : Nat} (h : ∃ t ∈ a.world.tasks, t.mailbox = mailbox ∧ t.client = i) :
    ∃ t ∈ b.world.tasks, t.mailbox = mailbox ∧ t.client = i := by
  obtain ⟨t, ht, hmailbox, hclient⟩ := h
  obtain ⟨t', ht', hkept | ⟨c, s, hstep, hkept⟩⟩ := hs.tasks distinct ht
  · exact ⟨t', ht', hkept.mailbox.trans hmailbox, hkept.client.trans hclient⟩
  · have hsame := (DispatchTask.step_books hstep).mailbox
    exact ⟨t', ht', hkept.mailbox.trans (hsame.trans hmailbox), hkept.client.trans hclient⟩

/-- What a controller waits for, or has as its stream, is a task of it. -/
def Attended (e : Engine σ) : Prop :=
  ∀ (i : Nat) (c : Controller) mailbox, e.world.clients[i]? = some c →
    c.serves (e.calls i) = some mailbox → ∃ t ∈ e.world.tasks, t.mailbox = mailbox ∧ t.client = i

theorem Step.attended (hs : Step a event b) (h : a.Sound name) (attended : a.Attended) :
    b.Attended := by
  intro i c' mailbox there hserves
  rcases hs.clients h with ⟨honward, hcalls⟩ | ⟨j, f, hclients, hcalls, hcalled⟩
  · obtain ⟨c, hbefore, hon⟩ := honward.before there
    rw [hcalls, hon.serves] at hserves
    exact hs.stays h.accounts.distinct (attended i c mailbox hbefore hserves)
  · by_cases hj : i = j
    · subst hj
      rw [hclients, List.getElem?_modify_eq] at there
      obtain ⟨c, hbefore, rfl⟩ := Option.map_eq_some_iff.mp there
      rcases (hcalled c hbefore).2.2 mailbox hserves with hold | hnew
      · exact hs.stays h.accounts.distinct (attended i c mailbox hbefore hold)
      · exact hnew
    · rw [hclients, List.getElem?_modify_ne _ _ (Ne.symm hj)] at there
      rw [hcalls i hj] at hserves
      exact hs.stays h.accounts.distinct (attended i c' mailbox there hserves)

theorem Reachable.attended {e : Engine σ} (h : Reachable name e) : e.Attended := by
  induction h with
  | start device controllers now outside _ fresh =>
    intro i c mailbox there hserves
    have hsame := fresh c (List.mem_of_getElem? there)
    rw [← hsame] at hserves
    cases hserves
  | step h hs _ ih => exact hs.attended h.sound ih

/-- Every task of an engine has a mailbox of its own and a controller, whatever happens. -/
theorem Step.served (hs : Step a event b) (served : a.world.Served) : b.world.Served := by
  cases hs with
  | claim index c => exact served.same rfl (Nat.le_refl _) (List.length_modify ..) rfl
  | proceed index c u there =>
    exact (a.world.proceeded index c u).served served (List.getElem?_eq_some_iff.mp there).1
  | close index c s => exact served.beginClose index s.mailbox
  | drop index =>
    rcases a.world.abandon_eq index with ⟨-, heq⟩ | ⟨s, device, ready, trace, -, -, heq⟩
    · rw [dropped, heq]
      exact served
    · rw [dropped, heq]
      exact served.map (RunningTask.keeps_told s.mailbox) rfl (Nat.le_refl _) (List.length_modify ..) rfl
  | disconnect index =>
    rcases a.world.notifyDisconnect_eq index with hsame | ⟨c, c', trace, -, -, heq⟩
    · rwa [hsame]
    · rw [heq]
      exact served.same rfl (Nat.le_refl _) List.length_set rfl
  | listen index c hub => exact served.same rfl (Nat.le_refl _) (List.length_modify ..) rfl
  | task mailbox =>
    rcases a.world.stepTask_cases mailbox with hsame | ⟨t, c, s, ht, -, hstep, heq⟩
    · rwa [hsame]
    · rw [heq]
      exact served.afterSteps ht (DispatchTask.step_ran hstep)
  | worker index worker =>
    rcases a.world.onPipeline_eq index worker.onward with hsame | ⟨c, c', trace, -, -, heq⟩
    · rwa [hsame]
    · rw [heq]
      exact served.same rfl (Nat.le_refl _) List.length_set rfl
  | device device posts =>
    obtain ⟨ready, heq⟩ := World.act_eq served.distinct device posts
    rw [heq]
    exact served.map (RunningTask.keeps_receive posts) rfl (Nat.le_refl _) rfl rfl
  | pass time => exact served.advanceTo time
  | schedule | acquire | release => exact served.same rfl (Nat.le_refl _) rfl rfl

/-- Only controllers that are there are called. -/
theorem Step.called (hs : Step a event b) (h : a.Sound name)
    (called : ∀ i u, a.calls i = some u → ∃ c, a.world.clients[i]? = some c) (i : Nat)
    (u : Undertaking) (calling : b.calls i = some u) : ∃ c, b.world.clients[i]? = some c := by
  have hchanged : ∀ {index : Nat} {c : Controller} {v : Option Undertaking},
      a.world.clients[index]? = some c → Function.update a.calls index v i = some u →
        ∃ c, a.world.clients[i]? = some c := by
    intro index c v there hcall
    by_cases hsame : i = index
    · rw [hsame]
      exact ⟨c, there⟩
    · rw [Function.update_of_ne hsame] at hcall
      exact called i u hcall
  have hbefore : ∃ c, a.world.clients[i]? = some c := by
    cases hs with
    | claim index c request claims idle => exact hchanged idle.there calling
    | proceed index c v there => exact hchanged there calling
    | close index c s idle => exact hchanged idle.there calling
    | _ => exact called i u calling
  obtain ⟨c, there⟩ := hbefore
  exact hs.there h there

theorem Reachable.called {e : Engine σ} (h : Reachable name e) :
    ∀ i u, e.calls i = some u → ∃ c, e.world.clients[i]? = some c := by
  induction h with
  | start => exact fun i u calling => nomatch calling
  | step h hs _ ih => exact hs.called h.sound ih

theorem Named.served {e : Engine σ} (h : Named name e) : e.world.Served := by
  induction h with
  | start device controllers now outside =>
    exact ⟨List.nodup_nil, fun t ht => absurd ht List.not_mem_nil,
      fun t ht => absurd ht List.not_mem_nil, fun t ht => absurd ht List.not_mem_nil⟩
  | step _ hs _ ih => exact hs.served ih

theorem Reachable.served {e : Engine σ} (h : Reachable name e) : e.world.Served := h.named.served

/-- Claims and roles are in order, whatever the bus stack does. -/
theorem Named.ordered {e : Engine σ} (h : Named name e) : e.Ordered name := by
  induction h with
  | start device controllers now outside _ fresh distinct =>
    exact ordered_start device now fresh distinct
  | step h hs named ih => exact hs.ordered ih h.served.distinct h.deviceId named

end Engine

end UsbVideo
