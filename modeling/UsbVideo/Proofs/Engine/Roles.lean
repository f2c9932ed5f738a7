import UsbVideo.Proofs.Engine.Parts

/-!
# What a controller is, task by task and part by part

Between calls a controller is closed and has nothing, or has a stream that runs or has faulted. Inside
of a call it is whatever the next part needs it to be: `Controller.Fits` lists both. From that follow
who has the claim on the device, and which tasks may still be going on; `Roles` is the three together,
for all controllers at once.

There are two ways in which roles change. Nobody is called, and the background leads every controller
onward (`Roles.onward`). Or a part of a call changes one controller, and the others keep what they have
(`Roles.call`).
-/

namespace UsbVideo

namespace Controller

/-- What a controller looks like when nobody calls it, or before the next part of a call. -/
def Fits (c : Controller) : Option Undertaking → Prop
  | none =>
    c.state = .closed ∧ c.stream = none ∧ c.catalog = none ∨
      (c.state = .streaming ∨ c.state = .faulted) ∧ c.stream.isSome ∧ c.catalog.isSome
  | some (.agree _) => c.state = .negotiating ∧ c.stream = none
  | some (.select _) => c.state = .negotiating ∧ c.stream = none ∧ c.catalog.isSome
  | some (.launch _) => c.state = .streaming ∧ c.stream = none ∧ c.catalog.isSome
  | some (.unwind ..) | some (.reset ..) => c.state = .streaming ∧ c.stream = none
  | some (.giveUp _) => (c.state = .negotiating ∨ c.state = .streaming) ∧ c.stream = none
  | some (.drain config mailbox) =>
    c.state = .stopping ∧ c.stream.map (fun s => (s.config, s.mailbox)) = some (config, mailbox)
  | some (.release _) => c.state = .stopping ∧ c.stream.isSome

/-- The task that may go on for a controller: that of its stream, or the one a call waits for. -/
def serves (c : Controller) : Option Undertaking → Option Mailbox
  | none => c.stream.map (·.mailbox)
  | some u => u.awaits

variable {c c' : Controller} {u : Option Undertaking}

theorem Onward.mailbox (h : c.Onward c') : c'.stream.map (·.mailbox) = c.stream.map (·.mailbox) := by
  simpa [Function.comp_def] using congrArg (Option.map Prod.snd) h.stream

theorem Onward.serves (h : c.Onward c') (u : Option Undertaking) : c'.serves u = c.serves u := by
  cases u with
  | none => exact h.mailbox
  | some u => rfl

/-- The background keeps a controller fit for what comes next. -/
theorem Fits.onward (h : c.Fits u) (ho : c.Onward c') : c'.Fits u := by
  have hidle : c.stream = none → c'.state = c.state ∧ c'.stream = none := fun hnone =>
    ⟨ho.idle hnone, ho.stream_none.mpr hnone⟩
  have hcatalog : c.catalog.isSome → c'.catalog.isSome := fun hsome => by rwa [ho.catalog]
  match u with
  | none =>
    rcases h with ⟨hstate, hstream, hnone⟩ | ⟨hstate, hstream, hsome⟩
    · obtain ⟨hsame, hstream'⟩ := hidle hstream
      exact .inl ⟨hsame.trans hstate, hstream', by rw [ho.catalog, hnone]⟩
    · refine .inr ⟨?_, by rwa [ho.isSome_stream], hcatalog hsome⟩
      rcases ho.state with hsame | ⟨-, hfaulted⟩
      · rwa [hsame]
      · exact .inr hfaulted
  | some (.agree _) =>
    obtain ⟨hsame, hstream⟩ := hidle h.2
    exact ⟨hsame.trans h.1, hstream⟩
  | some (.select _) | some (.launch _) =>
    obtain ⟨hsame, hstream⟩ := hidle h.2.1
    exact ⟨hsame.trans h.1, hstream, hcatalog h.2.2⟩
  | some (.unwind ..) | some (.reset ..) =>
    obtain ⟨hsame, hstream⟩ := hidle h.2
    exact ⟨hsame.trans h.1, hstream⟩
  | some (.giveUp _) =>
    obtain ⟨hsame, hstream⟩ := hidle h.2
    exact ⟨by rw [hsame]; exact h.1, hstream⟩
  | some (.drain config mailbox) =>
    have hstays := ho.state
    rw [h.1] at hstays
    exact ⟨hstays.resolve_right fun hcontra => (nomatch hcontra.1), by rw [ho.stream]; exact h.2⟩
  | some (.release _) =>
    have hstays := ho.state
    rw [h.1] at hstays
    exact ⟨hstays.resolve_right fun hcontra => (nomatch hcontra.1), by rw [ho.isSome_stream]; exact h.2⟩

/-- In the middle of a call a controller is neither closed nor faulted. -/
theorem Fits.calling {u : Undertaking} (h : c.Fits (some u)) :
    c.state ≠ .closed ∧ c.state ≠ .faulted := by
  cases u with
  | agree | select | launch | unwind | reset | drain | release =>
    rw [h.1]
    exact ⟨nofun, nofun⟩
  | giveUp =>
    rcases h.1 with hstate | hstate
    · rw [hstate]
      exact ⟨nofun, nofun⟩
    · rw [hstate]
      exact ⟨nofun, nofun⟩

/-- A part of closing finds the state stopping. -/
theorem Fits.closing {u : Undertaking} (h : c.Fits (some u)) (hclosing : u.closing = true) :
    c.state = .stopping := by
  cases u with
  | drain | release => exact h.1
  | _ => cases hclosing

end Controller

/-! ### All controllers at once -/

/-- Nobody is called, and every controller goes on. -/
def ClientsOnward (clients clients' : List Controller) : Prop :=
  ∀ index : Nat, Option.Rel Controller.Onward clients[index]? clients'[index]?

namespace ClientsOnward

variable {clients clients' : List Controller} {index : Nat} {c c' : Controller}

protected theorem refl (clients : List Controller) : ClientsOnward clients clients := by
  intro index
  cases clients[index]? with
  | none => exact .none
  | some c => exact .some (.refl c)

theorem set (there : clients[index]? = some c) (h : c.Onward c') :
    ClientsOnward clients (clients.set index c') := by
  intro other
  by_cases hother : index = other
  · subst hother
    have hlt : index < clients.length := (List.getElem?_eq_some_iff.mp there).1
    rw [there, List.getElem?_set_self hlt]
    exact .some h
  · rw [List.getElem?_set_ne hother]
    exact ClientsOnward.refl clients other

theorem modify {f : Controller → Controller} (h : ∀ c, Controller.Onward c (f c))
    (clients : List Controller) (index : Nat) : ClientsOnward clients (clients.modify index f) := by
  intro other
  rw [List.getElem?_modify]
  cases clients[other]? with
  | none => exact .none
  | some c =>
    refine .some ?_
    dsimp only
    split
    · exact h c
    · exact .refl c

theorem after (h : ClientsOnward clients clients') (there : clients[index]? = some c) :
    ∃ c', clients'[index]? = some c' ∧ c.Onward c' := by
  have hrel := h index
  rw [there] at hrel
  cases hafter : clients'[index]? with
  | none =>
    rw [hafter] at hrel
    cases hrel
  | some c' =>
    rw [hafter] at hrel
    cases hrel with
    | some honward => exact ⟨c', rfl, honward⟩

theorem before (h : ClientsOnward clients clients') (there : clients'[index]? = some c') :
    ∃ c, clients[index]? = some c ∧ c.Onward c' := by
  have hrel := h index
  rw [there] at hrel
  cases hbefore : clients[index]? with
  | none =>
    rw [hbefore] at hrel
    cases hrel
  | some c =>
    rw [hbefore] at hrel
    cases hrel with
    | some honward => exact ⟨c, rfl, honward⟩

end ClientsOnward

/-- A task, and the same one later. -/
structure RunningTask.Onward (t t' : RunningTask) : Prop where
  goes : t.task.isEnded = false
  client : t.client = t'.client
  mailbox : t.mailbox = t'.mailbox
  winding : t.task.Winding → t'.task.Winding

/-- Who goes on later goes on now, for the same controller. -/
def TasksOnward (tasks tasks' : List RunningTask) : Prop :=
  ∀ t' ∈ tasks', t'.task.isEnded = false → ∃ t ∈ tasks, t.Onward t'

namespace TasksOnward

variable {tasks tasks' tasks'' : List RunningTask}

protected theorem refl (tasks : List RunningTask) : TasksOnward tasks tasks :=
  fun t ht hgoes => ⟨t, ht, hgoes, rfl, rfl, id⟩

theorem trans (h : TasksOnward tasks tasks') (h' : TasksOnward tasks' tasks'') :
    TasksOnward tasks tasks'' := by
  intro t'' ht'' hgoes
  obtain ⟨t', ht', honward'⟩ := h' t'' ht'' hgoes
  obtain ⟨t, ht, honward⟩ := h t' ht' honward'.goes
  exact ⟨t, ht, honward.goes, honward.client.trans honward'.client,
    honward.mailbox.trans honward'.mailbox, fun hw => honward'.winding (honward.winding hw)⟩

theorem map {f : RunningTask → RunningTask} (h : RunningTask.Keeps f) (tasks : List RunningTask) :
    TasksOnward tasks (tasks.map f) := by
  intro t' ht' hgoes
  obtain ⟨t, ht, rfl⟩ := List.mem_map.mp ht'
  exact ⟨t, ht, by rwa [(h t).isEnded] at hgoes, (h t).client.symm, (h t).mailbox.symm, (h t).winding⟩

theorem changed {t : RunningTask} (ht : t ∈ tasks) (hgoes : t.task.isEnded = false)
    {task : DispatchTask} (mailbox : task.dispatch.mailbox = t.mailbox)
    (winding : t.task.Winding → task.Winding) : TasksOnward tasks (World.changed tasks t task) := by
  intro t' ht' hgoes'
  rcases World.mem_changed.mp ht' with ⟨hold, -⟩ | rfl
  · exact ⟨t', hold, hgoes', rfl, rfl, id⟩
  · exact ⟨t, ht, hgoes, rfl, mailbox.symm, winding⟩

end TasksOnward

/-- Every controller is what its call needs; who is open or called has the claim on the device, and
nobody else; a task goes on only for who it serves, or for a controller that went away; and inside of a
call it is on its way to the end. -/
structure Roles (clients : List Controller) (tasks : List RunningTask)
    (calls : Nat → Option Undertaking) (gone : List Nat) (holder : Option Nat) : Prop where
  fits : ∀ (i : Nat) (c : Controller), clients[i]? = some c → c.Fits (calls i)
  owner : ∀ i, holder = some i ↔
    ∃ c, clients[i]? = some c ∧ ((calls i).isSome ∨ c.stream.isSome)
  away : ∀ i ∈ gone, ∀ c, clients[i]? = some c → calls i = none ∧ c.stream = none
  serving : ∀ t ∈ tasks, t.task.isEnded = false →
    t.client ∈ gone ∨ ∃ c, clients[t.client]? = some c ∧ c.serves (calls t.client) = some t.mailbox
  winding : ∀ t ∈ tasks, t.task.isEnded = false → (calls t.client).isSome → t.task.Winding

namespace Roles

variable {clients clients' : List Controller} {tasks tasks' : List RunningTask}
  {calls : Nat → Option Undertaking} {gone gone' : List Nat} {holder holder' : Option Nat}

/-- The background keeps all roles. -/
theorem onward (h : Roles clients tasks calls gone holder) (hclients : ClientsOnward clients clients')
    (htasks : TasksOnward tasks tasks') : Roles clients' tasks' calls gone holder where
  fits := by
    intro i c' there
    obtain ⟨c, hbefore, honward⟩ := hclients.before there
    exact (h.fits i c hbefore).onward honward
  owner := by
    intro i
    rw [h.owner i]
    constructor
    · rintro ⟨c, there, hbusy⟩
      obtain ⟨c', hafter, honward⟩ := hclients.after there
      exact ⟨c', hafter, by rwa [honward.isSome_stream]⟩
    · rintro ⟨c', there, hbusy⟩
      obtain ⟨c, hbefore, honward⟩ := hclients.before there
      exact ⟨c, hbefore, by rwa [honward.isSome_stream] at hbusy⟩
  away := by
    intro i hi c' there
    obtain ⟨c, hbefore, honward⟩ := hclients.before there
    obtain ⟨hfree, hnone⟩ := h.away i hi c hbefore
    exact ⟨hfree, honward.stream_none.mpr hnone⟩
  serving := by
    intro t' ht' hgoes'
    obtain ⟨t, ht, hsame⟩ := htasks t' ht' hgoes'
    rw [← hsame.client, ← hsame.mailbox]
    refine (h.serving t ht hsame.goes).imp_right ?_
    rintro ⟨c, there, hserves⟩
    obtain ⟨c', hafter, honward⟩ := hclients.after there
    exact ⟨c', hafter, (honward.serves _).trans hserves⟩
  winding := by
    intro t' ht' hgoes' hcall
    obtain ⟨t, ht, hsame⟩ := htasks t' ht' hgoes'
    rw [← hsame.client] at hcall
    exact hsame.winding (h.winding t ht hsame.goes hcall)

/-- A controller changes in a call, and the others keep their roles. -/
theorem call (h : Roles clients tasks calls gone holder) {i : Nat} {c : Controller}
    {u : Option Undertaking} (self : clients'[i]? = some c)
    (rest : ∀ j, j ≠ i → clients'[j]? = clients[j]?) (fits : c.Fits u)
    (mine : holder' = some i ↔ u.isSome ∨ c.stream.isSome)
    (others : ∀ j, j ≠ i → (holder' = some j ↔ holder = some j))
    (goneSelf : i ∈ gone' → u = none ∧ c.stream = none)
    (goneRest : ∀ j, j ≠ i → (j ∈ gone' ↔ j ∈ gone))
    (kept : ∀ t ∈ tasks', t.task.isEnded = false → t.client ≠ i → ∃ t₀ ∈ tasks, t₀.Onward t)
    (served : ∀ t ∈ tasks', t.task.isEnded = false → t.client = i →
      (i ∈ gone' ∨ c.serves u = some t.mailbox) ∧ (u.isSome → t.task.Winding)) :
    Roles clients' tasks' (Function.update calls i u) gone' holder' where
  fits := by
    intro j c' there
    by_cases hj : j = i
    · subst hj
      rw [self] at there
      cases there
      rwa [Function.update_self]
    · rw [Function.update_of_ne hj]
      exact h.fits j c' (rest j hj ▸ there)
  owner := by
    intro j
    by_cases hj : j = i
    · subst hj
      rw [Function.update_self, mine, self]
      simp
    · rw [Function.update_of_ne hj, others j hj, rest j hj]
      exact h.owner j
  away := by
    intro j hgone c' there
    by_cases hj : j = i
    · subst hj
      rw [self] at there
      cases there
      rw [Function.update_self]
      exact goneSelf hgone
    · rw [Function.update_of_ne hj]
      exact h.away j ((goneRest j hj).mp hgone) c' (rest j hj ▸ there)
  serving := by
    intro t ht hgoes
    by_cases hj : t.client = i
    · rw [hj, Function.update_self]
      exact (served t ht hgoes hj).1.imp_right fun hserves => ⟨c, self, hserves⟩
    · obtain ⟨t₀, ht₀, hsame⟩ := kept t ht hgoes hj
      rw [Function.update_of_ne hj, rest _ hj, goneRest _ hj, ← hsame.client, ← hsame.mailbox]
      exact h.serving t₀ ht₀ hsame.goes
  winding := by
    intro t ht hgoes hcall
    by_cases hj : t.client = i
    · rw [hj, Function.update_self] at hcall
      exact (served t ht hgoes hj).2 hcall
    · obtain ⟨t₀, ht₀, hsame⟩ := kept t ht hgoes hj
      rw [Function.update_of_ne hj, ← hsame.client] at hcall
      exact hsame.winding (h.winding t₀ ht₀ hsame.goes hcall)

/-- Who is called or open, and did not go away. -/
theorem busy (h : Roles clients tasks calls gone holder) {i : Nat} {c : Controller}
    (there : clients[i]? = some c) (hbusy : (calls i).isSome ∨ c.stream.isSome) :
    holder = some i ∧ i ∉ gone := by
  refine ⟨(h.owner i).mpr ⟨c, there, hbusy⟩, fun hgone => ?_⟩
  obtain ⟨hfree, hnone⟩ := h.away i hgone c there
  rw [hfree, hnone] at hbusy
  exact hbusy.elim nofun nofun

/-- When what a controller waits for has ended, no task of it goes on. -/
theorem none_live (h : Roles clients tasks calls gone holder) {i : Nat} {c : Controller}
    (there : clients[i]? = some c) (stays : i ∉ gone)
    (waited : ∀ mailbox, c.serves (calls i) = some mailbox →
      ∀ t ∈ tasks, t.mailbox = mailbox → t.task.isEnded = true) :
    ∀ t ∈ tasks, t.task.isEnded = false → t.client ≠ i := by
  rintro t ht hgoes rfl
  rcases h.serving t ht hgoes with hgone | ⟨c', there', hserves⟩
  · exact stays hgone
  · rw [there] at there'
    cases there'
    rw [waited t.mailbox hserves t ht rfl] at hgoes
    cases hgoes

end Roles

end UsbVideo
