import UsbVideo.Proofs.Engine.Roles

/-!
# The invariant of all runs

`Engine.Sound` puts together what has to hold at every moment. The registry holds exactly the keys that
somebody has, and everybody is what the call in progress needs: this is `Engine.Ordered`, and the bus
stack may do what it likes, as long as the device keeps its name. And the accounts of all tasks are in
order, on a bus stack that is honest and prompt. `Step.ordered` and `Step.accounts` are the preservation
of the two, with one lemma for each way in which things go on:

    background   a step of a task, a frame decoded, a notice, completions posted   `Ordered.of_onward`
    a call       claim │ agree │ select │ launch │ unwind │ reset │ giveUp │ drain │ release
    going away   the task of the stream is left to wind down on its own
    others       keys outside are claimed and released
-/

namespace UsbVideo

variable {σ : Type}

/-- The accounts stay in order in every part of a call. -/
theorem Accounts.proceed [Transport σ] {w : World (Ledger σ) Controller Call}
    (h : Accounts w.tasks w.nextMailbox w.device) (honest : ∀ mailbox, w.device.Honest mailbox)
    (i : Nat) (c : Controller) (u : Undertaking) :
    let w' := (w.proceed i c u).1
    Accounts w'.tasks w'.nextMailbox w'.device := by
  cases u with
  | agree request =>
    obtain ⟨device, trace, hquiet, ⟨error, heq⟩ | ⟨config, catalog, heq⟩⟩ := w.agreeFor_eq i c request
    · simp only [World.proceed, heq]
      exact h.quiet hquiet.accepted hquiet.posted
    · simp only [World.proceed, heq]
      exact h.quiet hquiet.accepted hquiet.posted
  | select config =>
    obtain ⟨device, hquiet, ⟨error, heq⟩ | heq⟩ := w.selectFor_eq i config
    · simp only [World.proceed, heq]
      exact h.quiet hquiet.accepted hquiet.posted
    · simp only [World.proceed, heq]
      exact h.quiet hquiet.accepted hquiet.posted
  | launch config =>
    rcases w.tryStart_cases i (config.plan c.settings.transfer) with
      ⟨error, heq⟩ | ⟨claims, size, pool, -, heq⟩
    · simp only [World.proceed, heq]
      exact h
    · obtain ⟨refused, t, ready, trace, -, -, -, hruns, hinbox, hdispatch, -, hlaunch⟩ :=
        { w with claims }.launch_eq i _ (config.plan c.settings.transfer) size pool
      have hadd := h.add (honest _) (config.plan c.settings.transfer) pool
        (by simp [DispatchTask.goes_of_rank hruns]) hinbox hdispatch
      rw [hlaunch] at heq
      cases refused with
      | none =>
        simp only [World.proceed, heq]
        exact hadd
      | some error =>
        simp only [World.proceed, heq]
        exact hadd
  | reset config error =>
    obtain ⟨device, trace, hquiet, heq⟩ := w.resetInterface_eq config.interface
    simp only [World.proceed, heq]
    exact h.quiet hquiet.accepted hquiet.posted
  | release config =>
    obtain ⟨device, trace, hquiet, heq⟩ := w.endClose_eq i config
    simp only [World.proceed, heq]
    exact h.quiet hquiet.accepted hquiet.posted
  | unwind | giveUp | drain => exact h

namespace Engine

/-- The keys that somebody has: the holder of the device, the tasks that go on, and others. -/
def keys (name : String) (holder : Option Nat) (tasks : List RunningTask) (outside : List ClaimKey) :
    List ClaimKey :=
  (holder.toList.map fun _ => ClaimKey.device name) ++ (World.liveClaims tasks ++ outside)

/-- Claims and roles are in order. -/
structure Ordered (name : String) (e : Engine σ) : Prop where
  records : e.world.claims.Records (keys name e.holder e.world.tasks e.outside)
  /-- Tasks claim endpoints of the device, and nothing else. -/
  endpoints : ∀ t ∈ e.world.tasks, ∃ address, t.claim = .endpoint name address
  roles : Roles e.world.clients e.world.tasks e.calls e.gone e.holder

/-- What holds of an engine at every moment. -/
structure Sound (name : String) (e : Engine σ) : Prop extends Ordered name e where
  accounts : Accounts e.world.tasks e.world.nextMailbox e.world.device

theorem endpoints_map {name : String} {tasks : List RunningTask}
    (h : ∀ t ∈ tasks, ∃ address, t.claim = .endpoint name address)
    {f : RunningTask → RunningTask} (hf : RunningTask.Keeps f) :
    ∀ t ∈ tasks.map f, ∃ address, t.claim = .endpoint name address := by
  intro t ht
  obtain ⟨u, hu, rfl⟩ := List.mem_map.mp ht
  rw [(hf u).claim]
  exact h u hu

theorem ordered_start {name : String} (device : σ) {controllers : List Controller} (now : Nat)
    {outside : List ClaimKey} (fresh : ∀ c ∈ controllers, c.closed = c) (distinct : outside.Nodup) :
    (start device controllers now outside).Ordered name where
  records := ⟨List.Perm.refl _, distinct⟩
  endpoints := fun t ht => absurd ht List.not_mem_nil
  roles := by
    have hclosed : ∀ (i : Nat) (c : Controller), controllers[i]? = some c →
        c.state = .closed ∧ c.stream = none ∧ c.catalog = none := by
      intro i c there
      have hsame := fresh c (List.mem_of_getElem? there)
      rw [← hsame]
      exact ⟨rfl, rfl, rfl⟩
    refine ⟨fun i c there => .inl (hclosed i c there), fun i => ⟨?_, ?_⟩, ?_, ?_, ?_⟩
    · intro hholder
      cases hholder
    · rintro ⟨c, there, hbusy⟩
      rw [(hclosed i c there).2.1] at hbusy
      cases hbusy with
      | inl hcall => cases hcall
      | inr hstream => cases hstream
    · exact fun i hi => absurd hi List.not_mem_nil
    · exact fun t ht => absurd ht List.not_mem_nil
    · exact fun t ht => absurd ht List.not_mem_nil

theorem accounts_start (device : σ) (controllers : List Controller) (now : Nat)
    (outside : List ClaimKey) :
    let w := (start device controllers now outside).world
    Accounts w.tasks w.nextMailbox w.device := by
  refine ⟨List.nodup_nil, ?_, ?_, ?_⟩
  · exact fun t ht => absurd ht List.not_mem_nil
  · exact fun entry hentry => absurd hentry List.not_mem_nil
  · exact fun t ht => absurd ht List.not_mem_nil

/-- Either no task makes a step, or one that goes on does. -/
theorem stepTask_eq [Transport σ] {w : World (Ledger σ) Controller Call}
    (distinct : World.Distinct w.tasks) (mailbox : Mailbox) :
    w.stepTask mailbox = w ∨
      ∃ t c s ready, t ∈ w.tasks ∧ t.task.isEnded = false ∧ w.clients[t.client]? = some c ∧
        t.task.step w.now c w.device = some s ∧ s.task.dispatch.mailbox = t.mailbox ∧
          w.stepTask mailbox =
            { w with
              device := s.device
              clients := w.clients.set t.client s.client
              claims :=
                if s.task.isEnded && !t.task.isEnded then w.claims.release t.claim else w.claims
              tasks := (World.changed w.tasks t s.task).map (·.receive s.posts)
              ready
              trace := w.trace ++ s.effects } := by
  rcases w.stepTask_cases mailbox with hsame | ⟨t, c, s, ht, there, hstep, hafter⟩
  · exact .inl hsame
  have hmailbox : s.task.dispatch.mailbox = t.mailbox := (DispatchTask.step_books hstep).mailbox
  obtain ⟨ready, heq⟩ := World.afterSteps_eq distinct ht hmailbox
  exact .inr ⟨t, c, s, ready, ht, DispatchTask.goes_of_step hstep, there, hstep, hmailbox,
    hafter.trans heq⟩

/-! ### The background -/

namespace Ordered

variable {name : String} {e : Engine σ}

/-- The registry, with the claims of tasks first. -/
theorem live_first (h : e.Ordered name) : e.world.claims.Records
    (World.liveClaims e.world.tasks ++
      ((e.holder.toList.map fun _ => ClaimKey.device name) ++ e.outside)) :=
  h.records.congr (List.perm_append_comm_assoc ..)

/-- Nobody is called, controllers go on, and nothing else changes than the books allow. -/
theorem of_onward (h : e.Ordered name) {w : World (Ledger σ) Controller Call}
    (records : w.claims.Records (keys name e.holder w.tasks e.outside))
    (endpoints : ∀ t ∈ w.tasks, ∃ address, t.claim = .endpoint name address)
    (clients : ClientsOnward e.world.clients w.clients) (tasks : TasksOnward e.world.tasks w.tasks) :
    { e with world := w }.Ordered name :=
  ⟨records, endpoints, h.roles.onward clients tasks⟩

/-- Only a controller changes, and onward. -/
theorem of_client (h : e.Ordered name) {index : Nat} {c c' : Controller} {trace : List (Effect Call)}
    (there : e.world.clients[index]? = some c) (honward : c.Onward c') :
    { e with world := { e.world with clients := e.world.clients.set index c', trace } }.Ordered name :=
  h.of_onward h.records h.endpoints (.set there honward) (.refl _)

theorem act (h : e.Ordered name) (distinct : World.Distinct e.world.tasks) (device : σ)
    (posts : List Post) :
    { e with world := (e.world.act fun l => ((), posts, l.act device posts)).2 }.Ordered name := by
  obtain ⟨ready, heq⟩ := World.act_eq distinct device posts
  have hkeeps := RunningTask.keeps_receive posts
  rw [heq]
  refine h.of_onward ?_ (endpoints_map h.endpoints hkeeps)
    (.refl _) (.map hkeeps _)
  rw [keys, World.liveClaims_map hkeeps]
  exact h.records

/-! ### Parts of a call -/

/-- A controller in the middle of a call, none of whose tasks goes on. -/
structure Calling (e : Engine σ) (i : Nat) (c : Controller) : Prop where
  there : e.world.clients[i]? = some c
  holder : e.holder = some i
  stays : i ∉ e.gone
  none_live : ∀ t ∈ e.world.tasks, t.task.isEnded = false → t.client ≠ i

variable {i : Nat} {c c' : Controller} {u : Option Undertaking}

theorem calling (h : e.Ordered name) (distinct : World.Distinct e.world.tasks) {u : Undertaking}
    (there : e.world.clients[i]? = some c) (hcall : e.calls i = some u)
    (waited : ∀ mailbox, u.awaits = some mailbox → e.world.hasEnded mailbox = true) :
    Calling e i c := by
  obtain ⟨hholder, hstays⟩ := h.roles.busy there (.inl (by rw [hcall]; rfl))
  refine ⟨there, hholder, hstays, h.roles.none_live there hstays fun mailbox hserves => ?_⟩
  rw [hcall] at hserves
  exact (World.hasEnded_iff distinct).mp (waited mailbox hserves)

/-- A part of a call that starts no task and keeps the claim. -/
theorem goOn (h : e.Ordered name) (hc : Calling e i c) {device : Ledger σ}
    {clients : List Controller} {trace : List (Effect Call)}
    (self : clients[i]? = some c') (rest : ∀ j, j ≠ i → clients[j]? = e.world.clients[j]?)
    (fits : c'.Fits u) (busy : u.isSome ∨ c'.stream.isSome) :
    { e with
      world := { e.world with device, clients, trace }
      calls := Function.update e.calls i u }.Ordered name where
  records := h.records
  endpoints := h.endpoints
  roles := h.roles.call self rest fits (by simpa [hc.holder] using busy) (fun _ _ => .rfl)
    (fun hgone => absurd hgone hc.stays) (fun _ _ => .rfl)
    (fun t ht hgoes _ => TasksOnward.refl _ t ht hgoes)
    (fun t ht hgoes hmine => absurd hmine (hc.none_live t ht hgoes))

/-- The last part of a call that leaves nothing open gives the claim back. -/
theorem giveBack (h : e.Ordered name) (hc : Calling e i c) {device : Ledger σ}
    {trace : List (Effect Call)} :
    { e with
      world :=
        { e.world with
          device
          claims := e.world.claims.release (.device name)
          clients := e.world.clients.modify i Controller.closed
          trace }
      calls := Function.update e.calls i none
      holder := none }.Ordered name where
  records := by
    have hrecords := h.records
    rw [hc.holder] at hrecords
    exact hrecords.release
  endpoints := h.endpoints
  roles := by
    have hself : (e.world.clients.modify i Controller.closed)[i]? = some c.closed := by
      simp [hc.there]
    refine h.roles.call hself (fun j hj => List.getElem?_modify_ne _ _ hj.symm)
      (.inl ⟨rfl, rfl, rfl⟩) ?_ (fun j hj => ?_) (fun hgone => absurd hgone hc.stays)
      (fun _ _ => .rfl) (fun t ht hgoes _ => TasksOnward.refl _ t ht hgoes)
      (fun t ht hgoes hmine => absurd hmine (hc.none_live t ht hgoes))
    · exact ⟨nofun, fun hbusy => hbusy.elim nofun nofun⟩
    · rw [hc.holder]
      exact ⟨nofun, fun hsame => absurd (Option.some.inj hsame).symm hj⟩

variable [Transport σ]

/-- The transfers are started, and a task goes on with them. -/
theorem launched (h : e.Ordered name) (named : Transport.deviceId e.world.device = name)
    (hc : Calling e i c) {plan : TransferPlan} {claims : ClaimRegistry} {size : Nat}
    {pool : List Transfer}
    (acquired : e.world.claims.acquire
      (.endpoint (Transport.deviceId e.world.device) plan.endpoint) = some claims)
    {w : World (Ledger σ) Controller Call} {refused : Option TransportError}
    (hlaunch : { e.world with claims }.launch i
      (.endpoint (Transport.deviceId e.world.device) plan.endpoint) plan size pool =
        ((e.world.nextMailbox, refused), w)) {clients : List Controller} {trace : List (Effect Call)}
    (self : clients[i]? = some c') (rest : ∀ j, j ≠ i → clients[j]? = e.world.clients[j]?)
    (fits : c'.Fits u) (busy : u.isSome ∨ c'.stream.isSome)
    (served : c'.serves u = some e.world.nextMailbox) (unwinds : u.isSome → refused.isSome) :
    { e with
      world := { w with clients, trace }
      calls := Function.update e.calls i u }.Ordered name := by
  obtain ⟨refused', t, ready, trace', hclient, hclaim, hmailbox, hruns, -, -, hwinding, heq⟩ :=
    { e.world with claims }.launch_eq i _ plan size pool
  have hgoes := DispatchTask.goes_of_rank hruns
  rw [hlaunch] at heq
  cases heq
  rw [named] at acquired hclaim
  refine ⟨?_, ?_, ?_⟩
  · rw [← hclaim] at acquired
    exact (h.live_first.launched hgoes acquired).congr (List.perm_append_comm_assoc ..)
  · intro v hv
    rcases List.mem_append.mp hv with hold | hnew
    · exact h.endpoints v hold
    · rw [List.mem_singleton.mp hnew]
      exact ⟨plan.endpoint, hclaim⟩
  · refine h.roles.call self rest fits (by simpa [hc.holder] using busy) (fun _ _ => .rfl)
      (fun hgone => absurd hgone hc.stays) (fun _ _ => .rfl) (fun v hv hlive hother => ?_)
      (fun v hv hlive hmine => ?_)
    · rcases List.mem_append.mp hv with hold | hnew
      · exact TasksOnward.refl _ v hold hlive
      · rw [List.mem_singleton.mp hnew, hclient] at hother
        exact absurd rfl hother
    · rcases List.mem_append.mp hv with hold | hnew
      · exact absurd hmine (hc.none_live v hold hlive)
      · rw [List.mem_singleton.mp hnew, hmailbox]
        exact ⟨.inr served, fun hcall => hwinding (unwinds hcall)⟩

theorem stepTask (h : e.Ordered name) (distinct : World.Distinct e.world.tasks)
    (mailbox : Mailbox) : { e with world := e.world.stepTask mailbox }.Ordered name := by
  rcases stepTask_eq distinct mailbox with
    hsame | ⟨t, c, s, ready, ht, hgoes, there, hstep, hmailbox, heq⟩
  · rw [hsame]
    exact h
  have hkeeps := RunningTask.keeps_receive s.posts
  rw [heq]
  refine h.of_onward ?_ ?_ (.set there (DispatchTask.onward_step hstep))
    ((TasksOnward.changed ht hgoes hmailbox (DispatchTask.step_winding hstep)).trans
      (.map hkeeps _))
  · rw [keys, World.liveClaims_map hkeeps]
    exact (h.live_first.stepped distinct ht hgoes s.task).congr (List.perm_append_comm_assoc ..)
  · refine endpoints_map (fun u hu => ?_) hkeeps
    rcases World.mem_changed.mp hu with ⟨hold, -⟩ | rfl
    · exact h.endpoints u hold
    · exact h.endpoints t ht

/-- Every part of a call leaves things as the next one needs them. -/
theorem proceed (h : e.Ordered name) (distinct : World.Distinct e.world.tasks)
    (before : Transport.deviceId e.world.device = name) {u : Undertaking}
    (there : e.world.clients[i]? = some c) (hcall : e.calls i = some u)
    (waited : ∀ mailbox, u.awaits = some mailbox → e.world.hasEnded mailbox = true)
    (after : Transport.deviceId (e.world.proceed i c u).1.device = name) :
    (e.proceed i c u).Ordered name := by
  unfold Engine.proceed
  have hc := h.calling distinct there hcall waited
  have hfits := h.roles.fits i c there
  rw [hcall] at hfits
  have hmodify : ∀ f : Controller → Controller, (e.world.clients.modify i f)[i]? = some (f c) := by
    intro f
    simp [there]
  have hrest : ∀ f : Controller → Controller, ∀ j, j ≠ i →
      (e.world.clients.modify i f)[j]? = e.world.clients[j]? :=
    fun f j hj => List.getElem?_modify_ne _ _ hj.symm
  cases u with
  | agree request =>
    obtain ⟨device, trace, -, ⟨error, heq⟩ | ⟨config, catalog, heq⟩⟩ :=
      e.world.agreeFor_eq i c request
    · simp only [World.proceed, heq]
      exact h.goOn hc there (fun _ _ => rfl) ⟨.inl hfits.1, hfits.2⟩ (.inl rfl)
    · simp only [World.proceed, heq]
      exact h.goOn hc (hmodify _) (hrest _) ⟨hfits.1, hfits.2, rfl⟩ (.inl rfl)
  | select config =>
    obtain ⟨device, -, ⟨error, heq⟩ | heq⟩ := e.world.selectFor_eq i config
    · simp only [World.proceed, heq]
      exact h.goOn hc there (fun _ _ => rfl) ⟨.inl hfits.1, hfits.2.1⟩ (.inl rfl)
    · simp only [World.proceed, heq]
      exact h.goOn hc (hmodify _) (hrest _) ⟨rfl, hfits.2⟩ (.inl rfl)
  | launch config =>
    rcases e.world.tryStart_cases i (config.plan c.settings.transfer) with
      ⟨error, heq⟩ | ⟨claims, size, pool, hclaims, heq⟩
    · simp only [World.proceed, heq]
      exact h.goOn hc there (fun _ _ => rfl) ⟨hfits.1, hfits.2.1⟩ (.inl rfl)
    · obtain ⟨refused, t, ready, trace, -, -, -, -, -, -, -, hlaunch⟩ :=
        { e.world with claims }.launch_eq i _ (config.plan c.settings.transfer) size pool
      rw [hlaunch] at heq
      cases refused with
      | none =>
        simp only [World.proceed, heq]
        exact h.launched before hc hclaims hlaunch (hmodify _) (hrest _)
          (.inr ⟨.inl hfits.1, rfl, hfits.2.2⟩) (.inr rfl) rfl nofun
      | some error =>
        simp only [World.proceed, heq]
        exact h.launched before hc hclaims hlaunch there (fun _ _ => rfl) ⟨hfits.1, hfits.2.1⟩
          (.inl rfl) rfl fun _ => rfl
  | unwind config mailbox error =>
    exact h.goOn hc there (fun _ _ => rfl) hfits (.inl rfl)
  | reset config error =>
    obtain ⟨device, trace, -, heq⟩ := e.world.resetInterface_eq config.interface
    simp only [World.proceed, heq]
    exact h.goOn hc there (fun _ _ => rfl) ⟨.inr hfits.1, hfits.2⟩ (.inl rfl)
  | giveUp error =>
    obtain ⟨trace, heq⟩ := e.world.giveUp_eq i error
    simp only [World.proceed, heq, World.deviceClaim, before]
    exact h.giveBack hc
  | drain config mailbox =>
    refine h.goOn hc (hmodify _) (hrest _) ⟨hfits.1, ?_⟩ (.inl rfl)
    simpa [Controller.discardFrames] using congrArg Option.isSome hfits.2
  | release config =>
    obtain ⟨device, trace, -, heq⟩ := e.world.endClose_eq i config
    simp only [World.proceed, heq] at after ⊢
    rw [after]
    exact h.giveBack hc

/-! ### The host -/

omit [Transport σ] in
/-- While the device is free nobody holds it. -/
theorem nobody (h : e.Ordered name) {claims : ClaimRegistry}
    (acquired : e.world.claims.acquire (.device name) = some claims) : e.holder = none := by
  have hclaims := h.records.acquire acquired
  cases hholder : e.holder with
  | none => rfl
  | some j =>
    -- A holder would have the key already, and it was free.
    rw [hholder] at hclaims
    have hnodup := hclaims.perm.nodup_iff.mp hclaims.nodup
    exact absurd (List.mem_cons_self) (List.nodup_cons.mp hnodup).1

/-- A controller that claims the device is the only one that holds it. -/
theorem claim (h : e.Ordered name) (named : Transport.deviceId e.world.device = name)
    (idle : e.Idle i c) (closed : c.state = .closed) (request : StreamRequest)
    {claims : ClaimRegistry}
    (acquired : e.world.claims.acquire e.world.deviceClaim = some claims) :
    (e.claimed i request claims).Ordered name := by
  rw [World.deviceClaim, named] at acquired
  have hfits := h.roles.fits i c idle.there
  rw [idle.free] at hfits
  have hstream : c.stream = none := by
    rcases hfits with ⟨-, hnone, -⟩ | ⟨hopen | hopen, -⟩
    · exact hnone
    · rw [closed] at hopen
      cases hopen
    · rw [closed] at hopen
      cases hopen
  have hclaims := h.records.acquire acquired
  have hnobody := h.nobody acquired
  have hlive := h.roles.none_live idle.there idle.stays fun mailbox hserves => by
    rw [idle.free, Controller.serves, hstream] at hserves
    cases hserves
  rw [hnobody] at hclaims
  refine ⟨hclaims, h.endpoints, h.roles.call (c := c.negotiating) ?_ ?_ ⟨rfl, hstream⟩ ?_ ?_
    (fun hgone => absurd hgone idle.stays) (fun _ _ => .rfl)
    (fun t ht hgoes _ => TasksOnward.refl _ t ht hgoes)
    (fun t ht hgoes hmine => absurd hmine (hlive t ht hgoes))⟩
  · show (e.world.clients.modify i Controller.negotiating)[i]? = _
    simp [idle.there]
  · exact fun j hj => List.getElem?_modify_ne _ _ hj.symm
  · exact ⟨fun _ => .inl rfl, fun _ => rfl⟩
  · intro j hj
    rw [hnobody]
    exact ⟨fun hsame => absurd (Option.some.inj hsame).symm hj, nofun⟩

omit [Transport σ] in
theorem close (h : e.Ordered name) (distinct : World.Distinct e.world.tasks) (idle : e.Idle i c)
    {s : OpenStream} (stream : c.stream = some s) : (e.closing i s).Ordered name := by
  unfold closing
  obtain ⟨tasks, ready, htasks, heq⟩ := e.world.beginClose_eq i s.mailbox
  rw [heq]
  obtain ⟨hholder, hstays⟩ := h.roles.busy idle.there (.inr (by rw [stream]; rfl))
  -- Told or not, the tasks are who they were, and that of the stream is on its way to the end.
  have htold : ∃ f, RunningTask.Keeps f ∧ tasks = e.world.tasks.map f ∧
      ∀ t ∈ tasks, t.task.isEnded = false → t.mailbox = s.mailbox → t.task.Winding := by
    rcases htasks with ⟨rfl, hended⟩ | rfl
    · refine ⟨id, .refl, by simp, fun t ht hgoes hmailbox => ?_⟩
      rw [(World.hasEnded_iff distinct).mp hended t ht hmailbox] at hgoes
      cases hgoes
    · refine ⟨_, RunningTask.keeps_told s.mailbox, rfl, fun t ht _ hmailbox => ?_⟩
      obtain ⟨t₀, -, rfl⟩ := List.mem_map.mp ht
      exact RunningTask.winding_told hmailbox
  obtain ⟨f, hkeeps, hmap, hwinding⟩ := htold
  subst hmap
  have honward := TasksOnward.map hkeeps e.world.tasks
  refine ⟨?_, endpoints_map h.endpoints hkeeps,
    h.roles.call (c := { c with state := .stopping }) ?_ ?_ ⟨rfl, ?_⟩ ?_ (fun _ _ => .rfl)
      (fun hgone => absurd hgone hstays) (fun _ _ => .rfl) (fun t ht hgoes _ => honward t ht hgoes) ?_⟩
  · rw [keys, World.liveClaims_map hkeeps]
    exact h.records
  · show (e.world.clients.modify i _)[i]? = _
    simp [idle.there]
  · exact fun j hj => List.getElem?_modify_ne _ _ hj.symm
  · rw [stream]
    rfl
  · simp [hholder]
  · intro t' ht' hgoes' hmine
    obtain ⟨t, ht, hsame⟩ := honward t' ht' hgoes'
    rw [← hsame.client] at hmine
    subst hmine
    rcases h.roles.serving t ht hsame.goes with hgone | ⟨c', there', hserves⟩
    · exact absurd hgone hstays
    · rw [idle.there] at there'
      cases there'
      rw [idle.free, Controller.serves, stream, hsame.mailbox] at hserves
      exact ⟨.inr hserves, fun _ => hwinding t' ht' hgoes' (Option.some.inj hserves).symm⟩

/-- A controller goes away with its claim, and leaves its task behind. -/
theorem drop (h : e.Ordered name) (idle : e.Idle i c)
    (named : Transport.deviceId (e.world.abandon i).device = name) :
    (e.dropped i).Ordered name := by
  unfold dropped
  have hsame : Function.update e.calls i none = e.calls := by
    rw [← idle.free]
    exact Function.update_eq_self i e.calls
  have hothers : ∀ j, j ≠ i → (j ∈ i :: e.gone ↔ j ∈ e.gone) := fun j hj => by simp [hj]
  rcases e.world.abandon_eq i with ⟨hnone, heq⟩ | ⟨s, device, ready, trace, hsome, -, heq⟩
  · have hstream : c.stream = none := by simpa [World.stream?, idle.there] using hnone
    have hfree : e.holder ≠ some i := by
      rw [Ne, h.roles.owner i, idle.free]
      rintro ⟨c', there, hbusy⟩
      rw [idle.there] at there
      cases there
      rw [hstream] at hbusy
      exact hbusy.elim nofun nofun
    have hfits := h.roles.fits i c idle.there
    rw [idle.free] at hfits
    rw [heq, if_neg hfree]
    refine ⟨h.records, h.endpoints, ?_⟩
    have hroles : Roles e.world.clients e.world.tasks (Function.update e.calls i none)
        (i :: e.gone) e.holder :=
      h.roles.call idle.there (fun _ _ => rfl) hfits (by simp [hfree, hstream]) (fun _ _ => .rfl)
        (fun _ => ⟨rfl, hstream⟩) hothers (fun t ht hgoes _ => TasksOnward.refl _ t ht hgoes)
        (fun _ _ _ _ => ⟨.inl List.mem_cons_self, nofun⟩)
    rwa [hsame] at hroles
  · have hstream : c.stream.isSome := by
      simpa [World.stream?, idle.there] using congrArg Option.isSome hsome
    obtain ⟨hholder, -⟩ := h.roles.busy idle.there (.inr hstream)
    have hkeeps := RunningTask.keeps_told s.mailbox
    rw [heq] at named ⊢
    dsimp only at named ⊢
    rw [named, if_pos hholder]
    refine ⟨?_, endpoints_map h.endpoints hkeeps, ?_⟩
    · have hrecords := h.records
      rw [hholder] at hrecords
      rw [keys, World.liveClaims_map hkeeps]
      exact hrecords.release
    · have hself : (e.world.clients.modify i Controller.closed)[i]? = some c.closed := by
        simp [idle.there]
      have hfreed : ∀ j, j ≠ i → (none = some j ↔ e.holder = some j) := fun j hj => by
        rw [hholder]
        exact ⟨nofun, fun hsame => absurd (Option.some.inj hsame).symm hj⟩
      have hroles : Roles (e.world.clients.modify i Controller.closed)
          (e.world.tasks.map (·.told s.mailbox)) (Function.update e.calls i none) (i :: e.gone) none :=
        h.roles.call hself (fun j hj => List.getElem?_modify_ne _ _ hj.symm) (.inl ⟨rfl, rfl, rfl⟩)
          ⟨nofun, fun hbusy => hbusy.elim nofun nofun⟩ hfreed (fun _ => ⟨rfl, rfl⟩) hothers
          (fun t ht hgoes _ => TasksOnward.map hkeeps e.world.tasks t ht hgoes)
          (fun _ _ _ _ => ⟨.inl List.mem_cons_self, nofun⟩)
      rwa [hsame] at hroles

end Ordered

/-! ### All steps -/

variable [Transport σ] {name : String} {a b : Engine σ} {event : Event}

/-- Whatever happens, claims and roles stay in order. -/
theorem Step.ordered (hs : Step a event b) (h : a.Ordered name)
    (distinct : World.Distinct a.world.tasks) (before : Transport.deviceId a.world.device = name)
    (after : Transport.deviceId b.world.device = name) : b.Ordered name := by
  cases hs with
  | claim index c request claims idle closed acquired =>
    exact h.claim before idle closed request acquired
  | proceed index c u there calling waited => exact h.proceed distinct before there calling waited after
  | close index c s idle stream => exact h.close distinct idle stream
  | disconnect index c idle =>
    rcases a.world.notifyDisconnect_eq index with hsame | ⟨c, c', trace, there, honward, heq⟩
    · rw [hsame]
      exact h
    · rw [heq]
      exact h.of_client there honward
  | listen index c hub idle =>
    refine h.of_onward h.records h.endpoints (.modify (fun c => ?_) _ _) (.refl _)
    exact ⟨rfl, rfl, .inl rfl, fun _ => rfl⟩
  | drop index c idle => exact h.drop idle after
  | task mailbox => exact h.stepTask distinct mailbox
  | worker index worker =>
    rcases a.world.onPipeline_eq index worker.onward with hsame | ⟨c, c', trace, there, honward, heq⟩
    · rw [hsame]
      exact h
    · rw [heq]
      exact h.of_client there honward
  | device device posts => exact h.act distinct device posts
  | pass time =>
    obtain ⟨ready, heq⟩ := a.world.advanceTo_eq time
    rw [heq]
    exact h.of_onward h.records h.endpoints (.refl _) (.refl _)
  | schedule ready => exact h.of_onward h.records h.endpoints (.refl _) (.refl _)
  | acquire key claims acquired =>
    refine ⟨(h.records.acquire acquired).congr ?_, h.endpoints, h.roles⟩
    exact ((List.perm_middle.append_left _).trans List.perm_middle).symm
  | release key held =>
    refine ⟨(h.records.congr ?_).release, h.endpoints, h.roles⟩
    have hsplit := ((List.perm_cons_erase held).append_left (World.liveClaims a.world.tasks)).trans
      List.perm_middle
    exact (hsplit.append_left _).trans List.perm_middle

/-- On an honest and prompt bus stack the accounts stay in order. -/
theorem Step.accounts (hs : Step a event b)
    (h : Accounts a.world.tasks a.world.nextMailbox a.world.device) (before : a.Contract name) :
    Accounts b.world.tasks b.world.nextMailbox b.world.device := by
  cases hs with
  | proceed index c u there calling waited => exact h.proceed before.honest index c u
  | close index c s idle stream =>
    obtain ⟨tasks, ready, htasks, heq⟩ := a.world.beginClose_eq index s.mailbox
    rw [closing, heq]
    rcases htasks with ⟨rfl, -⟩ | rfl
    · exact h
    · exact h.told s.mailbox
  | disconnect index c idle =>
    rcases a.world.notifyDisconnect_eq index with hsame | ⟨c, c', trace, -, -, heq⟩
    · rwa [hsame]
    · rwa [heq]
  | drop index c idle =>
    rcases a.world.abandon_eq index with ⟨-, heq⟩ | ⟨s, device, ready, trace, -, hquiet, heq⟩
    · rwa [dropped, heq]
    · rw [dropped, heq]
      exact (h.told s.mailbox).quiet hquiet.accepted hquiet.posted
  | task mailbox =>
    rcases stepTask_eq h.distinct mailbox with hsame | ⟨t, c, s, ready, ht, -, -, hstep, -, heq⟩
    · rwa [hsame]
    · rw [heq]
      exact h.step ht hstep (before.honest _) (before.prompt t ht)
  | worker index worker =>
    rcases a.world.onPipeline_eq index worker.onward with hsame | ⟨c, c', trace, -, -, heq⟩
    · rwa [hsame]
    · rwa [heq]
  | device device posts =>
    obtain ⟨ready, heq⟩ := World.act_eq h.distinct device posts
    rw [heq]
    exact h.arrive rfl rfl
  | pass time =>
    obtain ⟨ready, heq⟩ := a.world.advanceTo_eq time
    rwa [heq]
  | claim | listen | schedule | acquire | release => exact h

/-- Whatever happens, the invariant is kept. -/
theorem Step.sound (hs : Step a event b) (h : a.Sound name) (before : a.Contract name)
    (after : b.Contract name) : b.Sound name where
  toOrdered := hs.ordered h.toOrdered h.accounts.distinct before.name after.name
  accounts := hs.accounts h.accounts before

/-! ### Along a run -/

/-- The engines of all runs on a device that keeps its name. The bus stack need not keep its
contract. -/
inductive Named (name : String) : Engine σ → Prop where
  | start (device : σ) (controllers : List Controller) (now : Nat) (outside : List ClaimKey)
      (named : Transport.deviceId device = name) (fresh : ∀ c ∈ controllers, c.closed = c)
      (distinct : outside.Nodup) : Named name (Engine.start device controllers now outside)
  | step {a b : Engine σ} {event : Event} (h : Named name a) (hs : Step a event b)
      (named : Transport.deviceId b.world.device = name) : Named name b

theorem Named.deviceId {e : Engine σ} (h : Named name e) :
    Transport.deviceId e.world.device = name := by
  cases h with
  | start _ _ _ _ named => exact named
  | step _ _ named => exact named

theorem Reachable.named {e : Engine σ} (h : Reachable name e) : Named name e := by
  induction h with
  | start device controllers now outside named fresh distinct =>
    exact .start device controllers now outside named fresh distinct
  | step _ hs contract ih => exact ih.step hs contract.name

theorem Reachable.contract {e : Engine σ} (h : Reachable name e) : e.Contract name := by
  cases h with
  | start device controllers now outside named fresh distinct =>
    exact ⟨named, fun _ => List.nil_subperm, fun t ht => absurd ht List.not_mem_nil⟩
  | step _ _ contract => exact contract

theorem Reachable.sound {e : Engine σ} (h : Reachable name e) : e.Sound name := by
  induction h with
  | start device controllers now outside _ fresh distinct =>
    exact ⟨ordered_start device now fresh distinct, accounts_start device controllers now outside⟩
  | step h hs contract ih => exact hs.sound ih h.contract contract

end Engine

end UsbVideo
