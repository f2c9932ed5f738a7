import UsbVideo.Proofs.Engine.Course
import UsbVideo.Proofs.Engine.Drift
import UsbVideo.Proofs.Engine.Waiting

/-!
# Calls as a whole

`World.openStream` and `World.closeStream` are runs of an engine: what they do one after the other are
the parts of a call, and what happens while they wait is in the background. Every wait ends with the
task that is waited for, so every part has its turn:

    openStream    claim │ agree │ select │ launch, and when one fails unwind, reset, giveUp
    closeStream   close │ drain │ release

`Progress` lists the parts a call has gone through, whatever else happened between them, and `Leads`
says what a call to open comes to in the end. So what holds of every engine that can be reached holds
between these calls (`run_openStream`, `run_closeStream`), as long as the bus stack keeps its contract
meanwhile.
-/

namespace UsbVideo

variable {σ : Type} [Transport σ]

/-- A part of a call that was carried out, and what it found. -/
structure Part (σ : Type) where
  world : World (Ledger σ) Controller Call
  controller : Controller
  undertaking : Undertaking

/-- How a call to open ends with this part, unless it goes on. -/
def Undertaking.outcome : Undertaking → Option (Except StreamError StreamConfig)
  | giveUp e => some (.error e)
  | launch config => some (.ok config)
  | _ => none

theorem Undertaking.awaits_of_outcome {u : Undertaking} {r : Except StreamError StreamConfig}
    (h : u.outcome = some r) : u.awaits = none := by
  cases u with
  | unwind | drain => cases h
  | _ => rfl

namespace Engine

/-- A call of a controller went on with these parts, and between them other things happened. -/
inductive Progress (index : Nat) (a : Engine σ) : List (Part σ) → Engine σ → Prop where
  | refl : Progress index a [] a
  | part {parts : List (Part σ)} {b : Engine σ} (h : Progress index a parts b) (c : Controller)
      (u : Undertaking) (there : b.world.clients[index]? = some c) (calling : b.calls index = some u)
      (waited : ∀ mailbox, u.awaits = some mailbox → b.world.hasEnded mailbox = true) :
      Progress index a (parts ++ [⟨b.world, c, u⟩]) (b.proceed index c u)
  | meanwhile {parts : List (Part σ)} {b b' : Engine σ} {event : Event}
      (h : Progress index a parts b) (hs : Step b event b') (same : b'.calls index = b.calls index) :
      Progress index a parts b'

namespace Progress

variable {i : Nat} {a b b' : Engine σ} {parts later : List (Part σ)}

theorem trans (h : Progress i a parts b) (h' : Progress i b later b') :
    Progress i a (parts ++ later) b' := by
  induction h' with
  | refl => rwa [List.append_nil]
  | part _ c u there calling waited ih =>
    rw [← List.append_assoc]
    exact ih.part c u there calling waited
  | meanwhile _ hs same ih => exact ih.meanwhile hs same

theorem of_background (h : Background a b) : Progress i a [] b := by
  induction h with
  | refl => exact .refl
  | tail _ hs ih =>
    obtain ⟨event, hs, hcalls⟩ := hs
    exact ih.meanwhile hs (congrFun hcalls i)

theorem run (h : Progress i a parts b) : Run a b := by
  induction h with
  | refl => exact .refl
  | part _ c u there calling waited ih => exact ih.tail ⟨_, .proceed _ i c u there calling waited⟩
  | meanwhile _ hs _ ih => exact ih.tail ⟨_, hs⟩

end Progress

/-- An engine while a controller is called, or when the call is over. -/
def during (e : Engine σ) (index : Nat) (holder : Option Nat)
    (p : World (Ledger σ) Controller Call × Option Undertaking) : Engine σ :=
  { e with world := p.1, calls := Function.update e.calls index p.2, holder }

theorem during_proceed (e : Engine σ) (index : Nat) (holder : Option Nat)
    (w : World (Ledger σ) Controller Call) (c : Controller) (u : Undertaking) :
    (e.during index holder (w, some u)).proceed index c u =
      e.during index (if u.givesBack then none else holder) (w.proceed index c u) := by
  rw [Engine.proceed, during, Function.update_idem]
  rfl

/-- A call of a controller leads from one world, with this part to come, to another. -/
def Carries (index : Nat) (p p' : World (Ledger σ) Controller Call × Option Undertaking) : Prop :=
  ∀ (e : Engine σ) holder, ∃ holder' parts,
    Progress index (e.during index holder p) parts (e.during index holder' p')

namespace Carries

variable {i : Nat} {p p' p'' : World (Ledger σ) Controller Call × Option Undertaking}
  {w w' : World (Ledger σ) Controller Call} {c : Controller} {u : Undertaking}

protected theorem refl (p : World (Ledger σ) Controller Call × Option Undertaking) : Carries i p p :=
  fun _ holder => ⟨holder, [], .refl⟩

theorem trans (h : Carries i p p') (h' : Carries i p' p'') : Carries i p p'' := by
  intro e holder
  obtain ⟨first, parts, hfirst⟩ := h e holder
  obtain ⟨last, later, hlast⟩ := h' e first
  exact ⟨last, parts ++ later, hfirst.trans hlast⟩

/-- Things happen in the background. -/
theorem drift (h : World.Drifts w w') (u : Option Undertaking) : Carries i (w, u) (w', u) :=
  fun e holder => ⟨holder, [], .of_background (h.background (e.during i holder (w, u)) rfl)⟩

/-- A part of a call that need not wait. -/
theorem part (there : w.clients[i]? = some c)
    (waited : ∀ mailbox, u.awaits = some mailbox → w.hasEnded mailbox = true) :
    Carries i (w, some u) (w.proceed i c u) := by
  intro e holder
  have hcalls : (e.during i holder (w, some u)).calls i = some u := Function.update_self ..
  have hpart := Progress.refl.part (a := e.during i holder (w, some u)) c u there hcalls waited
  rw [during_proceed] at hpart
  exact ⟨_, [⟨w, c, u⟩], hpart⟩

end Carries

/-- A call to open that comes to this part in this world ends so. -/
def Leads (index : Nat) (w : World (Ledger σ) Controller Call) (u : Undertaking)
    (r : Except StreamError StreamConfig × World (Ledger σ) Controller Call) : Prop :=
  ∃ w' c v, Carries index (w, some u) (w', some v) ∧ w'.clients[index]? = some c ∧
    v.outcome = some r.1 ∧ w'.proceed index c v = (r.2, none)

namespace Leads

variable {i : Nat} {w w' : World (Ledger σ) Controller Call} {c : Controller} {u v : Undertaking}
  {r : Except StreamError StreamConfig × World (Ledger σ) Controller Call}

theorem last (there : w.clients[i]? = some c) (outcome : u.outcome = some r.1)
    (returns : w.proceed i c u = (r.2, none)) : Leads i w u r :=
  ⟨w, c, u, .refl _, there, outcome, returns⟩

theorem after (h : Carries i (w, some u) (w', some v)) (h' : Leads i w' v r) : Leads i w u r := by
  obtain ⟨w'', c, last, hcarries, hlast⟩ := h'
  exact ⟨w'', c, last, h.trans hcarries, hlast⟩

theorem carries (h : Leads i w u r) : Carries i (w, some u) (r.2, none) := by
  obtain ⟨w', c, v, hcarries, there, houtcome, hover⟩ := h
  have hlast : Carries i (w', some v) (w'.proceed i c v) :=
    .part there fun mailbox hawaits => by cases (v.awaits_of_outcome houtcome).symm.trans hawaits
  rw [hover] at hlast
  exact hcarries.trans hlast

end Leads

end Engine

namespace World

open Engine

variable {w : World (Ledger σ) Controller Call} {i : Nat} {c : Controller}

/-! ### Opening -/

theorem leads_giveUp (there : i < w.clients.length) (e : StreamError) :
    Leads i w (.giveUp e) (.error e, w.giveUp i e) :=
  .last (List.getElem?_eq_getElem there) rfl rfl

/-- Opening failed after the alternate setting was selected. -/
theorem leads_reset (served : w.Served) (there : i < w.clients.length) (config : StreamConfig)
    (e : StreamError) :
    Leads i w (.reset config e)
      (.error e, (w.runReady.resetInterface config.interface).giveUp i e) := by
  have hready := (Background.runReady served).drifts served
  have hthere : i < w.runReady.clients.length := by rwa [hready.clients]
  obtain ⟨device, trace, -, heq⟩ := w.runReady.resetInterface_eq config.interface
  have hlast : i < (w.runReady.resetInterface config.interface).clients.length := by rwa [heq]
  exact .after (.drift hready _) <| .after
    (.part (u := .reset config e) (List.getElem?_eq_getElem hthere) nofun) (leads_giveUp hlast e)

/-- A submission was refused: the task takes back those before it, and is waited for. -/
theorem leads_unwind (served : w.Served) (there : i < w.clients.length) {t : RunningTask}
    (ht : t ∈ w.tasks) (winding : t.task.Winding) (config : StreamConfig) (error : TransportError) :
    Leads i w (.unwind config t.mailbox error)
      (.error (.start (.transport error)),
        (((w.runTask t.mailbox).awaitEnd t.mailbox).runReady.resetInterface config.interface).giveUp i
          (.start (.transport error))) := by
  have hrun := Background.runTask served t.mailbox
  have hwait := Background.drifts (hrun.trans (Background.awaitEnd (hrun.served served) t.mailbox)) served
  have hthere : i < ((w.runTask t.mailbox).awaitEnd t.mailbox).clients.length := by
    rwa [hwait.clients]
  have hended := awaitEnd_runTask_ended served ht winding
  refine .after (.drift hwait _) (.after (.part (List.getElem?_eq_getElem hthere) ?_)
    (leads_reset (hwait.served served) hthere config _))
  rintro mailbox ⟨⟩
  exact hended

/-- What becomes of a call to open when its stream was started, or not. -/
def afterStart (index : Nat) (config : StreamConfig) :
    Except StartError Mailbox × World (Ledger σ) Controller Call →
      Except StreamError StreamConfig × World (Ledger σ) Controller Call
  | (.ok mailbox, w) => (.ok config, (w.keepStream index config mailbox).log (streamingLine config))
  | (.error e, w) =>
    (.error (.start e), (w.runReady.resetInterface config.interface).giveUp index (.start e))

theorem leads_launch (served : w.Served) (there : w.clients[i]? = some c) (config : StreamConfig) :
    Leads i w (.launch config) (afterStart i config (w.start i (config.plan c.settings.transfer))) := by
  have hlt := (List.getElem?_eq_some_iff.mp there).1
  have hpart := Carries.part (u := .launch config) there nofun
  have hproceeded := (w.proceeded i c (.launch config)).served served hlt
  rcases w.tryStart_cases i (config.plan c.settings.transfer) with
    ⟨error, heq⟩ | ⟨claims, size, pool, -, heq⟩
  · simp only [proceed, heq] at hpart
    simp only [start, heq]
    exact .after hpart (leads_reset served hlt config _)
  · obtain ⟨refused, t, ready, trace, -, -, hmailbox, -, -, -, hwinding, hlaunch⟩ :=
      { w with claims }.launch_eq i _ (config.plan c.settings.transfer) size pool
    rw [hlaunch] at heq
    cases refused with
    | none =>
      simp only [start, heq]
      exact .last there rfl (by simp only [proceed, heq]; rfl)
    | some error =>
      simp only [proceed, heq] at hpart hproceeded
      simp only [start, heq]
      have hunwind := leads_unwind hproceeded hlt
        (List.mem_append_right _ (List.mem_singleton_self t)) (hwinding rfl) config error
      rw [hmailbox] at hunwind
      exact .after hpart hunwind

/-- What becomes of a call to open when the controller agreed with the device, or not. -/
def afterAgreement (index : Nat) :
    Except StreamError StreamConfig × World (Ledger σ) Controller Call →
      Except StreamError StreamConfig × World (Ledger σ) Controller Call
  | (.ok config, w) => (.ok config, w.log (streamingLine config))
  | (.error e, w) => (.error e, w.giveUp index e)

/-- From the alternate setting on. -/
theorem leads_select (served : w.Served) (there : w.clients[i]? = some c) (config : StreamConfig) :
    Leads i w (.select config)
      (afterAgreement i
        ((w.startStream i c config).1.map fun () => config, (w.startStream i c config).2)) := by
  have hlt := (List.getElem?_eq_some_iff.mp there).1
  have hpart := Carries.part (u := .select config) there nofun
  have hproceeded := (w.proceeded i c (.select config)).served served hlt
  obtain ⟨device, -, ⟨error, heq⟩ | heq⟩ := w.selectFor_eq i config
  · simp only [proceed, heq] at hpart
    simp only [startStream, heq]
    exact .after hpart (leads_giveUp (w := { w with device }) hlt error)
  · simp only [proceed, heq] at hpart hproceeded
    simp only [startStream, heq]
    have hthere :=
      List.getElem?_modify_eq (fun k : Controller => { k with state := .streaming }) i w.clients
    rw [there] at hthere
    have hlaunch := leads_launch hproceeded hthere config
    refine .after hpart ?_
    rcases hstart : start ({ w with device }.modifyController i fun c => { c with state := .streaming })
      i (config.plan c.settings.transfer) with ⟨error | mailbox, w'⟩
    · rw [hstart] at hlaunch ⊢
      exact hlaunch
    · rw [hstart] at hlaunch ⊢
      exact hlaunch

/-- From the beginning, once the device is claimed. -/
theorem leads_agree (served : w.Served) (there : w.clients[i]? = some c) (request : StreamRequest) :
    Leads i w (.agree request) (afterAgreement i (w.bringUp i c request)) := by
  have hlt := (List.getElem?_eq_some_iff.mp there).1
  have hpart := Carries.part (u := .agree request) there nofun
  have hproceeded := (w.proceeded i c (.agree request)).served served hlt
  obtain ⟨device, trace, -, ⟨error, heq⟩ | ⟨config, catalog, heq⟩⟩ := w.agreeFor_eq i c request
  · simp only [proceed, heq] at hpart
    simp only [bringUp, heq]
    exact .after hpart (leads_giveUp (w := { w with device, trace }) hlt error)
  · simp only [proceed, heq] at hpart hproceeded
    simp only [bringUp, heq]
    have hthere :=
      List.getElem?_modify_eq (fun k : Controller => { k with catalog := some catalog }) i w.clients
    rw [there] at hthere
    exact .after hpart (leads_select hproceeded hthere config)

/-! ### Closing -/

theorem state_endClose (there : i < w.clients.length) (config : StreamConfig) :
    (w.endClose i config).clients[i]?.map (·.state) = some .closed := by
  obtain ⟨device, trace, -, heq⟩ := w.endClose_eq i config
  rw [heq, List.getElem?_modify_eq, List.getElem?_eq_getElem there]
  rfl

/-- The task of the stream was told to wind down: it is waited for, and all is given back. -/
theorem carries_drain (served : w.Served) (there : i < w.clients.length) {mailbox : Mailbox}
    (ended : (w.awaitEnd mailbox).hasEnded mailbox = true) (config : StreamConfig)
    {w' : World (Ledger σ) Controller Call}
    (drained : w' = ((w.awaitEnd mailbox).modifyController i Controller.discardFrames).runReady) :
    Carries i (w, some (.drain config mailbox)) (w'.endClose i config, none) ∧
      (w'.endClose i config).clients[i]?.map (·.state) = some .closed := by
  subst drained
  have hwait := (Background.awaitEnd served mailbox).drifts served
  have hthere : i < (w.awaitEnd mailbox).clients.length := by rwa [hwait.clients]
  have hdrain : Carries i (w.awaitEnd mailbox, some (.drain config mailbox))
      ((w.awaitEnd mailbox).modifyController i Controller.discardFrames, some (.release config)) := by
    refine .part (List.getElem?_eq_getElem hthere) ?_
    rintro _ ⟨⟩
    exact ended
  have hlater : ((w.awaitEnd mailbox).modifyController i Controller.discardFrames).Served :=
    (hwait.served served).same rfl (Nat.le_refl _) (List.length_modify ..) rfl
  have hready := (Background.runReady hlater).drifts hlater
  have hlast : i <
      ((w.awaitEnd mailbox).modifyController i Controller.discardFrames).runReady.clients.length := by
    rwa [hready.clients, modifyController, List.length_modify]
  have hrelease : Carries i (_, some (.release config)) (World.endClose _ i config, none) :=
    .part (List.getElem?_eq_getElem hlast) nofun
  exact ⟨(Carries.drift hwait _).trans (hdrain.trans ((Carries.drift hready _).trans hrelease)),
    state_endClose hlast config⟩

end World

namespace Engine

open World

variable {name : String} {e : Engine σ} {i : Nat} {c : Controller}

omit [Transport σ] in
/-- Whoever is not called is back from a call. -/
theorem during_none (free : e.calls i = none) (holder : Option Nat)
    (w : World (Ledger σ) Controller Call) :
    e.during i holder (w, none) = { e with world := w, holder } := by
  rw [during, ← free, Function.update_eq_self]

/-- A call to open fails at once and nothing happens, or the device is claimed and the call ends with
its result. -/
theorem openStream_cases (served : e.world.Served) (idle : e.Idle i c) (request : StreamRequest) :
    c.state ≠ .closed ∧
        e.world.openStream i request = (.error (.invalidState "open" c.state), e.world) ∨
      c.state = .closed ∧ e.world.claims.acquire e.world.deviceClaim = none ∧
        e.world.openStream i request =
          (.error (.deviceBusy (Transport.deviceId e.world.device)), e.world) ∨
      ∃ claims, c.state = .closed ∧ e.world.claims.acquire e.world.deviceClaim = some claims ∧
        Leads i (e.claimed i request claims).world (.agree request) (e.world.openStream i request) := by
  unfold openStream
  rw [idle.there]
  dsimp only
  split
  · next hopen => exact .inl ⟨hopen, rfl⟩
  · next hclosed =>
    have hstate := not_not.mp hclosed
    split
    · next hbusy => exact .inr (.inl ⟨hstate, hbusy, rfl⟩)
    · next claims hacquired =>
      have hserved := (Step.claim e i c request claims idle hstate hacquired).served served
      have hthere : (e.claimed i request claims).world.clients[i]? = some c.negotiating := by
        rw [claimed, modifyController, List.getElem?_modify_eq, idle.there]
        rfl
      have hleads : Leads i (e.claimed i request claims).world (.agree request)
          (afterAgreement i ((e.claimed i request claims).world.bringUp i c request)) :=
        leads_agree hserved hthere request
      refine .inr (.inr ⟨claims, hstate, hacquired, ?_⟩)
      rcases hbring : (e.claimed i request claims).world.bringUp i c request with ⟨error | config, w⟩
      all_goals
        rw [hbring] at hleads
        simp only [claimed] at hbring
        rw [hbring]
        exact hleads

/-- To open a stream is a run. -/
theorem run_openStream (h : Reachable name e) (idle : e.Idle i c) (request : StreamRequest) :
    ∃ holder, e.Run { e with world := (e.world.openStream i request).2, holder } := by
  rcases openStream_cases h.served idle request with
    ⟨-, heq⟩ | ⟨-, -, heq⟩ | ⟨claims, hclosed, hacquired, hleads⟩
  · rw [heq]
    exact ⟨e.holder, .refl⟩
  · rw [heq]
    exact ⟨e.holder, .refl⟩
  · have hclaim := Step.claim e i c request claims idle hclosed hacquired
    obtain ⟨holder, parts, hprogress⟩ := hleads.carries e (some i)
    rw [during_none idle.free] at hprogress
    exact ⟨holder, .head ⟨_, hclaim⟩ hprogress.run⟩

/-- To close a stream is a run, and it ends in closed. -/
theorem run_closeStream (h : Reachable name e) (idle : e.Idle i c) :
    ∃ holder, e.Run { e with world := e.world.closeStream i, holder } ∧
      (e.world.closeStream i).clients[i]?.map (·.state) = some .closed := by
  unfold closeStream stream?
  rw [idle.there, Option.bind_some]
  cases hstream : c.stream with
  | none =>
    dsimp only
    -- Nothing is done, since nothing is open.
    have hfits := h.sound.roles.fits i c idle.there
    rw [idle.free] at hfits
    rcases hfits with ⟨hclosed, -⟩ | ⟨-, hopen, -⟩
    · exact ⟨e.holder, .refl, by rw [idle.there, Option.map_some, hclosed]⟩
    · rw [hstream] at hopen
      cases hopen
  | some s =>
    have hclose := Step.close e i c s idle hstream
    have hended := awaitEnd_askStop_ended
      (w := e.world.modifyController i fun c => { c with state := .stopping })
      (h.served.same rfl (Nat.le_refl _) (List.length_modify ..) rfl) s.mailbox
    have hthere : i < (e.world.beginClose i s.mailbox).clients.length := by
      obtain ⟨tasks, ready, -, heq⟩ := e.world.beginClose_eq i s.mailbox
      rw [heq, List.length_modify]
      exact (List.getElem?_eq_some_iff.mp idle.there).1
    obtain ⟨hcarries, hclosed⟩ := carries_drain (hclose.served h.served) hthere hended s.config rfl
    obtain ⟨holder, parts, hprogress⟩ := hcarries e e.holder
    rw [during_none idle.free] at hprogress
    exact ⟨holder, .head ⟨_, hclose⟩ hprogress.run, hclosed⟩

end Engine

end UsbVideo
