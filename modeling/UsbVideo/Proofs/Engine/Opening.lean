import UsbVideo.Proofs.Engine.Lifecycle
import UsbVideo.Proofs.Transport.Overheard

/-!
# Opening, all of it or nothing

A call to open asks the bus stack for one thing after the other, and every part of it may fail:

    agree ──▶ select ──▶ launch ─────────────────────────────▶ streaming
      │         │          ├──refused──▶ unwind ┊ reset ─┐
      └─────────┴──────────┴──────────────────────▶ giveUp ─▶ closed

`Conversation` says what was asked for when a part comes next. From it are read off that nothing is
submitted before a commit and a selection were granted, and that a selection that was granted is taken
back when the call fails. What the call claimed is given back by then, whatever the bus stack does, as
long as the device keeps its name (`Engine.Named`); what it submitted is back on a bus stack that keeps
its contract.
-/

namespace UsbVideo

variable {τ : Type}

/-! ### The conversation with the bus stack -/

/-- Host and device agreed on a configuration. -/
structure Agreed (config : StreamConfig) (asked : List Asked) : Prop where
  talk : ∀ a ∈ asked, a.talks = true
  committed : ∃ data, .commit config.interface data true ∈ asked

/-- The alternate setting of a configuration was asked for, once it was agreed on. -/
def Selected (config : StreamConfig) (granted : Bool) (asked : List Asked) : Prop :=
  ∃ agreed, Agreed config agreed ∧
    asked = agreed ++ [.select config.interface config.altSetting granted]

/-- Transfers were submitted, once the alternate setting was selected. -/
def Launched (config : StreamConfig) (asked : List Asked) : Prop :=
  ∃ selected pool, Selected config true selected ∧ (∀ a ∈ pool, a.mailbox?.isSome) ∧
    asked = selected ++ pool

/-- What was asked for is of no consequence, or was taken back. -/
inductive Undone : List Asked → Prop where
  | talked {asked : List Asked} (talk : ∀ a ∈ asked, a.talks = true) : Undone asked
  | refused {config : StreamConfig} {asked : List Asked} (h : Selected config false asked) :
      Undone asked
  | reset {config : StreamConfig} {asked : List Asked} (h : Launched config asked) (granted : Bool) :
      Undone (asked ++ [.select config.interface 0 granted])

/-- A commit was granted, and then the selection of an alternate setting of the same interface. -/
def ReadyToSubmit (asked : List Asked) : Prop :=
  ∃ interface alt data, [.commit interface data true, .select interface alt true].Sublist asked

/-- Nothing was selected, or that was refused, or the setting without bandwidth of the same interface was
asked for afterwards. -/
def SelectionTakenBack (asked : List Asked) : Prop :=
  asked.filterMap Asked.selection? = [] ∨
    (∃ interface alt, asked.filterMap Asked.selection? = [(interface, alt, false)]) ∨
      ∃ interface alt granted, asked.filterMap Asked.selection? =
        [(interface, alt, true), (interface, 0, granted)]

/-- What was asked for in a call to open when this part comes next, or none. -/
def Conversation (asked : List Asked) : Option Undertaking → Prop
  | some (.agree _) => asked = []
  | some (.select config) => Agreed config asked
  | some (.launch config) => Selected config true asked
  | some (.unwind config ..) | some (.reset config _) => Launched config asked
  | some (.giveUp _) => Undone asked
  | some (.drain ..) | some (.release _) => False
  | none => Undone asked ∨ ∃ config, Launched config asked

section

variable {config : StreamConfig} {granted : Bool} {asked pre post : List Asked} {a : Asked}

theorem Asked.selection?_of_talks (h : a.talks = true) : a.selection? = none := by
  cases a with
  | select => cases h
  | _ => rfl

theorem Asked.mailbox?_of_talks (h : a.talks = true) : a.mailbox? = none := by
  cases a with
  | submit => cases h
  | _ => rfl

theorem Asked.selection?_of_mailbox? (h : a.mailbox?.isSome) : a.selection? = none := by
  cases a with
  | select => cases h
  | _ => rfl

theorem Selected.launched (h : Selected config true asked) {pool : List Asked}
    (submissions : ∀ a ∈ pool, a.mailbox?.isSome) : Launched config (asked ++ pool) :=
  ⟨asked, pool, h, submissions, rfl⟩

theorem Selected.selections (h : Selected config granted asked) :
    asked.filterMap Asked.selection? = [(config.interface, config.altSetting, granted)] := by
  obtain ⟨agreed, hagreed, rfl⟩ := h
  have hnone : agreed.filterMap Asked.selection? = [] :=
    List.filterMap_eq_nil_iff.mpr fun a ha => Asked.selection?_of_talks (hagreed.talk a ha)
  rw [List.filterMap_append, hnone]
  rfl

theorem Launched.selections (h : Launched config asked) :
    asked.filterMap Asked.selection? = [(config.interface, config.altSetting, true)] := by
  obtain ⟨selected, pool, hselected, hpool, rfl⟩ := h
  have hnone : pool.filterMap Asked.selection? = [] :=
    List.filterMap_eq_nil_iff.mpr fun a ha => Asked.selection?_of_mailbox? (hpool a ha)
  rw [List.filterMap_append, hselected.selections, hnone]
  rfl

theorem Undone.selections (h : Undone asked) : SelectionTakenBack asked := by
  cases h with
  | talked talk =>
    exact .inl (List.filterMap_eq_nil_iff.mpr fun a ha => Asked.selection?_of_talks (talk a ha))
  | refused h => exact .inr (.inl ⟨_, _, h.selections⟩)
  | @reset config _ h granted =>
    refine .inr (.inr ⟨config.interface, config.altSetting, granted, ?_⟩)
    rw [List.filterMap_append, h.selections]
    rfl

/-- Up to the selection nothing is submitted. -/
theorem Selected.mailbox? (h : Selected config granted asked) (ha : a ∈ asked) :
    a.mailbox? = none := by
  obtain ⟨agreed, hagreed, rfl⟩ := h
  rcases List.mem_append.mp ha with htalk | hselect
  · exact Asked.mailbox?_of_talks (hagreed.talk a htalk)
  · rw [List.mem_singleton.mp hselect]
    rfl

theorem Selected.ready (h : Selected config true asked) : ReadyToSubmit asked := by
  obtain ⟨agreed, ⟨-, data, hdata⟩, rfl⟩ := h
  have hpair := (List.singleton_sublist.mpr hdata).append
    (List.Sublist.refl [.select config.interface config.altSetting true])
  exact ⟨_, _, data, hpair⟩

theorem ReadyToSubmit.mono (h : ReadyToSubmit asked) (hsub : asked.Sublist pre) :
    ReadyToSubmit pre := by
  obtain ⟨interface, alt, data, hpair⟩ := h
  exact ⟨interface, alt, data, hpair.trans hsub⟩

theorem Launched.ready (h : Launched config asked) : ReadyToSubmit asked := by
  obtain ⟨selected, pool, hselected, -, rfl⟩ := h
  exact hselected.ready.mono (List.sublist_append_left selected pool)

/-- What is submitted, it is when all is ready. -/
theorem Launched.submissions (h : Launched config asked) {rest : List Asked}
    (split : asked ++ rest = pre ++ a :: post) (submission : a.mailbox?.isSome) :
    ReadyToSubmit pre := by
  obtain ⟨selected, pool, hselected, -, rfl⟩ := h
  have hnew : a ∉ selected := fun ha => by
    rw [hselected.mailbox? ha] at submission
    cases submission
  rw [List.append_assoc] at split
  -- So the submission lies behind the selection.
  rcases List.append_eq_append_iff.mp split with ⟨more, rfl, -⟩ | ⟨more, rfl, hmore⟩
  · exact hselected.ready.mono (List.sublist_append_left selected more)
  · cases more with
    | nil =>
      rw [List.append_nil] at hselected
      exact hselected.ready
    | cons b more =>
      obtain ⟨rfl, -⟩ := List.cons.inj hmore
      exact absurd (List.mem_append_right _ List.mem_cons_self) hnew

theorem Undone.submissions (h : Undone asked) (split : asked = pre ++ a :: post)
    (submission : a.mailbox?.isSome) : ReadyToSubmit pre := by
  have hmem : a ∈ asked := by
    rw [split]
    exact List.mem_append_right _ List.mem_cons_self
  cases h with
  | talked talk =>
    rw [Asked.mailbox?_of_talks (talk a hmem)] at submission
    cases submission
  | refused h =>
    rw [h.mailbox? hmem] at submission
    cases submission
  | reset h granted => exact h.submissions split submission

/-- In a call to open nothing is submitted before all is ready. -/
theorem Conversation.submissions {u : Option Undertaking} (h : Conversation asked u)
    (split : asked = pre ++ a :: post) (submission : a.mailbox?.isSome) : ReadyToSubmit pre := by
  have hlaunched : ∀ {config}, Launched config asked → ReadyToSubmit pre := fun h =>
    h.submissions ((List.append_nil asked).trans split) submission
  match u with
  | some (.agree _) =>
    rw [h] at split
    exact absurd split.symm (List.append_ne_nil_of_right_ne_nil _ (List.cons_ne_nil _ _))
  | some (.select _) => exact (Undone.talked h.talk).submissions split submission
  | some (.launch _) =>
    exact hlaunched (by simpa using Selected.launched h (fun _ ha => absurd ha List.not_mem_nil))
  | some (.unwind ..) | some (.reset ..) => exact hlaunched h
  | some (.giveUp _) => exact Undone.submissions h split submission
  | none => exact h.elim (·.submissions split submission) fun ⟨_, h⟩ => hlaunched h

end

/-- A task of the controller takes care of everything submitted. -/
def Tended (index : Nat) (tasks : List RunningTask) (asked : List Asked) : Prop :=
  ∀ a ∈ asked, ∀ mailbox, a.mailbox? = some mailbox →
    ∃ t ∈ tasks, t.mailbox = mailbox ∧ t.client = index

namespace Tended

variable {i : Nat} {tasks tasks' : List RunningTask} {asked later : List Asked}

theorem of_silent (h : ∀ a ∈ asked, a.mailbox? = none) : Tended i tasks asked := by
  intro a ha mailbox hmailbox
  rw [h a ha] at hmailbox
  cases hmailbox

theorem select (interface alt : UInt8) (granted : Bool) :
    Tended i tasks [.select interface alt granted] :=
  of_silent fun a ha => by rw [List.mem_singleton.mp ha]; rfl

theorem append (h : Tended i tasks asked) (h' : Tended i tasks later) :
    Tended i tasks (asked ++ later) := fun a ha =>
  (List.mem_append.mp ha).elim (h a) (h' a)

end Tended

namespace World

variable [Transport τ] {w : World (Ledger (Overheard τ)) Controller Call} {i : Nat} {c : Controller}

theorem agreeFor_talked (w : World (Ledger (Overheard τ)) Controller Call) (i : Nat) (c : Controller)
    (request : StreamRequest) :
    ∃ asked, w.device.Talked asked (w.agreeFor i c request).2.device ∧
      ∀ config, (w.agreeFor i c request).1 = .ok config → Agreed config asked := by
  obtain ⟨asked, htalked, hcommit⟩ := agree_talked c.settings (c.requestFor request) w.device
  refine ⟨asked, ?_⟩
  unfold agreeFor
  generalize agree c.settings (c.requestFor request) w.device = agreed at htalked hcommit ⊢
  obtain ⟨agreement, device⟩ := agreed
  dsimp only at hcommit ⊢
  split
  · exact ⟨htalked, fun _ h => nomatch h⟩
  · next catalog config hresult =>
    refine ⟨htalked, ?_⟩
    rintro _ ⟨⟩
    exact ⟨htalked.talk, hcommit catalog config hresult⟩

theorem selectFor_heard (w : World (Ledger (Overheard τ)) Controller Call) (i : Nat)
    (config : StreamConfig) :
    w.device.Heard [.select config.interface config.altSetting (w.selectFor i config).1.isOk]
      (w.selectFor i config).2.device := by
  unfold selectFor
  split
  · next e device hset => exact .setInterface hset
  · next device hset => exact .setInterface hset

theorem resetInterface_heard (w : World (Ledger (Overheard τ)) Controller Call) (interface : UInt8) :
    ∃ granted, w.device.Heard [.select interface 0 granted] (w.resetInterface interface).device := by
  unfold resetInterface
  split
  · next device hset => exact ⟨true, .setInterface hset⟩
  · next e device hset => exact ⟨false, .setInterface hset⟩

/-- Every part of a call to open carries the conversation on. -/
theorem proceed_conversation {u : Undertaking} {asked : List Asked}
    (h : Conversation asked (some u)) :
    ∃ later, w.device.Heard later (w.proceed i c u).1.device ∧
      Conversation (asked ++ later) (w.proceed i c u).2 ∧
        Tended i (w.proceed i c u).1.tasks later := by
  cases u with
  | agree request =>
    cases h
    obtain ⟨later, htalked, hagreed⟩ := w.agreeFor_talked i c request
    have htended : ∀ {tasks}, Tended i tasks later :=
      .of_silent fun a ha => Asked.mailbox?_of_talks (htalked.talk a ha)
    rcases heq : w.agreeFor i c request with ⟨error | config, w'⟩
    · rw [heq] at htalked
      simp only [proceed, heq]
      exact ⟨later, htalked.heard, Undone.talked htalked.talk, htended⟩
    · rw [heq] at htalked hagreed
      simp only [proceed, heq]
      exact ⟨later, htalked.heard, hagreed config rfl, htended⟩
  | select config =>
    have hheard := w.selectFor_heard i config
    rcases heq : w.selectFor i config with ⟨error | _, w'⟩
    · rw [heq] at hheard
      simp only [proceed, heq]
      exact ⟨_, hheard, Undone.refused ⟨asked, h, rfl⟩, .select _ _ _⟩
    · rw [heq] at hheard
      simp only [proceed, heq]
      exact ⟨_, hheard, ⟨asked, h, rfl⟩, .select _ _ _⟩
  | launch config =>
    rcases w.tryStart_cases i (config.plan c.settings.transfer) with
      ⟨error, heq⟩ | ⟨claims, size, pool, -, heq⟩
    · simp only [proceed, heq]
      exact ⟨[], .refl _, h.launched (by simp), by simp [Tended]⟩
    · obtain ⟨refused, t, ready, trace, hclient, -, hmailbox, -, -, -, -, hlaunch⟩ :=
        { w with claims }.launch_eq i _ (config.plan c.settings.transfer) size pool
      obtain ⟨later, hheard, hpool⟩ := Dispatch.submitPool_heard
        { plan := config.plan c.settings.transfer, mailbox := w.nextMailbox } w.device pool
      have hlaunched : Launched config (asked ++ later) :=
        h.launched fun a ha => by rw [hpool a ha]; rfl
      -- Whether it was refused half way or not, the task that was started has the mailbox.
      have htended : Tended i (w.tasks ++ [t]) later := by
        intro a ha mailbox ha'
        rw [hpool a ha] at ha'
        cases ha'
        exact ⟨t, List.mem_append_right _ (List.mem_singleton_self t), hmailbox, hclient⟩
      rw [hlaunch] at heq
      cases refused with
      | none =>
        simp only [proceed, heq]
        exact ⟨later, hheard, .inr ⟨config, hlaunched⟩, htended⟩
      | some error =>
        simp only [proceed, heq]
        exact ⟨later, hheard, hlaunched, htended⟩
  | unwind config mailbox error => exact ⟨[], .refl _, by rwa [List.append_nil], by simp [Tended]⟩
  | reset config error =>
    obtain ⟨granted, hheard⟩ := w.resetInterface_heard config.interface
    exact ⟨_, hheard, Undone.reset h granted, .select _ _ _⟩
  | giveUp error => exact ⟨[], .refl _, .inl (by rwa [List.append_nil]), by simp [Tended]⟩
  | drain | release => exact h.elim

end World

/-- What a part of a call asked for. -/
def Part.asked [Transport τ] (p : Part (Overheard τ)) (index : Nat) : List Asked :=
  (p.world.proceed index p.controller p.undertaking).1.device.device.asked.drop
    p.world.device.device.asked.length

theorem Part.asked_eq [Transport τ] {p : Part (Overheard τ)} {index : Nat} {later : List Asked}
    (h : p.world.device.Heard later
      (p.world.proceed index p.controller p.undertaking).1.device) : p.asked index = later := by
  rw [Part.asked, h, List.drop_left]

/-- What the parts of a call asked for, one after the other. -/
def Part.allAsked [Transport τ] (index : Nat) (parts : List (Part (Overheard τ))) : List Asked :=
  parts.flatMap (·.asked index)

namespace Engine

/-! ### Calls to open -/

section Calls

variable {σ : Type} [Transport σ]

/-- A call to open that began in one engine went on with these parts, up to another. -/
def Opening (before : Engine σ) (index : Nat) (request : StreamRequest) (parts : List (Part σ))
    (now : Engine σ) : Prop :=
  ∃ c claims, before.Idle index c ∧ c.state = .closed ∧
    before.world.claims.acquire before.world.deviceClaim = some claims ∧
      Progress index (before.claimed index request claims) parts now

/-- A call to open ended, with this result. -/
inductive Opened (before : Engine σ) (index : Nat) (request : StreamRequest) :
    List (Part σ) → Except StreamError StreamConfig → Engine σ → Prop where
  | intro {parts : List (Part σ)} {now : Engine σ} {c : Controller} {u : Undertaking}
      {result : Except StreamError StreamConfig} (h : Opening before index request parts now)
      (there : now.world.clients[index]? = some c) (calling : now.calls index = some u)
      (outcome : u.outcome = some result) (returns : (now.world.proceed index c u).2 = none) :
      Opened before index request (parts ++ [⟨now.world, c, u⟩]) result (now.proceed index c u)

variable {before after now : Engine σ} {i : Nat} {c : Controller} {request : StreamRequest}
  {parts : List (Part σ)} {result : Except StreamError StreamConfig}

theorem Opened.opening (h : Opened before i request parts result after) :
    Opening before i request parts after := by
  cases h with
  | intro h there calling outcome returns =>
    obtain ⟨c, claims, idle, closed, acquired, hprogress⟩ := h
    refine ⟨c, claims, idle, closed, acquired, ?_⟩
    refine hprogress.part _ _ there calling fun mailbox hawaits => ?_
    cases (Undertaking.awaits_of_outcome outcome).symm.trans hawaits

/-- Who is called does not go away. -/
theorem Progress.stays {a b : Engine σ} (h : Progress i a parts b) (stays : i ∉ a.gone)
    (calling : (b.calls i).isSome) : i ∉ b.gone := by
  induction h with
  | refl => exact stays
  | part _ c u _ hcall _ ih => exact ih (by rw [hcall]; rfl)
  | meanwhile _ hs same ih =>
    rw [same] at calling
    have hstays := ih calling
    cases hs with
    | drop index c idle =>
      refine fun hgone => (List.mem_cons.mp hgone).elim ?_ hstays
      rintro rfl
      rw [idle.free] at calling
      cases calling
    | _ => exact hstays

/-- A call to open that failed was given up. -/
theorem Opened.failed {e : StreamError} (h : Opened before i request parts (.error e) after) :
    ∃ earlier now c, Opening before i request earlier now ∧ now.world.clients[i]? = some c ∧
      now.calls i = some (.giveUp e) ∧ parts = earlier ++ [⟨now.world, c, .giveUp e⟩] ∧
        after = now.proceed i c (.giveUp e) := by
  cases h with
  | @intro earlier now c u _ h there calling outcome returns =>
    cases u with
    | giveUp e' =>
      cases outcome
      exact ⟨earlier, now, c, h, there, calling, rfl, rfl⟩
    | _ => cases outcome

/-- When a call to open failed, its controller has nothing any more. -/
theorem Opened.closed {e : StreamError} (h : Opened before i request parts (.error e) after) :
    (∃ c, after.world.clients[i]? = some c ∧ c.state = .closed ∧ c.stream = none ∧ c.catalog = none) ∧
      i ∉ after.gone ∧ after.holder = none := by
  obtain ⟨earlier, now, c, hopening, there, calling, -, rfl⟩ := h.failed
  obtain ⟨_, claims, idle, -, -, hprogress⟩ := hopening
  refine ⟨⟨c.closed, ?_, rfl, rfl, rfl⟩, ?_, rfl⟩
  · show (now.world.clients.modify i Controller.closed)[i]? = _
    simp [there]
  · exact hprogress.stays idle.stays (by rw [calling]; rfl)

/-- Unless it fails at once, a call to open goes through its parts to its result. -/
theorem openStream_opened (served : before.world.Served) (idle : before.Idle i c)
    (request : StreamRequest) :
    c.state ≠ .closed ∧
        before.world.openStream i request = (.error (.invalidState "open" c.state), before.world) ∨
      c.state = .closed ∧ before.world.claims.acquire before.world.deviceClaim = none ∧
        before.world.openStream i request =
          (.error (.deviceBusy (Transport.deviceId before.world.device)), before.world) ∨
      ∃ parts holder, Opened before i request parts (before.world.openStream i request).1
        { before with world := (before.world.openStream i request).2, holder } := by
  rcases openStream_cases served idle request with
    hstate | hbusy | ⟨claims, hclosed, hacquired, w, c', u, hcarries, there, houtcome, hover⟩
  · exact .inl hstate
  · exact .inr (.inl hbusy)
  · obtain ⟨holder, parts, hprogress⟩ := hcarries before (some i)
    have hopening : Opening before i request parts (before.during i holder (w, some u)) :=
      ⟨c, claims, idle, hclosed, hacquired, hprogress⟩
    have hlast : (before.during i holder (w, some u)).world.proceed i c' u =
        ((before.world.openStream i request).2, none) := hover
    have hopened := Opened.intro hopening there (Function.update_self ..) houtcome
      (congrArg Prod.snd hlast)
    rw [during_proceed, hover, during_none idle.free] at hopened
    exact .inr (.inr ⟨_, _, hopened⟩)

theorem Run.served {a b : Engine σ} (h : Run a b) (served : a.world.Served) : b.world.Served := by
  induction h with
  | refl => exact served
  | tail _ hs ih =>
    obtain ⟨event, hs⟩ := hs
    exact hs.served ih

theorem Opening.served (h : Opening before i request parts now) (served : before.world.Served) :
    now.world.Served := by
  obtain ⟨c, claims, idle, closed, acquired, hprogress⟩ := h
  exact hprogress.run.served ((Step.claim before i c request claims idle closed acquired).served served)

end Calls

section Conversations

variable [Transport τ] {before after now : Engine (Overheard τ)} {i : Nat}
  {request : StreamRequest} {parts : List (Part (Overheard τ))}

/-- Tasks stay with their controllers, whatever happens. -/
theorem Step.tended {a b : Engine (Overheard τ)} {event : Event} (hs : Step a event b)
    (served : a.world.Served) {asked : List Asked} (h : Tended i a.world.tasks asked) :
    Tended i b.world.tasks asked := fun a ha mailbox hmailbox =>
  hs.stays served.distinct (h a ha mailbox hmailbox)

/-- A call to open asks for what comes before its next part. -/
theorem Opening.conversation (h : Opening before i request parts now)
    (served : before.world.Served) :
    Conversation (Part.allAsked i parts) (now.calls i) ∧
      Tended i now.world.tasks (Part.allAsked i parts) := by
  obtain ⟨c, claims, idle, closed, acquired, hprogress⟩ := h
  have hserved := (Step.claim before i c request claims idle closed acquired).served served
  induction hprogress with
  | refl =>
    have hcalls : (before.claimed i request claims).calls i = some (.agree request) :=
      Function.update_self ..
    rw [hcalls]
    exact ⟨rfl, nofun⟩
  | @part earlier b h c' u there calling waited ih =>
    obtain ⟨hconversation, htended⟩ := ih
    rw [calling] at hconversation
    obtain ⟨later, hheard, hnext, hlater⟩ :=
      World.proceed_conversation (w := b.world) (i := i) (c := c') hconversation
    have hasked : Part.allAsked i (earlier ++ [⟨b.world, c', u⟩]) =
        Part.allAsked i earlier ++ later := by
      rw [Part.allAsked, List.flatMap_append, List.flatMap_singleton, Part.asked_eq hheard,
        Part.allAsked]
    have hstep := Step.proceed b i c' u there calling waited
    rw [hasked, calls_proceed]
    exact ⟨hnext, (hstep.tended (h.run.served hserved) htended).append hlater⟩
  | meanwhile h hs same ih =>
    rw [same]
    exact ⟨ih.1, hs.tended (h.run.served hserved) ih.2⟩

/-- What a call to open that failed asked for is undone. -/
theorem Opened.undone {e : StreamError} (h : Opened before i request parts (.error e) after)
    (served : before.world.Served) : Undone (Part.allAsked i parts) := by
  obtain ⟨earlier, now, c, hopening, there, calling, rfl, rfl⟩ := h.failed
  obtain ⟨hconversation, -⟩ := hopening.conversation served
  rw [calling] at hconversation
  have hnothing : Part.asked ⟨now.world, c, .giveUp e⟩ i = [] := Part.asked_eq (.refl _)
  rw [Part.allAsked, List.flatMap_append, List.flatMap_singleton, hnothing, List.append_nil]
  exact hconversation

end Conversations

/-! ### Claims -/

section Claims

variable {σ : Type} [Transport σ] {name : String} {e : Engine σ} {i : Nat} {c : Controller}

/-- The keys that others than this controller have, by their own account. -/
def othersKeys (name : String) (e : Engine σ) (index : Nat) : List ClaimKey :=
  keys name (e.holder.filter (· ≠ index)) (e.world.tasks.filter (·.client ≠ index)) e.outside

namespace Ordered

omit [Transport σ] in
/-- When a controller is closed the registry holds what others have, and nothing else. -/
theorem held_closed (h : e.Ordered name) (there : e.world.clients[i]? = some c) (stays : i ∉ e.gone)
    (closed : c.state = .closed) : e.world.claims.held.Perm (e.othersKeys name i) := by
  have hholder : e.holder.filter (· ≠ i) = e.holder := by
    cases hsome : e.holder with
    | none => rfl
    | some j =>
      have hother : j ≠ i := by
        rintro rfl
        exact h.closed_holder there closed hsome
      simp [hother]
  have htasks : World.liveClaims (e.world.tasks.filter (·.client ≠ i)) =
      World.liveClaims e.world.tasks := by
    rw [World.liveClaims, List.filter_filter, World.liveClaims]
    refine congrArg (List.map _) (List.filter_congr fun t ht => ?_)
    by_cases hmine : t.client = i
    · simp [h.closed_ended there stays closed t ht hmine]
    · simp [hmine]
  rw [othersKeys, keys, hholder, htasks]
  exact h.records.perm

omit [Transport σ] in
/-- While nobody has the device and nobody went away, no endpoint is claimed by a controller. -/
theorem held_outside (h : e.Ordered name) (nobody : e.holder = none) (gone : e.gone = []) :
    e.world.claims.held.Perm e.outside := by
  have hlive : World.liveClaims e.world.tasks = [] := by
    refine List.eq_nil_iff_forall_not_mem.mpr fun key hkey => ?_
    obtain ⟨t, ht, hgoes, -⟩ := World.mem_liveClaims.mp hkey
    rcases h.roles.serving t ht hgoes with hgone | ⟨c, there, hserves⟩
    · rw [gone] at hgone
      cases hgone
    · -- Whom a task serves has the device.
      have hbusy : (e.calls t.client).isSome ∨ c.stream.isSome := by
        cases hcall : e.calls t.client with
        | some u => exact .inl rfl
        | none =>
          rw [hcall] at hserves
          obtain ⟨s, hs, -⟩ := Option.map_eq_some_iff.mp hserves
          exact .inr (by rw [hs]; rfl)
      have hholder := (h.roles.busy there hbusy).1
      rw [nobody] at hholder
      cases hholder
  have hperm := h.records.perm
  rwa [keys, nobody, hlive] at hperm

end Ordered

end Claims

/-! ### All or nothing -/

variable [Transport τ]

/-- Before the transfers are launched no task of the controller goes on. -/
theorem Opening.ready {name : String} {before now : Engine (Overheard τ)} {i : Nat}
    {request : StreamRequest} {parts : List (Part (Overheard τ))}
    (h : Opening before i request parts now) (served : before.world.Served) (named : Named name now)
    (calling : (now.calls i).isSome) {t : RunningTask} (ht : t ∈ now.world.tasks)
    (goes : t.task.isEnded = false) (mine : t.client = i) :
    ReadyToSubmit (Part.allAsked i parts) := by
  obtain ⟨hconversation, -⟩ := h.conversation served
  obtain ⟨_, claims, idle, -, -, hprogress⟩ := h
  subst mine
  rcases named.ordered.roles.serving t ht goes with hgone | ⟨c, there, hserves⟩
  · exact absurd hgone (hprogress.stays idle.stays calling)
  · obtain ⟨u, hcall⟩ := Option.isSome_iff_exists.mp calling
    rw [hcall] at hserves hconversation
    -- Only a task that is waited for goes on in a call.
    cases u with
    | unwind => exact Launched.ready hconversation
    | drain => exact hconversation.elim
    | _ => cases hserves

/-- A call to open does all of it or leaves nothing, whatever the bus stack does and whatever happens
meanwhile. It fails at once, and nothing happens, or it goes through its parts. When it fails then, the
controller is closed and has neither stream nor catalog; an alternate setting that was selected was
followed by the one without bandwidth; the registry holds what others have, as it did before; and on a
bus stack that keeps its contract nothing is pending of what was submitted. And nothing is ever submitted
before a commit and a selection were granted. -/
theorem open_all_or_nothing {name : String} {before : Engine (Overheard τ)} (h : Named name before)
    {i : Nat} {c : Controller} (idle : before.Idle i c) (request : StreamRequest) :
    (c.state ≠ .closed ∧
        before.world.openStream i request = (.error (.invalidState "open" c.state), before.world) ∨
      c.state = .closed ∧ before.world.claims.acquire before.world.deviceClaim = none ∧
        before.world.openStream i request =
          (.error (.deviceBusy (Transport.deviceId before.world.device)), before.world) ∨
      ∃ parts holder, Opened before i request parts (before.world.openStream i request).1
        { before with world := (before.world.openStream i request).2, holder }) ∧
    (∀ parts error after, Opened before i request parts (.error error) after →
      (c.state = .closed ∧ ∃ c', after.world.clients[i]? = some c' ∧ c'.state = .closed ∧
        c'.stream = none ∧ c'.catalog = none) ∧
      SelectionTakenBack (Part.allAsked i parts) ∧
      (Named name after →
        before.world.claims.held.Perm (before.othersKeys name i) ∧
          after.world.claims.held.Perm (after.othersKeys name i) ∧
            (before.gone = [] → after.gone = [] → after.outside.Perm before.outside →
              after.world.claims.held.Perm before.world.claims.held)) ∧
      (Reachable name after → ∀ mailbox id granted,
        .submit mailbox id granted ∈ Part.allAsked i parts →
          after.world.device.pending mailbox = [])) ∧
    ∀ parts now, Opening before i request parts now →
      (∀ pre post mailbox id granted,
        Part.allAsked i parts = pre ++ .submit mailbox id granted :: post → ReadyToSubmit pre) ∧
      (Named name now → (now.calls i).isSome → ∀ t ∈ now.world.tasks, t.task.isEnded = false →
        t.client = i → ReadyToSubmit (Part.allAsked i parts)) := by
  refine ⟨openStream_opened h.served idle request, fun parts error after hopened => ?_,
    fun parts now hopening => ⟨?_, ?_⟩⟩
  · obtain ⟨⟨c', there, hclosed, hshape⟩, hstays, hholder⟩ := hopened.closed
    obtain ⟨c₀, claims, hidle, hstate, hacquired, hprogress⟩ := hopened.opening
    have hsame : c₀ = c := Option.some.inj (hidle.there.symm.trans idle.there)
    subst hsame
    refine ⟨⟨hstate, c', there, hclosed, hshape⟩, (hopened.undone h.served).selections,
      fun hnamed => ⟨?_, ?_, fun hgone hgone' houtside => ?_⟩, ?_⟩
    · exact h.ordered.held_closed idle.there idle.stays hstate
    · exact hnamed.ordered.held_closed there hstays hclosed
    · -- Nobody had the device before, and nobody has it now: only others are in the registry.
      have hnobody : before.holder = none := by
        rw [World.deviceClaim, h.deviceId] at hacquired
        exact h.ordered.nobody hacquired
      have hbefore := h.ordered.held_outside hnobody hgone
      have hafter := hnamed.ordered.held_outside hholder hgone'
      exact hafter.trans (houtside.trans hbefore.symm)
    · -- Behind each submission stands a task of the controller, which has ended by now.
      intro hreachable mailbox id granted hmem
      obtain ⟨t, ht, rfl, hmine⟩ :=
        (hopened.opening.conversation h.served).2 _ hmem mailbox rfl
      have hended := hreachable.sound.closed_ended there hstays hclosed t ht hmine
      exact hreachable.sound.ended_pending ht hended
  · intro pre post mailbox id granted split
    exact (hopening.conversation h.served).1.submissions split rfl
  · intro hnamed calling t ht goes mine
    exact hopening.ready h.served hnamed calling ht goes mine

/-! ### A camera that takes no transfers -/

theorem Progress.carryOn {σ : Type} [Transport σ] {i : Nat} {a b : Engine σ} {parts : List (Part σ)}
    (h : Progress i a parts b) : ∃ parts', Progress i a parts' (b.carryOn i) := by
  unfold Engine.carryOn
  split
  · next c u there calling =>
    split
    · next hwaited =>
      exact ⟨_, h.part c u there calling fun mailbox hawaits => by simpa [hawaits] using hwaited⟩
    · exact ⟨_, h⟩
  · exact ⟨_, h⟩

/-- A task makes its next step. -/
def onTask {σ : Type} [Transport σ] (e : Engine σ) (mailbox : Mailbox) : Engine σ :=
  { e with world := e.world.stepTask mailbox }

/-- A camera with one controller that refuses the first transfer submitted to it. -/
def refusing : Engine (Overheard Loopback) :=
  start { device := { plugged.world.device.device with failingSubmits := 1 } } plugged.world.clients 0 []

/-- The first format at its only interval. -/
def firstFormat : StreamRequest :=
  { formatIndex := some 1, frameIndex := some 1, frameInterval := some 333333 }

/-- The same, when it was tried to launch the transfers. -/
def launchedInVain : Engine (Overheard Loopback) :=
  (((refusing.claimed 0 firstFormat { held := [.device "camera"] }).carryOn 0).carryOn 0).carryOn 0

/-- The same, when the interface is back at its setting without bandwidth. -/
def takenBack : Engine (Overheard Loopback) :=
  (((launchedInVain.onTask 0).onTask 0).carryOn 0).carryOn 0

theorem reachable_refusing : Reachable "camera" refusing :=
  .start _ _ 0 [] rfl (by simp [plugged, start, Controller.closed]) List.nodup_nil

theorem idle_refusing : refusing.Idle 0 { settings := {}, codecs := .software } :=
  ⟨rfl, List.not_mem_nil, rfl⟩

/-- The contract is kept all the way. -/
theorem reachable_takenBack : Reachable "camera" takenBack := by
  have hlaunched : Reachable "camera" launchedInVain := by
    have hclaim := Step.claim refusing 0 _ firstFormat { held := [.device "camera"] } idle_refusing
      rfl rfl
    refine (((reachable_refusing.step hclaim ?_).carryOn 0 ?_).carryOn 0 ?_).carryOn 0 ?_
    all_goals exact .of_lawful 0 (by decide +kernel)
  refine (((hlaunched.step (.task _ 0) ?_).step (.task _ 0) ?_).carryOn 0 ?_).carryOn 0 ?_
  all_goals exact .of_lawful 0 (by decide +kernel)

theorem opening_takenBack : ∃ parts, Opening refusing 0 firstFormat parts takenBack := by
  let claimed := refusing.claimed 0 firstFormat { held := [.device "camera"] }
  have hclaimed : Progress 0 claimed [] claimed := .refl
  obtain ⟨_, hagree⟩ := hclaimed.carryOn
  obtain ⟨_, hselect⟩ := hagree.carryOn
  obtain ⟨_, hlaunch⟩ := hselect.carryOn
  obtain ⟨_, hunwind⟩ := ((hlaunch.meanwhile (.task _ 0) rfl).meanwhile (.task _ 0) rfl).carryOn
  obtain ⟨parts, hreset⟩ := hunwind.carryOn
  exact ⟨parts, _, _, idle_refusing, rfl, rfl, hreset⟩

/-- The camera refuses the first transfer: the call fails, and the registry is as it was. -/
theorem open_all_or_nothing_refused :
    ∃ parts error after, Opened refusing 0 firstFormat parts (.error error) after ∧
      after.state? 0 = some .closed ∧ after.world.claims.held.Perm refusing.world.claims.held ∧
        ∀ mailbox id granted, .submit mailbox id granted ∈ Part.allAsked 0 parts →
          after.world.device.pending mailbox = [] := by
  obtain ⟨parts, hopening⟩ := opening_takenBack
  have hlast : (takenBack.calls 0).any (fun u => u.givesBack && !u.closing) = true := by
    decide +kernel
  have hthere : takenBack.world.clients[0]?.isSome = true := by decide +kernel
  obtain ⟨u, calling⟩ : ∃ u, takenBack.calls 0 = some u := by
    cases hcall : takenBack.calls 0 with
    | none =>
      rw [hcall] at hlast
      cases hlast
    | some u => exact ⟨u, rfl⟩
  obtain ⟨c, there⟩ := Option.isSome_iff_exists.mp hthere
  rw [calling] at hlast
  cases u with
  | giveUp error =>
    have hopened := Opened.intro hopening there calling rfl rfl
    have hcarry : takenBack.carryOn 0 = takenBack.proceed 0 c (.giveUp error) := by
      simp [Engine.carryOn, there, calling, Undertaking.awaits]
    have hreachable := reachable_takenBack.carryOn 0 (.of_lawful 0 (by decide +kernel))
    rw [hcarry] at hreachable
    have hothers : takenBack.gone = [] ∧ takenBack.outside = [] := by decide +kernel
    obtain ⟨-, hfailed, -⟩ := open_all_or_nothing reachable_refusing.named idle_refusing firstFormat
    obtain ⟨⟨-, c', hafter, hclosed, -⟩, -, hclaims, hpending⟩ := hfailed _ _ _ hopened
    obtain ⟨-, -, hsame⟩ := hclaims hreachable.named
    exact ⟨_, error, _, hopened, by rw [state?, hafter, Option.map_some, hclosed],
      hsame rfl hothers.1 (List.Perm.of_eq hothers.2), hpending hreachable⟩
  | _ => cases hlast

end Engine

end UsbVideo
