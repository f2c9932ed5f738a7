import UsbVideo.Proofs.Engine.Schedulers

/-!
# One registry for a whole process

All that streams in a process shares one registry of claims, however many devices there are:

    registry ─┬─ a device and its controllers       `Host.controllers`
              ├─ a device and its schedulers        `Host.schedulers`
              ├─ ...
              └─ claims of anybody else             `Process.loose`

Two hosts may be about one device, opened twice; what one of them does to it is to the other something
the device does. `Process.Step` lets any host make any step of its own, on the registry as it is, and
`Process.claims` are the claims that somebody has: a controller from the beginning of a call to open
until its stream is closed or gone, a task until it ends. The registry holds just these, so who finds a
key taken takes nothing away from whoever has it. On bus stacks that keep their contract a task ends when
its transfers are back, and that makes a claim on an endpoint one on its transfers
(`one_stream_per_endpoint`).

A call of a controller and the start of a scheduler are carried to their end; whoever waits for them
does not give up in between.
-/

namespace UsbVideo

variable {σ κ ν : Type}

/-! ### Who has a claim -/

namespace Engine

/-- A controller that is called, or whose stream is open. -/
def busy (e : Engine σ) (index : Nat) : Bool :=
  (e.calls index).isSome || e.world.clients[index]?.any (·.stream.isSome)

/-- The claims of controllers and their tasks. -/
def claims [Transport σ] (e : Engine σ) : List ClaimKey :=
  (((List.range e.world.clients.length).filter e.busy).map fun _ =>
    ClaimKey.device (Transport.deviceId e.world.device)) ++ World.liveClaims e.world.tasks

/-- The controller that has the claim on the device is the one that is busy. -/
theorem filter_busy {e : Engine σ}
    (h : Roles e.world.clients e.world.tasks e.calls e.gone e.holder) :
    (List.range e.world.clients.length).filter e.busy = e.holder.toList := by
  have hbusy : ∀ i ∈ List.range e.world.clients.length, (e.busy i = true ↔ e.holder = some i) := by
    intro i hi
    have there := List.getElem?_eq_getElem (List.mem_range.mp hi)
    rw [h.owner i, busy, there]
    simp
  cases hholder : e.holder with
  | none =>
    rw [Option.toList_none, List.filter_eq_nil_iff]
    intro i hi hcontra
    rw [hbusy i hi, hholder] at hcontra
    cases hcontra
  | some j =>
    obtain ⟨c, there, -⟩ := (h.owner j).mp hholder
    have hmem : j ∈ List.range e.world.clients.length :=
      List.mem_range.mpr (List.getElem?_eq_some_iff.mp there).1
    -- The busy ones are those equal to the holder, and of these there is one.
    have hsame : (List.range e.world.clients.length).filter e.busy =
        (List.range e.world.clients.length).filter (· = j) := by
      refine List.filter_congr fun i hi => ?_
      rw [Bool.eq_iff_iff, hbusy i hi, hholder, decide_eq_true_iff, Option.some.injEq, eq_comm]
    rw [hsame, List.filter_eq, List.count_eq_one_of_mem List.nodup_range hmem]
    rfl

theorem claims_eq [Transport σ] {e : Engine σ}
    (h : Roles e.world.clients e.world.tasks e.calls e.gone e.holder) (rest : List ClaimKey) :
    e.claims ++ rest = keys (Transport.deviceId e.world.device) e.holder e.world.tasks rest := by
  rw [claims, filter_busy h, keys, List.append_assoc]

theorem Idle.beside {e : Engine σ} {index : Nat} {c : Controller} (idle : e.Idle index c)
    (outside : List ClaimKey) : { e with outside }.Idle index c :=
  ⟨idle.there, idle.stays, idle.free⟩

/-- A step of the controllers themselves goes the same way, whatever others have claimed. -/
theorem Step.beside [Transport σ] {a b : Engine σ} {event : Event} (hs : Step a event b)
    (own : b.outside = a.outside) (outside : List ClaimKey) :
    Step { a with outside } event { b with outside } := by
  cases hs with
  | claim index c request claims idle closed acquired =>
    exact .claim _ index c request claims (idle.beside outside) closed acquired
  | proceed index c u there calling waited =>
    exact .proceed { a with outside } index c u there calling waited
  | close index c s idle stream => exact .close _ index c s (idle.beside outside) stream
  | disconnect index c idle => exact .disconnect _ index c (idle.beside outside)
  | listen index c hub idle => exact .listen _ index c hub (idle.beside outside)
  | drop index c idle => exact .drop _ index c (idle.beside outside)
  | task mailbox => exact .task { a with outside } mailbox
  | worker index worker => exact .worker { a with outside } index worker
  | device device posts => exact .device { a with outside } device posts
  | pass time => exact .pass { a with outside } time
  | schedule ready memory => exact .schedule { a with outside } ready memory
  -- What others claim and release is not theirs.
  | acquire key claims acquired => exact absurd own (List.cons_ne_self key a.outside)
  | release key held =>
    have hless := congrArg List.length own
    have hpos := List.length_pos_of_mem held
    dsimp only at hless
    rw [List.length_erase_of_mem held] at hless
    omega

end Engine

/-! ### Hosts -/

/-- A device, and who streams from it. -/
inductive Host (σ κ ν : Type) where
  | controllers (e : Engine σ)
  | schedulers (w : World (Ledger σ) κ ν)

namespace Host

def device : Host σ κ ν → Ledger σ
  | controllers e => e.world.device
  | schedulers w => w.device

def tasks : Host σ κ ν → List RunningTask
  | controllers e => e.world.tasks
  | schedulers w => w.tasks

def now : Host σ κ ν → Nat
  | controllers e => e.world.now
  | schedulers w => w.now

def nextMailbox : Host σ κ ν → Mailbox
  | controllers e => e.world.nextMailbox
  | schedulers w => w.nextMailbox

/-- The registry, as a host has left it. -/
def registry : Host σ κ ν → ClaimRegistry
  | controllers e => e.world.claims
  | schedulers w => w.claims

/-- A host that finds the registry like this. -/
def sees (registry : ClaimRegistry) : Host σ κ ν → Host σ κ ν
  | controllers e => .controllers { e with world := { e.world with claims := registry } }
  | schedulers w => .schedulers { w with claims := registry }

section Registry

variable (h : Host σ κ ν) (registry : ClaimRegistry)

@[simp] theorem sees_device : (h.sees registry).device = h.device := by cases h <;> rfl

@[simp] theorem sees_registry : (h.sees registry).registry = registry := by cases h <;> rfl

end Registry

/-- Nothing has happened yet. -/
inductive Fresh : Host σ κ ν → Prop where
  | controllers (device : σ) (controllers : List Controller) (now : Nat)
      (closed : ∀ c ∈ controllers, c.closed = c) :
      Fresh (.controllers (Engine.start device controllers now []))
  | schedulers (device : σ) (now : Nat) :
      Fresh (.schedulers { now, device := { device }, clients := [] })

/-- The contract of the bus stack: a completion is that of an accepted submission and no submission has
two, and none is missing when the wait for cancelled transfers is over. -/
structure Lawful (h : Host σ κ ν) : Prop where
  honest : ∀ mailbox, h.device.Honest mailbox
  prompt : ∀ t ∈ h.tasks, ∀ deadline fault, t.task.phase = .draining deadline fault →
    deadline ≤ h.now → h.device.pending t.mailbox = []

/-- A scheduler has transfers in flight, by its own count or by the books of the bus stack. -/
def InFlight (h : Host σ κ ν) (t : RunningTask) : Prop :=
  t.task.dispatch.inFlight.toList ≠ [] ∨ h.device.pending t.mailbox ≠ []

/-- The books of a host are in order, and no task has ended early. So it is on a bus stack that keeps its
contract, if no sink panics. -/
structure Balanced (h : Host σ κ ν) : Prop where
  accounts : Accounts h.tasks h.nextMailbox h.device
  drained : ∀ t ∈ h.tasks, t.Drained

variable [Transport σ]

def name (h : Host σ κ ν) : String := Transport.deviceId h.device

@[simp] theorem sees_name (h : Host σ κ ν) (registry : ClaimRegistry) :
    (h.sees registry).name = h.name :=
  congrArg Transport.deviceId (h.sees_device registry)

/-- The claims that somebody on this host has. -/
def claims : Host σ κ ν → List ClaimKey
  | controllers e => e.claims
  | schedulers w => World.liveClaims w.tasks

@[simp] theorem sees_claims (h : Host σ κ ν) (registry : ClaimRegistry) :
    (h.sees registry).claims = h.claims := by cases h <;> rfl

/-- The claims of tasks are among those of the host, in their order. -/
theorem liveClaims_sublist (h : Host σ κ ν) : (World.liveClaims h.tasks).Sublist h.claims := by
  cases h with
  | controllers e => exact List.sublist_append_right ..
  | schedulers w => exact .refl _

/-- One thing happens on a host. What others claim is not of its doing. -/
inductive Step [StreamClient κ ν] : Host σ κ ν → Incident → Host σ κ ν → Prop where
  | controllers {e e' : Engine σ} {event : Engine.Event} (step : e.Step event e')
      (own : e'.outside = e.outside) : Step (.controllers e) .none (.controllers e')
  | schedulers {w w' : World (Ledger σ) κ ν} {incident : Incident}
      (step : w.SchedulerStep incident w') : Step (.schedulers w) incident (.schedulers w')

/-- Whoever asks for a key is refused, and nothing happens. -/
def Refuses (key : ClaimKey) : Host σ κ ν → Prop
  | controllers e =>
    (∀ index plan size, Dispatch.poolShape plan = .ok size →
      key = .endpoint (Transport.deviceId e.world.device) plan.endpoint →
        e.world.tryStart index plan = (.error (.deviceBusy plan.endpoint), e.world)) ∧
    ∀ index c request, e.world.clients[index]? = some c → c.state = .closed →
      key = .device (Transport.deviceId e.world.device) →
        e.world.openStream index request =
          (.error (.deviceBusy (Transport.deviceId e.world.device)), e.world)
  | schedulers w =>
    ∀ client plan size, Dispatch.poolShape plan = .ok size →
      key = .endpoint (Transport.deviceId w.device) plan.endpoint →
        w.tryStart client plan = (.error (.deviceBusy plan.endpoint), w)

/-- What holds of a host in every run. -/
structure Sound (h : Host σ κ ν) : Prop where
  /-- Tasks have mailboxes of their own, and controllers their roles. -/
  orderly : match h with
    | .controllers e =>
      e.world.Served ∧ Roles e.world.clients e.world.tasks e.calls e.gone e.holder
    | .schedulers w => w.Served
  assigned : ∀ t ∈ h.tasks, t.Assigned h.name

variable {h h' : Host σ κ ν} {incident : Incident}

theorem Sound.sees (sound : h.Sound) (registry : ClaimRegistry) : (h.sees registry).Sound := by
  cases h with
  | controllers e =>
    obtain ⟨served, roles⟩ := sound.orderly
    exact ⟨⟨⟨served.distinct, served.fresh, served.clients, served.due⟩, roles⟩, sound.assigned⟩
  | schedulers w =>
    have served := sound.orderly
    exact ⟨⟨served.distinct, served.fresh, served.clients, served.due⟩, sound.assigned⟩

omit [Transport σ] in
/-- While nothing is posted and nobody drains, no contract is broken. -/
theorem Lawful.of_quiet (posted : h.device.posted = [])
    (runs : ∀ t ∈ h.tasks, 2 ≤ t.task.phase.rank) : h.Lawful := by
  refine ⟨fun mailbox => ?_, fun t ht deadline fault phase => ?_⟩
  · rw [Ledger.Honest, Ledger.postedTo, posted]
    exact List.nil_subperm
  · have hrank := runs t ht
    rw [phase] at hrank
    exact absurd hrank (Nat.not_succ_le_self 1)

omit [Transport σ] in
theorem Lawful.sees (lawful : h.Lawful) (registry : ClaimRegistry) : (h.sees registry).Lawful := by
  cases h with
  | controllers e => exact ⟨lawful.honest, lawful.prompt⟩
  | schedulers w => exact ⟨lawful.honest, lawful.prompt⟩

omit [Transport σ] in
theorem Balanced.sees (balanced : h.Balanced) (registry : ClaimRegistry) :
    (h.sees registry).Balanced := by
  cases h with
  | controllers e => exact ⟨balanced.accounts, balanced.drained⟩
  | schedulers w => exact ⟨balanced.accounts, balanced.drained⟩

omit [Transport σ] in
/-- In a balanced host only a task that goes on has transfers in flight. -/
theorem Balanced.goes (balanced : h.Balanced) {t : RunningTask} (ht : t ∈ h.tasks)
    (flying : h.InFlight t) : t.task.isEnded = false := by
  by_contra hended
  rw [Bool.not_eq_false] at hended
  have hpending := balanced.accounts.accounted t ht
  rw [RunningTask.Accounted, if_pos hended] at hpending
  exact flying.elim (fun hcount => hcount (balanced.drained t ht hended)) fun hbooks => hbooks hpending

/-- A key that is held is refused, and nothing happens. -/
theorem refuses {key : ClaimKey} (held : key ∈ h.registry.held) : h.Refuses key := by
  cases h with
  | controllers e =>
    refine ⟨?_, ?_⟩
    · rintro index plan size shape rfl
      exact e.world.tryStart_busy index shape held
    · rintro index c request there closed rfl
      have hnone : e.world.claims.acquire e.world.deviceClaim = none := by
        rw [ClaimRegistry.acquire]
        exact if_pos held
      rw [World.openStream, there]
      dsimp only
      rw [closed, if_neg (by simp), hnone]
  | schedulers w =>
    rintro client plan size shape rfl
    exact w.tryStart_busy client shape held

namespace Fresh

omit [Transport σ] in
theorem tasks (fresh : h.Fresh) : h.tasks = [] := by
  cases fresh <;> rfl

omit [Transport σ] in
theorem lawful (fresh : h.Fresh) : h.Lawful := by
  refine .of_quiet ?_ fun t ht => ?_
  · cases fresh <;> rfl
  · rw [fresh.tasks] at ht
    cases ht

omit [Transport σ] in
theorem balanced (fresh : h.Fresh) : h.Balanced := by
  refine ⟨?_, fun t ht => ?_⟩
  · cases fresh with
    | controllers device controllers now => exact Engine.accounts_start device controllers now []
    | schedulers device now =>
      exact ⟨List.nodup_nil, fun t ht => absurd ht List.not_mem_nil,
        fun entry hentry => absurd hentry List.not_mem_nil, fun t ht => absurd ht List.not_mem_nil⟩
  · rw [fresh.tasks] at ht
    cases ht

theorem sound (fresh : h.Fresh) : h.Sound := by
  refine ⟨?_, fun t ht => ?_⟩
  · cases fresh with
    | controllers device controllers now closed =>
      have named : Engine.Named (Transport.deviceId device) (Engine.start device controllers now []) :=
        .start device controllers now [] rfl closed List.nodup_nil
      exact ⟨named.served, named.ordered.roles⟩
    | schedulers device now =>
      exact ⟨List.nodup_nil, fun t ht => absurd ht List.not_mem_nil,
        fun t ht => absurd ht List.not_mem_nil, fun t ht => absurd ht List.not_mem_nil⟩
  · rw [fresh.tasks] at ht
    cases ht

theorem claims (fresh : h.Fresh) : h.claims = [] := by
  cases fresh with
  | controllers device controllers now closed =>
    have named : Engine.Named (Transport.deviceId device) (Engine.start device controllers now []) :=
      .start device controllers now [] rfl closed List.nodup_nil
    have hkeys := Engine.claims_eq named.ordered.roles []
    rwa [List.append_nil] at hkeys
  | schedulers device now => rfl

end Fresh

variable [StreamClient κ ν]

namespace Step

/-- Whatever happens on a host, the registry holds the claims that somebody there has, and whatever it
held besides. -/
theorem records (hs : Step h incident h') (sound : h.Sound) (named : h'.name = h.name)
    {rest : List ClaimKey} (records : h.registry.Records (h.claims ++ rest)) :
    h'.Sound ∧ h'.registry.Records (h'.claims ++ rest) := by
  cases hs with
  | @controllers e e' event step own =>
    obtain ⟨served, roles⟩ := sound.orderly
    have hkeys := Engine.claims_eq roles rest
    have hendpoints : ∀ t ∈ e.world.tasks,
        ∃ address, t.claim = .endpoint (Transport.deviceId e.world.device) address :=
      fun t ht => ⟨_, sound.assigned t ht⟩
    rw [Host.claims, hkeys] at records
    -- To its controllers, whatever else is claimed is claimed by others.
    have hname : Transport.deviceId e'.world.device = Transport.deviceId e.world.device := named
    have hordered := (step.beside own rest).ordered ⟨records, hendpoints, roles⟩ served.distinct rfl
      hname
    refine ⟨⟨⟨step.served served, hordered.roles⟩, fun t' ht' => ?_⟩, ?_⟩
    · rw [named]
      exact (step.origin served.distinct ht').assigned rfl sound.assigned
    · show e'.world.claims.Records (e'.claims ++ rest)
      rw [Engine.claims_eq (e := e') hordered.roles rest, hname]
      exact hordered.records
  | @schedulers w w' incident step =>
    have served := sound.orderly
    have hshape := step.shape served.distinct
    refine ⟨⟨hshape.served served, fun t' ht' => ?_⟩, hshape.records served.distinct records⟩
    rw [named]
    exact (hshape.origin served.distinct ht').assigned rfl sound.assigned

/-- On a bus stack that keeps its contract the accounts stay in order, and no task ends early. -/
theorem balanced (hs : Step h .none h') (balanced : h.Balanced) (lawful : h.Lawful) :
    h'.Balanced := by
  have hdistinct := balanced.accounts.distinct
  cases hs with
  | @controllers e e' event step own =>
    have contract : e.Contract (Transport.deviceId e.world.device) :=
      ⟨rfl, lawful.honest, lawful.prompt⟩
    refine ⟨step.accounts balanced.accounts contract, fun t' ht' => ?_⟩
    exact (step.origin hdistinct ht').drained balanced.drained balanced.accounts.accounted
      lawful.prompt
  | @schedulers w w' _ step =>
    have hshape := step.shape hdistinct
    refine ⟨hshape.accounts balanced.accounts lawful.honest lawful.prompt, fun t' ht' => ?_⟩
    exact (hshape.origin hdistinct ht').drained balanced.drained balanced.accounts.accounted
      lawful.prompt

end Step

end Host

/-! ### Processes -/

/-- Everything in a process that streams, or claims what streaming needs. -/
structure Process (σ κ ν : Type) where
  registry : ClaimRegistry := {}
  hosts : List (Host σ κ ν) := []
  /-- Keys that somebody else has claimed. -/
  loose : List ClaimKey := []

namespace Process

variable [Transport σ]

/-- The claims that somebody has. -/
def claims (p : Process σ κ ν) : List ClaimKey := p.hosts.flatMap Host.claims ++ p.loose

variable [StreamClient κ ν]

/-- One thing happens in a process. -/
inductive Step (p : Process σ κ ν) : Incident → Process σ κ ν → Prop where
  /-- A host makes a step, with the registry as it is. Its device keeps its name. -/
  | host {i : Nat} {h h' : Host σ κ ν} {incident : Incident} (there : p.hosts[i]? = some h)
      (step : (h.sees p.registry).Step incident h') (named : h'.name = h.name) :
      Step p incident { p with registry := h'.registry, hosts := p.hosts.set i h' }
  /-- A device is opened, for controllers or schedulers. -/
  | attach (h : Host σ κ ν) (fresh : h.Fresh) : Step p .none { p with hosts := p.hosts ++ [h] }
  /-- Somebody else claims a free key. -/
  | acquire (key : ClaimKey) (registry : ClaimRegistry)
      (acquired : p.registry.acquire key = some registry) :
      Step p .none { p with registry, loose := key :: p.loose }
  /-- Somebody else gives a key back. -/
  | release (key : ClaimKey) (held : key ∈ p.loose) :
      Step p .none { p with registry := p.registry.release key, loose := p.loose.erase key }

/-- The processes of all runs that keep a law, which is about what goes wrong in a step and what the
process is like after it. -/
inductive Reachable (law : Incident → Process σ κ ν → Prop) : Process σ κ ν → Prop where
  | start : Reachable law {}
  | step {a b : Process σ κ ν} {incident : Incident} (h : Reachable law a)
      (hs : Step a incident b) (kept : law incident b) : Reachable law b

omit [Transport σ] [StreamClient κ ν] in
/-- The law of bus stacks that keep their contract, and of sinks that do not panic. -/
structure Lawful (incident : Incident) (p : Process σ κ ν) : Prop where
  calm : incident = .none
  hosts : ∀ h ∈ p.hosts, h.Lawful

omit [StreamClient κ ν] in
/-- What holds of a process in every run. -/
structure Sound (p : Process σ κ ν) : Prop where
  records : p.registry.Records p.claims
  hosts : ∀ h ∈ p.hosts, h.Sound

variable {p q : Process σ κ ν} {h h' : Host σ κ ν} {incident : Incident}
  {law : Incident → Process σ κ ν → Prop}

omit [StreamClient κ ν] in
/-- One host has its claims, and everybody else has the rest. -/
theorem claims_split {i : Nat} (there : p.hosts[i]? = some h) :
    ∃ rest, p.claims.Perm (h.claims ++ rest) ∧ ∀ (h' : Host σ κ ν) (registry : ClaimRegistry),
      { p with registry, hosts := p.hosts.set i h' }.claims.Perm (h'.claims ++ rest) := by
  obtain ⟨hlt, hget⟩ := List.getElem?_eq_some_iff.mp there
  refine ⟨(p.hosts.eraseIdx i).flatMap Host.claims ++ p.loose, ?_, fun h' registry => ?_⟩
  · have hperm := (List.getElem_cons_eraseIdx_perm hlt).symm.flatMap_right Host.claims
    rw [hget, List.flatMap_cons] at hperm
    rw [claims, ← List.append_assoc]
    exact hperm.append_right p.loose
  · have hperm := (List.set_perm_cons_eraseIdx hlt h').flatMap_right Host.claims
    rw [List.flatMap_cons] at hperm
    rw [claims, ← List.append_assoc]
    exact hperm.append_right p.loose

/-- Every step keeps the registry to what somebody has claimed. -/
theorem Step.sound (hs : Step p incident q) (sound : p.Sound) : q.Sound := by
  cases hs with
  | @host i h h' _ there step named =>
    obtain ⟨rest, hbefore, hafter⟩ := claims_split there
    have hrecords : (h.sees p.registry).registry.Records ((h.sees p.registry).claims ++ rest) := by
      rw [h.sees_registry, h.sees_claims]
      exact sound.records.congr hbefore
    have hmine := (sound.hosts h (List.mem_of_getElem? there)).sees p.registry
    obtain ⟨hsound, hkept⟩ := step.records hmine (by rw [named, h.sees_name]) hrecords
    refine ⟨hkept.congr (hafter h' h'.registry).symm, fun g hg => ?_⟩
    rcases List.mem_or_eq_of_mem_set hg with hold | rfl
    · exact sound.hosts g hold
    · exact hsound
  | attach h fresh =>
    refine ⟨?_, fun g hg => ?_⟩
    · have hsame : { p with hosts := p.hosts ++ [h] }.claims = p.claims := by
        rw [claims, claims, List.flatMap_append, List.flatMap_singleton, fresh.claims, List.append_nil]
      rw [hsame]
      exact sound.records
    · rcases List.mem_append.mp hg with hold | hnew
      · exact sound.hosts g hold
      · rw [List.mem_singleton.mp hnew]
        exact fresh.sound
  | acquire key registry acquired =>
    exact ⟨(sound.records.acquire acquired).congr List.perm_middle.symm, sound.hosts⟩
  | release key held =>
    have hsplit := ((List.perm_cons_erase held).append_left (p.hosts.flatMap Host.claims)).trans
      List.perm_middle
    exact ⟨(sound.records.congr hsplit).release, sound.hosts⟩

/-- Whatever happens, the registry holds what somebody has claimed. -/
theorem Reachable.sound (h : Reachable law p) : p.Sound := by
  induction h with
  | start => exact ⟨⟨.refl _, List.nodup_nil⟩, fun h hh => absurd hh List.not_mem_nil⟩
  | step _ hs _ ih => exact hs.sound ih

/-- Lawful steps keep the books of every host in order. -/
theorem Step.balanced (hs : Step p .none q) (balanced : ∀ h ∈ p.hosts, h.Balanced)
    (lawful : ∀ h ∈ p.hosts, h.Lawful) : ∀ h ∈ q.hosts, h.Balanced := by
  intro g hg
  cases hs with
  | @host i h h' _ there step =>
    have hmem := List.mem_of_getElem? there
    rcases List.mem_or_eq_of_mem_set hg with hold | rfl
    · exact balanced g hold
    · exact step.balanced ((balanced h hmem).sees p.registry) ((lawful h hmem).sees p.registry)
  | attach h fresh =>
    rcases List.mem_append.mp hg with hold | hnew
    · exact balanced g hold
    · rw [List.mem_singleton.mp hnew]
      exact fresh.balanced
  | acquire | release => exact balanced g hg

theorem Reachable.lawful (h : Reachable law p)
    (hlaw : ∀ incident q, law incident q → Lawful incident q) : ∀ h ∈ p.hosts, h.Lawful := by
  cases h with
  | start => exact fun h hh => absurd hh List.not_mem_nil
  | step _ _ kept => exact (hlaw _ _ kept).hosts

theorem Reachable.balanced (h : Reachable law p)
    (hlaw : ∀ incident q, law incident q → Lawful incident q) : ∀ h ∈ p.hosts, h.Balanced := by
  induction h with
  | start => exact fun h hh => absurd hh List.not_mem_nil
  | step h hs kept ih =>
    rw [(hlaw _ _ kept).calm] at hs
    exact hs.balanced ih (h.lawful hlaw)

/-! ### A device that is opened twice -/

/-- Two transfers on endpoint 0x81. -/
def pair : TransferPlan :=
  { endpoint := 0x81, kind := .bulk, packetSize := 4, packetsPerRequest := 1, requestCount := 2
    cancelTimeout := 500 }

/-- A device, opened and not used. -/
def unused : World (Ledger ScriptedTransport) Recorder Recording :=
  { now := 0, device := { device := {} }, clients := [] }

/-- The same with a sink, and then with a scheduler on endpoint 0x81. -/
def ready : World (Ledger ScriptedTransport) Recorder Recording :=
  { unused with clients := [{ name := 0 }] }

def used : World (Ledger ScriptedTransport) Recorder Recording := (ready.tryStart 0 pair).2

/-- A process that has opened the device twice and uses it once. -/
def twice : Process ScriptedTransport Recorder Recording :=
  { registry := used.claims, hosts := [.schedulers used, .schedulers unused] }

theorem reachable_twice : Reachable Lawful twice := by
  have hfresh : (Host.schedulers unused).Fresh := .schedulers _ 0
  have hready : (Host.schedulers ready).Lawful := .of_quiet rfl (by decide +kernel)
  have hused : (Host.schedulers used).Lawful := .of_quiet rfl (by decide +kernel)
  have hfirst : Reachable Lawful { hosts := [.schedulers unused] } :=
    Reachable.start.step (.attach _ hfresh) ⟨rfl, List.forall_mem_singleton.mpr hfresh.lawful⟩
  have hsink : Step { hosts := [.schedulers unused] } .none { hosts := [.schedulers ready] } :=
    Step.host (p := { hosts := [.schedulers unused] }) (i := 0) rfl
      (.schedulers (.sinks ready.clients [] (Nat.zero_le 1))) rfl
  have hsecond : Reachable Lawful { hosts := [.schedulers ready] } :=
    hfirst.step hsink ⟨rfl, List.forall_mem_singleton.mpr hready⟩
  have hstart : Step { hosts := [.schedulers ready] } .none
      { registry := used.claims, hosts := [.schedulers used] } :=
    Step.host (p := { hosts := [.schedulers ready] }) (i := 0) rfl
      (.schedulers (.start 0 pair Nat.one_pos)) rfl
  have hthird : Reachable Lawful { registry := used.claims, hosts := [.schedulers used] } :=
    hsecond.step hstart ⟨rfl, List.forall_mem_singleton.mpr hused⟩
  refine hthird.step (.attach _ hfresh) ⟨rfl, fun h hh => ?_⟩
  rcases List.mem_cons.mp hh with rfl | hlast
  · exact hused
  · rw [List.mem_singleton.mp hlast]
    exact hfresh.lawful

/-! ### One stream for an endpoint -/

namespace Sound

variable {t u : RunningTask}

omit [StreamClient κ ν] in
/-- Who asks for a key is refused if somebody has it, and only then. -/
theorem acquire_none (sound : p.Sound) (key : ClaimKey) :
    p.registry.acquire key = none ↔ key ∈ p.claims := by
  rw [ClaimRegistry.acquire, ← sound.records.perm.mem_iff]
  split
  · next held => exact iff_of_true rfl held
  · next free => exact iff_of_false (Option.some_ne_none _) free

omit [StreamClient κ ν] in
theorem nodup (sound : p.Sound) : p.claims.Nodup :=
  sound.records.perm.nodup_iff.mp sound.records.nodup

omit [StreamClient κ ν] in
/-- A task that goes on has its claim. -/
theorem mem_claims (hh : h ∈ p.hosts) (ht : t ∈ h.tasks) (goes : t.task.isEnded = false) :
    t.claim ∈ h.claims ∧ t.claim ∈ p.claims := by
  have hmine := h.liveClaims_sublist.subset (World.mem_liveClaims.mpr ⟨t, ht, goes, rfl⟩)
  exact ⟨hmine, List.mem_append_left _ (List.mem_flatMap.mpr ⟨h, hh, hmine⟩)⟩

omit [StreamClient κ ν] in
/-- Two tasks that go on have different claims. -/
theorem eq_of_claim (sound : p.Sound) {i j : Nat} {g : Host σ κ ν} (hi : p.hosts[i]? = some g)
    (hj : p.hosts[j]? = some h) (ht : t ∈ g.tasks) (hu : u ∈ h.tasks)
    (tgoes : t.task.isEnded = false) (ugoes : u.task.isEnded = false) (same : t.claim = u.claim) :
    i = j ∧ t = u := by
  obtain ⟨hclaims, hdisjoint⟩ := List.nodup_flatMap.mp (List.nodup_append.mp sound.nodup).1
  obtain ⟨hilt, higet⟩ := List.getElem?_eq_some_iff.mp hi
  obtain ⟨hjlt, hjget⟩ := List.getElem?_eq_some_iff.mp hj
  have htclaim := (mem_claims (List.mem_of_getElem? hi) ht tgoes).1
  have huclaim := (mem_claims (List.mem_of_getElem? hj) hu ugoes).1
  rw [← same] at huclaim
  have hij : i = j := by
    -- The claims of two hosts have no key in common.
    rw [List.pairwise_iff_getElem] at hdisjoint
    rcases Nat.lt_trichotomy i j with hlt | heq | hlt
    · have hapart : List.Disjoint p.hosts[i].claims p.hosts[j].claims := hdisjoint i j hilt hjlt hlt
      rw [higet, hjget] at hapart
      exact absurd huclaim (hapart htclaim)
    · exact heq
    · have hapart : List.Disjoint p.hosts[j].claims p.hosts[i].claims := hdisjoint j i hjlt hilt hlt
      rw [higet, hjget] at hapart
      exact absurd htclaim (hapart huclaim)
  subst hij
  rw [hi] at hj
  cases hj
  have hnodup := (hclaims h (List.mem_of_getElem? hi)).sublist h.liveClaims_sublist
  refine ⟨rfl, List.inj_on_of_nodup_map hnodup ?_ ?_ same⟩
  · exact List.mem_filter.mpr ⟨ht, by rw [tgoes]; rfl⟩
  · exact List.mem_filter.mpr ⟨hu, by rw [ugoes]; rfl⟩

end Sound

/-- Whatever is started, stopped, dropped, opened and closed in a process, and in whatever order: the
registry holds the keys of the claims that somebody has, no two of these have one key, and whoever asks
for a key is refused just if somebody has it, without any effect on that claim or anything else. On bus
stacks that keep their contract, and with sinks that do not panic, a scheduler keeps its claim while it
has transfers in flight, so no two of them have transfers in flight on one endpoint of a device. -/
theorem one_stream_per_endpoint (reachable : Reachable law p) :
    p.registry.Records p.claims ∧ p.claims.Nodup ∧
      (∀ key, p.registry.acquire key = none ↔ key ∈ p.claims) ∧
      (∀ h ∈ p.hosts, ∀ key ∈ p.claims, (h.sees p.registry).Refuses key) ∧
      ((∀ incident q, law incident q → Lawful incident q) →
        (∀ h ∈ p.hosts, ∀ t ∈ h.tasks, h.InFlight t → t.task.isEnded = false ∧
          t.claim = .endpoint h.name t.task.dispatch.plan.endpoint ∧ t.claim ∈ p.registry.held) ∧
        ∀ (i j : Nat) (g h : Host σ κ ν) (t u : RunningTask), p.hosts[i]? = some g →
          p.hosts[j]? = some h → t ∈ g.tasks → u ∈ h.tasks → g.InFlight t → h.InFlight u →
            g.name = h.name → t.task.dispatch.plan.endpoint = u.task.dispatch.plan.endpoint →
              i = j ∧ t = u) := by
  have hsound := reachable.sound
  refine ⟨hsound.records, hsound.nodup, hsound.acquire_none, fun h hh key hkey => ?_, fun hlaw => ?_⟩
  · apply Host.refuses
    rw [h.sees_registry]
    exact hsound.records.perm.mem_iff.mpr hkey
  have hbalanced := reachable.balanced hlaw
  refine ⟨fun h hh t ht flying => ?_, fun i j g h t u hi hj ht hu tflies uflies hname hendpoint => ?_⟩
  · have hgoes := (hbalanced h hh).goes ht flying
    exact ⟨hgoes, (hsound.hosts h hh).assigned t ht,
      hsound.records.perm.mem_iff.mpr (Sound.mem_claims hh ht hgoes).2⟩
  · have hg := List.mem_of_getElem? hi
    have hh := List.mem_of_getElem? hj
    have hsame : t.claim = u.claim := by
      rw [(hsound.hosts g hg).assigned t ht, (hsound.hosts h hh).assigned u hu, hname, hendpoint]
    exact hsound.eq_of_claim hi hj ht hu ((hbalanced g hg).goes ht tflies)
      ((hbalanced h hh).goes hu uflies) hsame

/-- The endpoint has one claim. Whoever opened the device a second time gets no scheduler on it and takes
nothing from the first, which is the only one with transfers in flight there. -/
theorem one_stream_per_endpoint_twice :
    twice.claims = [.endpoint "scripted" 0x81] ∧
      twice.registry.acquire (.endpoint "scripted" 0x81) = none ∧
      ({ unused with claims := twice.registry }.tryStart 0 pair).1 = .error (.deviceBusy 0x81) ∧
      ∀ (j : Nat) (h : Host ScriptedTransport Recorder Recording) (u : RunningTask),
        twice.hosts[j]? = some h → u ∈ h.tasks → h.InFlight u → h.name = "scripted" →
          u.task.dispatch.plan.endpoint = 0x81 → j = 0 ∧ u.mailbox = 0 := by
  obtain ⟨-, -, hacquire, hrefuses, hflight⟩ := one_stream_per_endpoint reachable_twice
  obtain ⟨-, honly⟩ := hflight fun _ _ => id
  have hclaims : twice.claims = [.endpoint "scripted" 0x81] := by decide +kernel
  have hmem : ClaimKey.endpoint "scripted" 0x81 ∈ twice.claims := by
    rw [hclaims]
    exact List.mem_singleton_self _
  refine ⟨hclaims, (hacquire _).mpr hmem, ?_, fun j h u hj hu uflies hname hendpoint => ?_⟩
  · have hrefused := hrefuses (.schedulers unused) (List.mem_of_getElem? (i := 1) rfl) _ hmem
    rw [hrefused 0 pair 4 (by decide +kernel) rfl]
    rfl
  · have hone : used.tasks.length = 1 := by decide +kernel
    obtain ⟨t, htasks⟩ := List.length_eq_one_iff.mp hone
    have hfacts : ∀ t ∈ used.tasks, t.mailbox = 0 ∧ t.task.dispatch.plan.endpoint = 0x81 ∧
        t.task.dispatch.inFlight.toList ≠ [] := by decide +kernel
    have ht : t ∈ used.tasks := by
      rw [htasks]
      exact List.mem_singleton_self t
    obtain ⟨hmailbox, htendpoint, hcount⟩ := hfacts t ht
    obtain ⟨rfl, rfl⟩ := honly 0 j (.schedulers used) h t u rfl hj ht hu (.inl hcount) uflies
      hname.symm (htendpoint.trans hendpoint.symm)
    exact ⟨rfl, hmailbox⟩

end Process

end UsbVideo
