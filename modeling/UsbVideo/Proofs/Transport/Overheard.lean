import UsbVideo.Proofs.Dispatch.Ledger
import UsbVideo.Proofs.Stream.Adequate
import UsbVideo.Engine.Controller

/-!
# What a bus stack is asked for

A transport that is `Overheard` answers as the one inside and writes down what it was asked for, in
order, and whether it was granted. Whoever drives it cannot tell, so what is proved of all overheard
bus stacks is proved of all bus stacks.

Of an opening these are the parts of the conversation:

    agree     descriptors and control transfers; when it succeeds a commit was granted
    select    one alternate setting
    pool      submissions to one mailbox
-/

namespace UsbVideo

/-- Something a bus stack was asked for, and whether it was granted. -/
inductive Asked where
  | descriptor (granted : Bool)
  | read (setup : ControlSetup) (granted : Bool)
  | write (setup : ControlSetup) (data : Bytes) (granted : Bool)
  | select (interface alt : UInt8) (granted : Bool)
  | submit (mailbox : Mailbox) (id : Nat) (granted : Bool)
  | cancel (endpoint : UInt8) (id : Nat) (granted : Bool)
  deriving DecidableEq

namespace Asked

/-- Descriptors and control transfers. -/
def talks : Asked → Bool
  | descriptor _ | read .. | write .. => true
  | _ => false

/-- The mailbox of a submission. -/
def mailbox? : Asked → Option Mailbox
  | submit mailbox .. => some mailbox
  | _ => none

/-- Interface and alternate setting of a selection, and whether it was granted. -/
def selection? : Asked → Option (UInt8 × UInt8 × Bool)
  | select interface alt granted => some (interface, alt, granted)
  | _ => none

/-- A commit to what was agreed on, for an interface. -/
def commit (interface : UInt8) (data : Bytes) (granted : Bool) : Asked :=
  .write (VideoControl.set VideoControl.commit interface) data granted

end Asked

/-- A bus stack, and what it was asked for. -/
structure Overheard (τ : Type) where
  device : τ
  /-- Everything it was asked for, the oldest first. -/
  asked : List Asked := []

variable {τ : Type} [Transport τ]

/-- One more request, and what it made of the device. -/
def Overheard.hear (o : Overheard τ) (device : τ) (asked : Asked) : Overheard τ :=
  ⟨device, o.asked ++ [asked]⟩

instance : Transport (Overheard τ) where
  deviceId o := Transport.deviceId o.device
  deviceDescriptor o :=
    let (answer, device) := Transport.deviceDescriptor o.device
    (answer, o.hear device (.descriptor answer.isOk))
  configurationDescriptor o :=
    let (answer, device) := Transport.configurationDescriptor o.device
    (answer, o.hear device (.descriptor answer.isOk))
  controlIn setup length timeout o :=
    let (answer, device) := Transport.controlIn setup length timeout o.device
    (answer, o.hear device (.read setup answer.isOk))
  controlOut setup data timeout o :=
    let (answer, device) := Transport.controlOut setup data timeout o.device
    (answer, o.hear device (.write setup data answer.isOk))
  setInterface interface alt o :=
    let (answer, device) := Transport.setInterface interface alt o.device
    (answer, o.hear device (.select interface alt answer.isOk))
  submit mailbox transfer o :=
    let (answer, device) := Transport.submit mailbox transfer o.device
    (answer, o.hear device (.submit mailbox transfer.id answer.isOk))
  cancel endpoint id o :=
    let (answer, posts, device) := Transport.cancel endpoint id o.device
    (answer, posts, o.hear device (.cancel endpoint id answer.isOk))

/-! ### What was heard meanwhile -/

namespace Ledger

variable {l l' l'' : Ledger (Overheard τ)} {asked later : List Asked}

omit [Transport τ] in
/-- This was asked for between the one moment and the other. -/
def Heard (l : Ledger (Overheard τ)) (asked : List Asked) (l' : Ledger (Overheard τ)) : Prop :=
  l'.device.asked = l.device.asked ++ asked

omit [Transport τ] in
protected theorem Heard.refl (l : Ledger (Overheard τ)) : l.Heard [] l := (List.append_nil _).symm

omit [Transport τ] in
theorem Heard.trans (h : l.Heard asked l') (h' : l'.Heard later l'') :
    l.Heard (asked ++ later) l'' := by
  rw [Heard, h', h, List.append_assoc]

theorem Heard.setInterface {interface alt : UInt8} {answer : Except TransportError Unit}
    (h : Transport.setInterface interface alt l = (answer, l')) :
    l.Heard [.select interface alt answer.isOk] l' := by
  cases h
  rfl

/-- What is accepted was granted. -/
theorem Heard.granted {mailbox : Mailbox} {transfer : Transfer}
    (h : Transport.submit mailbox transfer l = (.ok (), l')) :
    l.Heard [.submit mailbox transfer.id true] l' := by
  rcases hinner : Transport.submit mailbox transfer l.device.device with ⟨_ | _, device⟩
  all_goals
    simp only [Transport.submit, hinner] at h
    cases h
  rfl

/-- What comes back was not. -/
theorem Heard.refused {mailbox : Mailbox} {transfer : Transfer} {refusal : Refusal}
    (h : Transport.submit mailbox transfer l = (.error refusal, l')) :
    l.Heard [.submit mailbox transfer.id false] l' := by
  rcases hinner : Transport.submit mailbox transfer l.device.device with ⟨_ | _, device⟩
  all_goals
    simp only [Transport.submit, hinner] at h
    cases h
  rfl

theorem heard_submit (mailbox : Mailbox) (transfer : Transfer) :
    ∃ granted, l.Heard [.submit mailbox transfer.id granted]
      (Transport.submit mailbox transfer l).2 := by
  rcases hsubmit : Transport.submit mailbox transfer l with ⟨refusal | _, l'⟩
  · exact ⟨false, .refused hsubmit⟩
  · exact ⟨true, .granted hsubmit⟩

omit [Transport τ] in
/-- These descriptors and control transfers were asked for, and nothing else was. -/
structure Talked (l : Ledger (Overheard τ)) (asked : List Asked) (l' : Ledger (Overheard τ)) :
    Prop where
  heard : l.Heard asked l'
  talk : ∀ a ∈ asked, a.talks = true

namespace Talked

omit [Transport τ] in
theorem one {a : Asked} (heard : l.Heard [a] l') (talk : a.talks = true) : l.Talked [a] l' :=
  ⟨heard, fun b hb => by rwa [List.mem_singleton.mp hb]⟩

omit [Transport τ] in
theorem trans (h : l.Talked asked l') (h' : l'.Talked later l'') : l.Talked (asked ++ later) l'' :=
  ⟨h.heard.trans h'.heard, fun a ha => (List.mem_append.mp ha).elim (h.talk a) (h'.talk a)⟩

theorem deviceDescriptor {answer : Except TransportError Bytes}
    (h : Transport.deviceDescriptor l = (answer, l')) : l.Talked [.descriptor answer.isOk] l' := by
  cases h
  exact .one rfl rfl

theorem configurationDescriptor {answer : Except TransportError Bytes}
    (h : Transport.configurationDescriptor l = (answer, l')) :
    l.Talked [.descriptor answer.isOk] l' := by
  cases h
  exact .one rfl rfl

theorem controlIn {setup : ControlSetup} {length timeout : Nat} {answer : Except TransportError Bytes}
    (h : Transport.controlIn setup length timeout l = (answer, l')) :
    l.Talked [.read setup answer.isOk] l' := by
  cases h
  exact .one rfl rfl

theorem controlOut {setup : ControlSetup} {data : Bytes} {timeout : Nat}
    {answer : Except TransportError Nat}
    (h : Transport.controlOut setup data timeout l = (answer, l')) :
    l.Talked [.write setup data answer.isOk] l' := by
  cases h
  exact .one rfl rfl

end Talked

end Ledger

/-! ### Agreeing -/

theorem readCatalog_talked (l : Ledger (Overheard τ)) :
    ∃ asked, l.Talked asked (readCatalog l).2 := by
  unfold readCatalog
  split
  · next e l' hidentity => exact ⟨_, .deviceDescriptor hidentity⟩
  · next identity l' hidentity =>
    have hfirst := Ledger.Talked.deviceDescriptor hidentity
    split
    · next e l'' hblock => exact ⟨_, hfirst.trans (.configurationDescriptor hblock)⟩
    · next block l'' hblock => exact ⟨_, hfirst.trans (.configurationDescriptor hblock)⟩

/-- The host has an answer only when the device was granted the commit to it. -/
theorem negotiate_talked (interface : UInt8) (uvcVersion : UInt16) (request : ProbeBlock)
    (timeout : Nat) (l : Ledger (Overheard τ)) :
    ∃ asked, l.Talked asked (negotiate interface uvcVersion request timeout l).2 ∧
      ∀ answer, (negotiate interface uvcVersion request timeout l).1 = .ok answer →
        ∃ data, .commit interface data true ∈ asked := by
  unfold negotiate
  dsimp only
  split
  · next e l' hset => exact ⟨_, .controlOut hset, nofun⟩
  · next n l' hset =>
    have hfirst := Ledger.Talked.controlOut hset
    split
    · next e l'' hget => exact ⟨_, hfirst.trans (.controlIn hget), nofun⟩
    · next bytes l'' hget =>
      have hsecond := hfirst.trans (.controlIn hget)
      split
      · exact ⟨_, hsecond, nofun⟩
      next answer _ =>
        split
        · next e l₃ hcommit => exact ⟨_, hsecond.trans (.controlOut hcommit), nofun⟩
        · next n l₃ hcommit =>
          have hgranted := List.mem_singleton_self (Asked.commit interface
            (answer.encode (ProbeBlock.lengthFor uvcVersion)) true)
          exact ⟨_, hsecond.trans (.controlOut hcommit),
            fun _ _ => ⟨_, List.mem_append_right _ hgranted⟩⟩

/-- Host and device agree only when the device was granted a commit for the interface. -/
theorem agree_talked (settings : EngineSettings) (request : StreamRequest)
    (l : Ledger (Overheard τ)) :
    ∃ asked, l.Talked asked (agree settings request l).2 ∧
      ∀ catalog config, (agree settings request l).1.result = .ok (catalog, config) →
        ∃ data, .commit config.interface data true ∈ asked := by
  obtain ⟨asked, hread⟩ := readCatalog_talked l
  unfold agree
  split
  · next e l' heq =>
    rw [heq] at hread
    exact ⟨asked, hread, fun _ _ h => nomatch h⟩
  · next catalog l' heq =>
    rw [heq] at hread
    dsimp only
    split
    · exact ⟨asked, hread, fun _ _ h => nomatch h⟩
    · next r hresolved =>
      obtain ⟨later, htalked, hcommit⟩ := negotiate_talked r.interface r.uvcVersion r.probe
        settings.transfer.controlTimeout l'
      refine ⟨asked ++ later, hread.trans htalked, fun catalog' config hresult => ?_⟩
      obtain ⟨r', hr, h⟩ := Noted.bind_ok.mp hresult
      rw [hresolved] at hr
      cases hr
      obtain ⟨answer, hanswer, h⟩ := Noted.bind_ok.mp h
      obtain ⟨config', hfinal, h⟩ := Noted.bind_ok.mp h
      cases h
      obtain ⟨data, hdata⟩ := hcommit answer hanswer
      rw [(ResolvedRequest.finalize_streams hfinal).interface]
      exact ⟨data, List.mem_append_right _ hdata⟩

/-! ### Submitting -/

/-- A pool is submitted to one mailbox, and nothing else is asked for. -/
theorem Dispatch.submitPool_heard (d : Dispatch) (l : Ledger (Overheard τ)) (pool : List Transfer) :
    ∃ asked, l.Heard asked (d.submitPool l pool).2.2 ∧
      ∀ a ∈ asked, a.mailbox? = some d.mailbox := by
  induction pool generalizing d l with
  | nil => exact ⟨[], .refl l, fun a ha => absurd ha List.not_mem_nil⟩
  | cons transfer rest ih =>
    obtain ⟨granted, hfirst⟩ := l.heard_submit d.mailbox (transfer.prepare d.nextId)
    have hmine : ∀ a ∈ [Asked.submit d.mailbox (transfer.prepare d.nextId).id granted],
        a.mailbox? = some d.mailbox := fun a ha => by rw [List.mem_singleton.mp ha]; rfl
    unfold submitPool submit
    rcases hsubmit : Transport.submit d.mailbox (transfer.prepare d.nextId) l with ⟨refusal | _, l'⟩
    · rw [hsubmit] at hfirst
      exact ⟨_, hfirst, hmine⟩
    · rw [hsubmit] at hfirst
      obtain ⟨later, hrest, hlater⟩ := ih _ l'
      exact ⟨_, hfirst.trans hrest, fun a ha => (List.mem_append.mp ha).elim (hmine a) (hlater a)⟩

end UsbVideo
