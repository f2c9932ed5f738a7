import UsbVideo.Device.Scripted
import UsbVideo.Proofs.Stream.Probe
import UsbVideo.Stream.Negotiation

/-!
# What is exchanged in a handshake

A transport that is `Tapped` answers as the one inside and writes down every control transfer with what
came of it, and that there was something else wherever it was used for anything else.

    proposal ──▶ answer ──▶ commitment

A handshake goes that far and no farther, and it stops where a transfer fails or where the answer is
not one to commit to. `Handshake.Course` has a constructor for each place where it may stop, and
`Handshake.course` says that there are no others. What is committed to are the bytes that came
(`encode_of_checked`), whatever the device has made of the proposal.
-/

namespace UsbVideo

/-! ### Writing down what is exchanged -/

/-- A use of a bus stack, with what came of it. -/
inductive Exchange where
  | write (setup : ControlSetup) (data : Bytes) (timeout : Nat)
    (outcome : Except TransportError Nat)
  | read (setup : ControlSetup) (length timeout : Nat) (outcome : Except TransportError Bytes)
  /-- Anything that is not a control transfer. -/
  | other
  deriving DecidableEq

/-- The error that a control transfer came to. -/
def Exchange.error? : Exchange → Option TransportError
  | write _ _ _ (.error e) | read _ _ _ (.error e) => some e
  | _ => none

/-- A bus stack, and what it was used for. -/
structure Tapped (σ : Type) where
  device : σ
  /-- The oldest first. -/
  exchanges : List Exchange := []

variable {σ : Type} [Transport σ]

/-- One more exchange, and what it made of the device. -/
def Tapped.add (t : Tapped σ) (device : σ) (exchange : Exchange) : Tapped σ :=
  ⟨device, t.exchanges ++ [exchange]⟩

instance : Transport (Tapped σ) where
  deviceId t := Transport.deviceId t.device
  deviceDescriptor t :=
    let (outcome, device) := Transport.deviceDescriptor t.device
    (outcome, t.add device .other)
  configurationDescriptor t :=
    let (outcome, device) := Transport.configurationDescriptor t.device
    (outcome, t.add device .other)
  controlIn setup length timeout t :=
    let (outcome, device) := Transport.controlIn setup length timeout t.device
    (outcome, t.add device (.read setup length timeout outcome))
  controlOut setup data timeout t :=
    let (outcome, device) := Transport.controlOut setup data timeout t.device
    (outcome, t.add device (.write setup data timeout outcome))
  setInterface interface alt t :=
    let (outcome, device) := Transport.setInterface interface alt t.device
    (outcome, t.add device .other)
  submit mailbox transfer t :=
    let (outcome, device) := Transport.submit mailbox transfer t.device
    (outcome, t.add device .other)
  cancel endpoint id t :=
    let (outcome, posts, device) := Transport.cancel endpoint id t.device
    (outcome, posts, t.add device .other)

/-! ### Answers -/

/-- An answer that may be committed to: it is long enough to name a format and a frame with all their
sizes, and it names those that were asked for. -/
structure ProbeBlock.Answered (request : ProbeBlock) (answer : Bytes) : Prop where
  long : minLength ≤ answer.length
  format : answer[2]? = some request.formatIndex
  frame : answer[3]? = some request.frameIndex

namespace ProbeBlock

theorem getElem?_of_decode {answer : Bytes} {block : ProbeBlock} (h : decode answer = some block) :
    answer[2]? = some block.formatIndex ∧ answer[3]? = some block.frameIndex := by
  obtain ⟨hlong, rfl⟩ := decode_eq_some_iff.mp h
  match answer, hlong with
  | _ :: _ :: format :: frame :: rest, _ =>
    have hbyte (b : UInt8) : UInt8.ofNat (b.toNat + 256 * 0) = b := UInt8.ofNat_toNat
    exact ⟨congrArg some (hbyte format).symm, congrArg some (hbyte frame).symm⟩

end ProbeBlock

variable {request : ProbeBlock} {answer : Bytes}

/-- Nothing else makes an answer acceptable, and it is read as it came. -/
theorem checkAnswer_ok_iff {block : ProbeBlock} :
    checkAnswer request answer = .ok block ↔
      request.Answered answer ∧ ProbeBlock.decode answer = some block := by
  unfold checkAnswer
  cases hdecode : ProbeBlock.decode answer with
  | none => simp
  | some read =>
    obtain ⟨hformat, hframe⟩ := ProbeBlock.getElem?_of_decode hdecode
    obtain ⟨hlong, -⟩ := ProbeBlock.decode_eq_some_iff.mp hdecode
    have hanswered : request.Answered answer ↔
        read.formatIndex = request.formatIndex ∧ read.frameIndex = request.frameIndex := by
      constructor
      · intro h
        exact ⟨Option.some.inj (hformat.symm.trans h.format),
          Option.some.inj (hframe.symm.trans h.frame)⟩
      · intro h
        exact ⟨hlong, h.1 ▸ hformat, h.2 ▸ hframe⟩
    rw [hanswered]
    dsimp only
    split
    · next hsame => simp [hsame]
    · next hother => simp [hother]

theorem checkAnswer_error {e : StreamError} (h : checkAnswer request answer = .error e) :
    ¬ request.Answered answer ∧ ∃ reason, e = .negotiationRejected reason := by
  constructor
  · intro hanswered
    obtain ⟨block, hdecode⟩ :=
      Option.isSome_iff_exists.mp (ProbeBlock.isSome_decode.mpr hanswered.long)
    rw [checkAnswer_ok_iff.mpr ⟨hanswered, hdecode⟩] at h
    cases h
  · unfold checkAnswer at h
    split at h
    · cases h
      exact ⟨_, rfl⟩
    · split at h <;> cases h
      exact ⟨_, rfl⟩

/-! ### The ways a handshake can go -/

/-- What a handshake is about. -/
structure Handshake where
  interface : UInt8
  uvcVersion : UInt16
  request : ProbeBlock
  timeout : Nat

namespace Handshake

variable (h : Handshake)

def run (device : σ) : Except StreamError ProbeBlock × σ :=
  negotiate h.interface h.uvcVersion h.request h.timeout device

/-- The length of every block of this handshake. -/
def length : Nat := ProbeBlock.lengthFor h.uvcVersion

def proposal (outcome : Except TransportError Nat) : Exchange :=
  .write (VideoControl.set VideoControl.probe h.interface) (h.request.encode h.length) h.timeout
    outcome

def reading (outcome : Except TransportError Bytes) : Exchange :=
  .read (VideoControl.get VideoControl.probe h.interface) h.length h.timeout outcome

/-- The bytes of the answer go back, with zeros for what is missing and without what is too much. -/
def commitment (answer : Bytes) (outcome : Except TransportError Nat) : Exchange :=
  .write (VideoControl.set VideoControl.commit h.interface) (answer.takeD h.length 0) h.timeout
    outcome

/-- What may be exchanged, and the result it gives. -/
inductive Course : List Exchange → Except StreamError ProbeBlock → Prop where
  | notProposed (e : TransportError) :
    Course [h.proposal (.error e)] (.error (HandshakeStep.setProbe.failure e))
  | notRead (taken : Nat) (e : TransportError) :
    Course [h.proposal (.ok taken), h.reading (.error e)]
      (.error (HandshakeStep.getProbe.failure e))
  | notAccepted (taken : Nat) {answer : Bytes} {e : StreamError}
    (hcheck : checkAnswer h.request answer = .error e) :
    Course [h.proposal (.ok taken), h.reading (.ok answer)] (.error e)
  | notCommitted (taken : Nat) {answer : Bytes} {block : ProbeBlock}
    (hcheck : checkAnswer h.request answer = .ok block) (e : TransportError) :
    Course [h.proposal (.ok taken), h.reading (.ok answer), h.commitment answer (.error e)]
      (.error (HandshakeStep.setCommit.failure e))
  | committed (taken : Nat) {answer : Bytes} {block : ProbeBlock}
    (hcheck : checkAnswer h.request answer = .ok block) (kept : Nat) :
    Course [h.proposal (.ok taken), h.reading (.ok answer), h.commitment answer (.ok kept)]
      (.ok block)

variable {h}

/-- The block that is written is the answer that was read. -/
theorem encode_of_checked {answer : Bytes} {block : ProbeBlock}
    (hcheck : checkAnswer h.request answer = .ok block) :
    block.encode h.length = answer.takeD h.length 0 := by
  obtain ⟨-, hdecode⟩ := checkAnswer_ok_iff.mp hcheck
  have hlength : h.length ≤ ProbeBlock.fullLength := ProbeBlock.lengthFor_le_fullLength _
  rw [ProbeBlock.encode_of_decode hdecode, Bytes.take_takeD hlength]

/-- A handshake on a tapped bus stack goes as it would on the one inside, in one of these ways. -/
theorem course (t : Tapped σ) :
    ∃ exchanges result device, h.run t = (result, ⟨device, t.exchanges ++ exchanges⟩) ∧
      h.run t.device = (result, device) ∧ h.Course exchanges result := by
  unfold run negotiate
  -- Each transfer comes to the same on both, so one case analysis serves the two runs.
  rcases hset : Transport.controlOut (VideoControl.set VideoControl.probe h.interface)
    (h.request.encode (ProbeBlock.lengthFor h.uvcVersion)) h.timeout t.device with ⟨e | taken, d⟩
  · refine ⟨_, _, d, ?_, ?_, .notProposed e⟩
    · simp only [Transport.controlOut, hset]
      rfl
    · simp only [hset]
  rcases hget : Transport.controlIn (VideoControl.get VideoControl.probe h.interface)
    (ProbeBlock.lengthFor h.uvcVersion) h.timeout d with ⟨e | answer, d'⟩
  · refine ⟨_, _, d', ?_, ?_, .notRead taken e⟩
    · simp only [Transport.controlOut, Transport.controlIn, Tapped.add, hset, hget, List.append_assoc]
      rfl
    · simp only [hset, hget]
  cases hcheck : checkAnswer h.request answer with
  | error e =>
    refine ⟨_, _, d', ?_, ?_, .notAccepted taken hcheck⟩
    · simp only [Transport.controlOut, Transport.controlIn, Tapped.add, hset, hget, hcheck,
        List.append_assoc]
      rfl
    · simp only [hset, hget, hcheck]
  | ok block =>
    -- What is sent now is known only as a block; the bytes of the answer are the same.
    have hblock : block.encode (ProbeBlock.lengthFor h.uvcVersion) = answer.takeD h.length 0 :=
      encode_of_checked hcheck
    rcases hcommit : Transport.controlOut (VideoControl.set VideoControl.commit h.interface)
      (answer.takeD h.length 0) h.timeout d' with ⟨e | kept, d''⟩
    · refine ⟨_, _, d'', ?_, ?_, .notCommitted taken hcheck e⟩
      · simp only [Transport.controlOut, Transport.controlIn, Tapped.add, hset, hget, hcheck, hblock,
          hcommit, List.append_assoc]
        rfl
      · simp only [hset, hget, hcheck, hblock, hcommit]
    · refine ⟨_, _, d'', ?_, ?_, .committed taken hcheck kept⟩
      · simp only [Transport.controlOut, Transport.controlIn, Tapped.add, hset, hget, hcheck, hblock,
          hcommit, List.append_assoc]
        rfl
      · simp only [hset, hget, hcheck, hblock, hcommit]

/-! ### What every course has in common -/

variable {exchanges : List Exchange} {result : Except StreamError ProbeBlock}

/-- What was exchanged, and the result of it, are those of a handshake that keeps to the rules. -/
structure Upheld (h : Handshake) (exchanges : List Exchange)
    (result : Except StreamError ProbeBlock) : Prop where
  /-- The block is proposed first. -/
  proposes : ∃ outcome, exchanges[0]? = some (h.proposal outcome)
  /-- A second exchange reads the answer to a proposal that was taken. -/
  reads : ∀ x, exchanges[1]? = some x →
    (∃ taken, exchanges[0]? = some (h.proposal (.ok taken))) ∧ ∃ outcome, x = h.reading outcome
  /-- A third one commits to an answer that may be committed to. -/
  commits : ∀ x, exchanges[2]? = some x → ∃ taken answer outcome,
    exchanges = [h.proposal (.ok taken), h.reading (.ok answer), h.commitment answer outcome] ∧
      x = h.commitment answer outcome ∧ h.request.Answered answer
  /-- There is no fourth one. -/
  stops : exchanges.length ≤ 3
  /-- It does not stop before it has to. -/
  goesOn : (∀ taken, exchanges[0]? = some (h.proposal (.ok taken)) →
      ∃ outcome, exchanges[1]? = some (h.reading outcome)) ∧
    ∀ answer, exchanges[1]? = some (h.reading (.ok answer)) → h.request.Answered answer →
      ∃ outcome, exchanges[2]? = some (h.commitment answer outcome)
  /-- It succeeds with the answer if the commit was taken. -/
  succeeds : ∀ block, result = .ok block ↔ ∃ taken answer kept,
    exchanges = [h.proposal (.ok taken), h.reading (.ok answer), h.commitment answer (.ok kept)] ∧
      ProbeBlock.decode answer = some block
  /-- An exchange that the device refused is a rejection, any other failure one of the transport. -/
  fails : ∀ x ∈ exchanges, ∀ e, x.error? = some e →
    (e = .stall ∨ e = .timeout → ∃ reason, result = .error (.negotiationRejected reason)) ∧
    (e ≠ .stall → e ≠ .timeout → result = .error (.transport e))
  /-- An answer that may not be committed to is a rejection. -/
  rejects : ∀ answer, exchanges[1]? = some (h.reading (.ok answer)) →
    ¬ h.request.Answered answer → ∃ reason, result = .error (.negotiationRejected reason)

/-- A stall and a timeout are refusals of the device, any other error is one of the transport. -/
theorem failure_of_error (step : HandshakeStep) {e e' : TransportError} (he : some e' = some e) :
    (e = .stall ∨ e = .timeout → ∃ reason,
      (.error (step.failure e') : Except StreamError ProbeBlock) =
        .error (.negotiationRejected reason)) ∧
    (e ≠ .stall → e ≠ .timeout →
      (.error (step.failure e') : Except StreamError ProbeBlock) = .error (.transport e)) := by
  cases he
  cases e <;> simp [HandshakeStep.failure]

theorem Course.commits (hcourse : h.Course exchanges result) {x : Exchange}
    (hx : exchanges[2]? = some x) : ∃ taken answer outcome,
      exchanges = [h.proposal (.ok taken), h.reading (.ok answer), h.commitment answer outcome] ∧
        x = h.commitment answer outcome ∧ h.request.Answered answer := by
  cases hcourse with
  | notProposed | notRead | notAccepted => cases hx
  | notCommitted taken hcheck | committed taken hcheck =>
    cases hx
    exact ⟨taken, _, _, rfl, rfl, (checkAnswer_ok_iff.mp hcheck).1⟩

theorem Course.goesOn (hcourse : h.Course exchanges result) {answer : Bytes}
    (hread : exchanges[1]? = some (h.reading (.ok answer))) (hanswered : h.request.Answered answer) :
    ∃ outcome, exchanges[2]? = some (h.commitment answer outcome) := by
  cases hcourse with
  | notProposed | notRead => cases hread
  | notAccepted taken hcheck =>
    cases hread
    exact absurd hanswered (checkAnswer_error hcheck).1
  | notCommitted | committed =>
    cases hread
    exact ⟨_, rfl⟩

theorem Course.succeeds (hcourse : h.Course exchanges result) (block : ProbeBlock) :
    result = .ok block ↔ ∃ taken answer kept,
      exchanges = [h.proposal (.ok taken), h.reading (.ok answer), h.commitment answer (.ok kept)] ∧
        ProbeBlock.decode answer = some block := by
  constructor
  · intro hresult
    cases hcourse with
    | notProposed | notRead | notAccepted | notCommitted => cases hresult
    | committed taken hcheck kept =>
      cases hresult
      exact ⟨taken, _, kept, rfl, (checkAnswer_ok_iff.mp hcheck).2⟩
  · rintro ⟨taken, answer, kept, hexchanges, hdecode⟩
    cases hcourse with
    | notProposed | notRead | notAccepted | notCommitted => cases hexchanges
    | committed taken' hcheck kept' =>
      cases hexchanges
      rw [(checkAnswer_ok_iff.mp hcheck).2] at hdecode
      cases hdecode
      rfl

theorem Course.fails (hcourse : h.Course exchanges result) {x : Exchange} (hx : x ∈ exchanges)
    {e : TransportError} (he : x.error? = some e) :
    (e = .stall ∨ e = .timeout → ∃ reason, result = .error (.negotiationRejected reason)) ∧
    (e ≠ .stall → e ≠ .timeout → result = .error (.transport e)) := by
  -- Only the last exchange can have failed.
  cases hcourse with
  | notProposed e' =>
    simp only [List.mem_singleton] at hx
    subst hx
    exact failure_of_error .setProbe he
  | notRead taken e' =>
    simp only [List.mem_cons, List.not_mem_nil, or_false] at hx
    rcases hx with rfl | rfl
    · cases he
    · exact failure_of_error .getProbe he
  | notAccepted =>
    simp only [List.mem_cons, List.not_mem_nil, or_false] at hx
    rcases hx with rfl | rfl <;> cases he
  | notCommitted taken hcheck e' =>
    simp only [List.mem_cons, List.not_mem_nil, or_false] at hx
    rcases hx with rfl | rfl | rfl
    · cases he
    · cases he
    · exact failure_of_error .setCommit he
  | committed =>
    simp only [List.mem_cons, List.not_mem_nil, or_false] at hx
    rcases hx with rfl | rfl | rfl <;> cases he

theorem Course.rejects (hcourse : h.Course exchanges result) {answer : Bytes}
    (hread : exchanges[1]? = some (h.reading (.ok answer)))
    (hanswered : ¬ h.request.Answered answer) :
    ∃ reason, result = .error (.negotiationRejected reason) := by
  cases hcourse with
  | notProposed | notRead => cases hread
  | notAccepted taken hcheck =>
    obtain ⟨-, reason, rfl⟩ := checkAnswer_error hcheck
    exact ⟨reason, rfl⟩
  | notCommitted taken hcheck | committed taken hcheck =>
    cases hread
    exact absurd (checkAnswer_ok_iff.mp hcheck).1 hanswered

theorem Course.upheld (hcourse : h.Course exchanges result) : h.Upheld exchanges result where
  proposes := by cases hcourse <;> exact ⟨_, rfl⟩
  reads := by
    intro x hx
    cases hcourse with
    | notProposed => cases hx
    | notRead taken | notAccepted taken | notCommitted taken | committed taken =>
      cases hx
      exact ⟨⟨taken, rfl⟩, _, rfl⟩
  commits x := hcourse.commits
  stops := by cases hcourse <;> simp
  goesOn := by
    refine ⟨?_, fun answer => hcourse.goesOn⟩
    intro taken htaken
    cases hcourse with
    | notProposed => cases htaken
    | notRead | notAccepted | notCommitted | committed => exact ⟨_, rfl⟩
  succeeds := hcourse.succeeds
  fails x hx e := hcourse.fails hx
  rejects answer := hcourse.rejects

/-- **A handshake commits to what the device answered, and only if it may.** A bus stack of any kind is
asked to take the proposal, for the answer, and, if the answer is long enough and of the format and the
frame that were asked for, to take that answer back, byte for byte. Writing down what is exchanged makes
no difference to any of it. -/
theorem commits_to_the_answer (h : Handshake) (device : σ) :
    ∃ exchanges result device',
      h.run (⟨device, []⟩ : Tapped σ) = (result, ⟨device', exchanges⟩) ∧
      h.run device = (result, device') ∧ h.Upheld exchanges result := by
  obtain ⟨exchanges, result, device', htapped, hrun, hcourse⟩ :=
    course (h := h) (⟨device, []⟩ : Tapped σ)
  exact ⟨exchanges, result, device', htapped, hrun, hcourse.upheld⟩

/-- An answer of 29 bytes to a proposal of 34, and the same answer where another frame was asked for. -/
theorem commits_to_the_answer_padded :
    let answer : Bytes := [1, 0, 2, 3] ++ List.replicate 25 0xFF
    let asking (frame : UInt8) : Handshake := ⟨1, 0x0110, .request 2 frame 333333, 1000⟩
    let device : ScriptedTransport := { readScript := [.ok answer], writeScript := [none, none] }
    (∃ block device' proposed read, ProbeBlock.decode answer = some block ∧
      (asking 3).run (⟨device, []⟩ : Tapped ScriptedTransport) =
        (.ok block, ⟨device', [proposed, read, .write (VideoControl.set VideoControl.commit 1)
          (answer ++ List.replicate 5 0) 1000 (.ok 34)]⟩)) ∧
    ∃ reason, ((asking 4).run device).1 = .error (.negotiationRejected reason) := by
  intro answer asking device
  constructor
  · obtain ⟨exchanges, result, device', htapped, -, hupheld⟩ := commits_to_the_answer (asking 3) device
    have hexchanges : ((asking 3).run (⟨device, []⟩ : Tapped ScriptedTransport)).2.exchanges =
        [(asking 3).proposal (.ok 34), (asking 3).reading (.ok answer),
          (asking 3).commitment answer (.ok 34)] := by decide +kernel
    have hlong : (ProbeBlock.decode answer).isSome = true := ProbeBlock.isSome_decode.mpr (by decide)
    obtain ⟨block, hdecode⟩ := Option.isSome_iff_exists.mp hlong
    rw [htapped] at hexchanges
    dsimp only at hexchanges
    have hresult : result = .ok block :=
      (hupheld.succeeds block).mpr ⟨34, answer, 34, hexchanges, hdecode⟩
    refine ⟨block, device', (asking 3).proposal (.ok 34), (asking 3).reading (.ok answer), hdecode, ?_⟩
    rw [htapped, hexchanges, hresult]
    rfl
  · obtain ⟨exchanges, result, device', htapped, hrun, hupheld⟩ :=
      commits_to_the_answer (asking 4) device
    have hread : ((asking 4).run (⟨device, []⟩ : Tapped ScriptedTransport)).2.exchanges[1]? =
        some ((asking 4).reading (.ok answer)) := by decide +kernel
    rw [htapped] at hread
    rw [hrun]
    refine hupheld.rejects answer hread ?_
    intro hanswered
    exact absurd hanswered.frame (by decide)

end Handshake

end UsbVideo
