import Mathlib.Data.List.Chain
import UsbVideo.Proofs.Reassembly.Packets
import UsbVideo.Size

/-!
# Where the bytes are

Every byte of data that comes with a sound payload ends up in one place:

    data ──▶ in progress ──▶ in a frame, or reported as lost
      │
      └────▶ skipped, with the rest of a frame that overflowed

`Accounts` says so of one operation, and of several in a row (`Accounts.append`). It needs to know what
the buffer looks like between payloads (`Tidy`), above all that it is empty while a frame is skipped. What
is skipped are the pieces between an overflow and the next end of a frame (`discarding_iff`).
-/

namespace UsbVideo

namespace Outcome

def isDropped (reason : DropReason) : Outcome → Bool
  | dropped r _ => r = reason
  | _ => false

/-- The bytes that a drop reports. -/
def lost : Outcome → Nat
  | dropped _ bytes | unfinished bytes => bytes
  | _ => 0

end Outcome

namespace Reassembler

/-! ### Numbers -/

/-- The frames that come of it are numbered on, and nothing is evicted. -/
structure Numbers (r : Reassembler) (result : List Outcome × Reassembler) : Prop where
  frames : (Outcome.frames result.1).map (·.sequence) =
    List.range' (r.sequence + 1) (Outcome.frames result.1).length
  sequence : result.2.sequence = r.sequence + (Outcome.frames result.1).length
  evicts : ∀ o ∈ result.1, o.isDropped .backpressure = false

namespace Numbers

variable {r r' : Reassembler}

theorem nothing (same : r'.sequence = r.sequence) : r.Numbers ([], r') :=
  ⟨rfl, same, nofun⟩

theorem frame {frame : CompletedFrame} (number : frame.sequence = r.sequence + 1)
    (next : r'.sequence = r.sequence + 1) : r.Numbers ([.frame frame], r') := by
  refine ⟨?_, next, ?_⟩
  · simp [Outcome.frames, Outcome.frame?, number]
  · simp [Outcome.isDropped]

theorem other {o : Outcome} (same : r'.sequence = r.sequence) (frame : o.frame? = none)
    (evicts : o.isDropped .backpressure = false) : r.Numbers ([o], r') := by
  refine ⟨?_, ?_, ?_⟩
  · simp [Outcome.frames, frame]
  · simpa [Outcome.frames, frame] using same
  · simpa using evicts

theorem append {first : List Outcome × Reassembler} {later : List Outcome × Reassembler}
    (h : r.Numbers first) (h' : first.2.Numbers later) : r.Numbers (first.1 ++ later.1, later.2) := by
  refine ⟨?_, ?_, fun o ho => ?_⟩
  · rw [Outcome.frames_append, List.map_append, h.frames, h'.frames, h.sequence, List.length_append,
      List.range'_append_1.symm, Nat.add_right_comm]
  · rw [h'.sequence, h.sequence, Outcome.frames_append, List.length_append, Nat.add_assoc]
  · exact (List.mem_append.mp ho).elim (h.evicts o) (h'.evicts o)

end Numbers

theorem stepwise_numbers : Stepwise Numbers where
  stay _ := .nothing rfl
  append := .append
  headerError _ _ := .other rfl rfl rfl
  payloadError _ := .other rfl rfl rfl
  crossBoundary r := by
    rcases r.crossBoundary_cases with ⟨-, h⟩ | ⟨-, -, h⟩ | ⟨-, -, h⟩
    · exact h ▸ .nothing rfl
    · exact h ▸ .frame rfl rfl
    · exact h ▸ .other rfl rfl rfl
  taken r p := by
    unfold taken
    rcases accept_cases { r with toggle := some p.header.frameId } p.header.pts p.data with
      ⟨-, h⟩ | ⟨-, -, -, h⟩ | ⟨-, -, -, h⟩
    · exact h ▸ .nothing rfl
    · exact h ▸ .other rfl rfl rfl
    · exact h ▸ .nothing rfl
  endFrame r := by
    rcases r.endFrame_cases with ⟨-, h⟩ | ⟨-, -, h⟩ | ⟨-, -, h⟩
    · exact h ▸ .nothing rfl
    · exact h ▸ .nothing rfl
    · exact h ▸ .frame rfl rfl

/-- The frames of a payload are numbered on. -/
theorem numbers_push (r : Reassembler) (payload : Bytes) : r.Numbers (r.push payload) :=
  stepwise_numbers.push r payload

theorem numbers_pushAll (r : Reassembler) (payloads : List Bytes) :
    r.Numbers (r.pushAll payloads) :=
  stepwise_numbers.pushAll r payloads

/-! ### Bytes -/

theorem exceeds_eq_false_iff {layout : FrameLayout} {size : Nat} :
    exceeds layout size = false ↔ ∀ max ∈ layout.maxFrameSize, size ≤ max := by
  unfold exceeds
  cases layout.maxFrameSize <;> simp

/-- The buffer between payloads: no larger than a frame may be, empty while a frame is skipped, and
without a presentation time while it is empty. -/
structure Tidy (r : Reassembler) : Prop where
  fits : exceeds r.layout r.buffer.size = false
  skipping : r.discarding = true → r.buffer = #[]
  untimed : r.buffer = #[] → r.pts = none

/-- With `n` bytes of data taken in, none is lost sight of. The frames that come out are not empty and
not too large. -/
structure Accounts (r : Reassembler) (n : Nat) (result : List Outcome × Reassembler) : Prop where
  layout_eq : result.2.layout = r.layout
  tidy : result.2.Tidy
  frames : ∀ f ∈ Outcome.frames result.1, f.data ≠ [] ∧ exceeds r.layout f.data.length = false
  bytes : r.inProgress + n = total ((Outcome.frames result.1).map (·.data.length)) +
    total (result.1.map Outcome.lost) + result.2.inProgress

namespace Accounts

variable {r r' : Reassembler} {n m : Nat}

theorem nothing (layout : r'.layout = r.layout) (tidy : r'.Tidy)
    (bytes : r.inProgress + n = r'.inProgress) : r.Accounts n ([], r') := by
  refine ⟨layout, tidy, nofun, ?_⟩
  simpa [total] using bytes

/-- A frame takes all there is. -/
theorem frame (h : r.Tidy) (hbuffer : r.buffer ≠ #[]) (layout : r'.layout = r.layout)
    (tidy : r'.Tidy) (hempty : r'.buffer = #[]) : r.Accounts 0 ([.frame r.currentFrame], r') := by
  have hdata : r.currentFrame.data = r.buffer.toList := rfl
  refine ⟨layout, tidy, ?_, ?_⟩
  · intro f hf
    obtain rfl : f = r.currentFrame := by simpa [Outcome.frames, Outcome.frame?] using hf
    rw [hdata, Array.length_toList]
    exact ⟨fun hnil => hbuffer (Array.toList_eq_nil_iff.mp hnil), h.fits⟩
  · simp [Outcome.frames, Outcome.frame?, Outcome.lost, total, inProgress, hempty, hdata]

/-- What is dropped, with the data that came last, is reported. -/
theorem lost {o : Outcome} (hframe : o.frame? = none) (hlost : o.lost = r.inProgress + n)
    (layout : r'.layout = r.layout) (tidy : r'.Tidy) (hempty : r'.buffer = #[]) :
    r.Accounts n ([o], r') := by
  refine ⟨layout, tidy, ?_, ?_⟩
  · simp [Outcome.frames, hframe]
  · have hgone : r'.inProgress = 0 := by
      rw [inProgress, hempty]
      rfl
    simp [Outcome.frames, hframe, hlost, total, hgone]

theorem append {first later : List Outcome × Reassembler} (h : r.Accounts n first)
    (h' : first.2.Accounts m later) : r.Accounts (n + m) (first.1 ++ later.1, later.2) := by
  refine ⟨h'.layout_eq.trans h.layout_eq, h'.tidy, ?_, ?_⟩
  · intro f hf
    rw [Outcome.frames_append, List.mem_append] at hf
    rcases hf with hf | hf
    · exact h.frames f hf
    · rw [← h.layout_eq]
      exact h'.frames f hf
  · have hfirst := h.bytes
    have hlater := h'.bytes
    rw [Outcome.frames_append, List.map_append, List.map_append, total_append, total_append]
    dsimp only
    omega

end Accounts

variable {r : Reassembler}

/-- Where no data is in progress, nothing is too large. -/
theorem tidy_of_empty (hbuffer : r.buffer = #[]) (hpts : r.pts = none) : r.Tidy := by
  refine ⟨exceeds_eq_false_iff.mpr fun max _ => ?_, fun _ => hbuffer, fun _ => hpts⟩
  rw [hbuffer]
  exact Nat.zero_le max

theorem Tidy.crossBoundary (h : r.Tidy) : r.Accounts 0 r.crossBoundary := by
  rcases r.crossBoundary_cases with ⟨hbuffer, hcross⟩ | ⟨hbuffer, -, hcross⟩ | ⟨-, -, hcross⟩
  · rw [hcross]
    exact .nothing rfl (tidy_of_empty hbuffer (h.untimed hbuffer)) rfl
  · rw [hcross]
    exact .frame h hbuffer rfl (tidy_of_empty rfl rfl) rfl
  · rw [hcross]
    exact .lost rfl rfl rfl (tidy_of_empty rfl rfl) rfl

/-- Data is taken in unless a frame is skipped. -/
theorem Tidy.accept (h : r.Tidy) (pts : Option UInt32) (data : Bytes) :
    r.Accounts (if r.discarding then 0 else data.length) (r.accept pts data) := by
  rcases r.accept_cases pts data with ⟨hskip, haccept⟩ | ⟨-, hdiscarding, -, haccept⟩ |
    ⟨hdata, hdiscarding, hfits, haccept⟩
  · rw [haccept]
    refine .nothing rfl h ?_
    rcases hskip with hnil | hdiscarding
    · simp [hnil]
    · simp [hdiscarding]
  · rw [haccept, hdiscarding, if_neg Bool.false_ne_true]
    exact .lost rfl rfl rfl (tidy_of_empty rfl rfl) rfl
  · rw [haccept, hdiscarding, if_neg Bool.false_ne_true]
    have hlist : (r.buffer ++ data).toList = r.buffer.toList ++ data := by simp
    have hsize : (r.buffer ++ data).size = r.buffer.size + data.length := by
      rw [← Array.length_toList, hlist, List.length_append, Array.length_toList]
    refine .nothing rfl ⟨?_, fun hskipping => ?_, fun hempty => ?_⟩ hsize.symm
    · rw [← hsize] at hfits
      exact hfits
    · exact absurd hskipping Bool.false_ne_true
    · have hnil : r.buffer.toList ++ data = [] := by
        rw [← hlist]
        exact Array.toList_eq_nil_iff.mpr hempty
      exact absurd (List.append_eq_nil_iff.mp hnil).2 hdata

theorem Tidy.endFrame (h : r.Tidy) : r.Accounts 0 r.endFrame := by
  rcases r.endFrame_cases with ⟨hdiscarding, hend⟩ | ⟨-, -, hend⟩ | ⟨-, hbuffer, hend⟩
  · have hbuffer := h.skipping hdiscarding
    rw [hend]
    exact .nothing rfl (tidy_of_empty hbuffer (h.untimed hbuffer)) rfl
  · rw [hend]
    exact .nothing rfl h rfl
  · rw [hend]
    exact .frame h hbuffer rfl (tidy_of_empty rfl rfl) rfl

/-! ### Pieces that are skipped -/

/-- The piece is sound and belongs to a frame that is being skipped. -/
def skips (r : Reassembler) (p : Piece) : Bool :=
  !p.header.error && r.discarding && r.toggle != some !p.header.frameId

/-- The data of the pieces that are skipped. -/
def skippedBytes (r : Reassembler) : List Piece → Nat
  | [] => 0
  | p :: ps => (if r.skips p then p.data.length else 0) + (r.feed p).2.skippedBytes ps

variable {p : Piece}

/-- A flip of the frame id ends the skipping, too. -/
theorem discarding_bounded (hclean : p.header.error = false) (r : Reassembler) :
    (r.bounded p).2.discarding = r.skips p := by
  unfold bounded
  split
  · next hflip =>
    rcases r.crossBoundary_cases with ⟨-, h⟩ | ⟨-, -, h⟩ | ⟨-, -, h⟩ <;> simp [h, skips, hflip]
  · next hstay => simp [skips, hclean, hstay]

theorem Tidy.bounded (h : r.Tidy) (p : Piece) : r.Accounts 0 (r.bounded p) := by
  unfold Reassembler.bounded
  split
  · exact h.crossBoundary
  · exact .nothing rfl h rfl

theorem Tidy.taken (h : r.Tidy) (p : Piece) :
    r.Accounts (if r.discarding then 0 else p.data.length) (r.taken p) := by
  -- The frame id is of no account here.
  have hmarked : { r with toggle := some p.header.frameId }.Tidy := ⟨h.fits, h.skipping, h.untimed⟩
  obtain ⟨hlayout, htidy, hframes, hbytes⟩ := hmarked.accept p.header.pts p.data
  exact ⟨hlayout, htidy, hframes, hbytes⟩

theorem Tidy.closed (h : r.Tidy) (p : Piece) : r.Accounts 0 (r.closed p) := by
  unfold Reassembler.closed
  split
  · exact h.endFrame
  · exact .nothing rfl h rfl

/-- The data of a sound piece is taken in or skipped, that of a piece in error is neither. -/
theorem Tidy.feed (h : r.Tidy) (p : Piece) :
    r.Accounts (if p.header.error || r.skips p then 0 else p.data.length) (r.feed p) := by
  cases herror : p.header.error with
  | true =>
    rw [feed_error herror]
    exact .lost rfl rfl rfl (tidy_of_empty rfl rfl) rfl
  | false =>
    have hbounded := h.bounded p
    have htaken := hbounded.tidy.taken p
    have hclosed := htaken.tidy.closed p
    rw [discarding_bounded herror] at htaken
    have hall := (hbounded.append htaken).append hclosed
    rw [Nat.zero_add, Nat.add_zero] at hall
    rw [feed_clean herror, Bool.false_or]
    exact hall

/-- All data of sound pieces is taken in or skipped. -/
theorem Tidy.feedAll (pieces : List Piece) (h : r.Tidy) :
    ∃ n, r.Accounts n (r.feedAll pieces) ∧
      n + r.skippedBytes pieces = (Piece.joined (pieces.filter (!·.header.error))).length := by
  induction pieces generalizing r with
  | nil => exact ⟨0, .nothing rfl h rfl, rfl⟩
  | cons p ps ih =>
    have hfirst := h.feed p
    obtain ⟨n, hlater, hbytes⟩ := ih hfirst.tidy
    refine ⟨_, hfirst.append hlater, ?_⟩
    rw [skippedBytes, List.filter_cons]
    cases herror : p.header.error with
    | true => simpa [skips, herror] using hbytes
    | false =>
      cases hskips : r.skips p <;>
        simp [Piece.joined, List.flatMap_cons] at hbytes ⊢ <;> omega

theorem lost_filter (outcomes : List Outcome) :
    total ((outcomes.filter (·.headerError?.isNone)).map Outcome.lost) =
      total (outcomes.map Outcome.lost) := by
  induction outcomes with
  | nil => rfl
  | cons o os ih =>
    cases o <;> simpa [Outcome.headerError?, Outcome.lost, total] using ih

/-- Payloads that are no pieces have nothing to account for. -/
theorem Accounts.pushAll {n : Nat} {payloads : List Bytes}
    (h : r.Accounts n (r.feedAll (payloads.filterMap Piece.of?))) :
    r.Accounts n (r.pushAll payloads) := by
  obtain ⟨hsame, hfilter⟩ := r.pushAll_feedAll payloads
  refine ⟨?_, ?_, ?_, ?_⟩
  · rw [hsame]
    exact h.layout_eq
  · rw [hsame]
    exact h.tidy
  · rw [frames_pushAll]
    exact h.frames
  · rw [frames_pushAll, ← lost_filter, hfilter, hsame]
    exact h.bytes

theorem Tidy.pushAll (h : r.Tidy) (payloads : List Bytes) : (r.pushAll payloads).2.Tidy := by
  obtain ⟨n, haccounts, -⟩ := h.feedAll (payloads.filterMap Piece.of?)
  exact haccounts.pushAll.tidy

/-! ### When pieces are skipped -/

/-- The bytes that the data of a piece is added to. A frame id that flips leaves none. -/
def carried (r : Reassembler) (p : Piece) : Nat :=
  if r.toggle = some !p.header.frameId then 0 else r.inProgress

theorem inProgress_bounded (r : Reassembler) (p : Piece) : (r.bounded p).2.inProgress = r.carried p := by
  unfold bounded carried
  split
  · rcases r.crossBoundary_cases with ⟨hempty, h⟩ | ⟨-, -, h⟩ | ⟨-, -, h⟩
    · rw [h, inProgress, hempty]
      rfl
    · rw [h]
      rfl
    · rw [h]
      rfl
  · rfl

theorem overflows_bounded (r : Reassembler) (p : Piece) :
    (r.bounded p).1.any Outcome.isOverflow = false := by
  unfold bounded
  split
  · rcases r.crossBoundary_cases with ⟨-, h⟩ | ⟨-, -, h⟩ | ⟨-, -, h⟩ <;> rw [h] <;> rfl
  · rfl

theorem overflows_closed (r : Reassembler) (p : Piece) :
    (r.closed p).1.any Outcome.isOverflow = false := by
  unfold closed
  split
  · rcases r.endFrame_cases with ⟨-, h⟩ | ⟨-, -, h⟩ | ⟨-, -, h⟩ <;> rw [h] <;> rfl
  · rfl

/-- Data makes a frame overflow if it is not skipped and there is too much of it. -/
theorem overflows_taken (h : r.Tidy) (p : Piece) :
    (r.taken p).1.any Outcome.isOverflow = true ↔
      r.discarding = false ∧ exceeds r.layout (r.inProgress + p.data.length) = true := by
  unfold taken
  rcases accept_cases { r with toggle := some p.header.frameId } p.header.pts p.data with
    ⟨hskip, haccept⟩ | ⟨-, hdiscarding, hexceeds, haccept⟩ | ⟨-, -, hfits, haccept⟩
  · rw [haccept]
    refine iff_of_false nofun ?_
    rintro ⟨hdiscarding, hexceeds⟩
    rcases hskip with hnil | hskip
    · -- What is in progress was not too large before.
      rw [hnil] at hexceeds
      exact nomatch hexceeds.symm.trans h.fits
    · exact nomatch hskip.symm.trans hdiscarding
  · rw [haccept]
    exact iff_of_true rfl ⟨hdiscarding, hexceeds⟩
  · rw [haccept]
    refine iff_of_false nofun ?_
    rintro ⟨-, hexceeds⟩
    exact nomatch hexceeds.symm.trans hfits

/-- A sound piece that is not skipped makes its frame overflow if its data and what is in progress are more
than a frame may have. Nothing else does. -/
theorem overflows_feed (h : r.Tidy) (p : Piece) :
    (r.feed p).1.any Outcome.isOverflow = true ↔
      p.header.error = false ∧ r.skips p = false ∧
        ∃ max ∈ r.layout.maxFrameSize, max < r.carried p + p.data.length := by
  cases herror : p.header.error with
  | true =>
    rw [feed_error herror]
    exact iff_of_false nofun (nomatch ·.1)
  | false =>
    have hbounded := h.bounded p
    have hexceeds (size : Nat) :
        exceeds r.layout size = true ↔ ∃ max ∈ r.layout.maxFrameSize, max < size := by
      rw [← Bool.not_eq_false, exceeds_eq_false_iff]
      simp
    rw [feed_clean herror, List.any_append, List.any_append, overflows_bounded, overflows_closed,
      Bool.false_or, Bool.or_false, overflows_taken hbounded.tidy, discarding_bounded herror,
      hbounded.layout_eq, inProgress_bounded, hexceeds]
    simp

theorem discarding_taken (r : Reassembler) (p : Piece) :
    (r.taken p).2.discarding = ((r.taken p).1.any Outcome.isOverflow || r.discarding) := by
  unfold taken
  rcases accept_cases { r with toggle := some p.header.frameId } p.header.pts p.data with
    ⟨-, h⟩ | ⟨-, -, -, h⟩ | ⟨-, -, -, h⟩ <;> rw [h] <;> rfl

theorem discarding_closed (r : Reassembler) (p : Piece) :
    (r.closed p).2.discarding = (!p.header.endOfFrame && r.discarding) := by
  unfold closed
  split
  · next hend =>
    rcases r.endFrame_cases with ⟨-, h⟩ | ⟨hdiscarding, -, h⟩ | ⟨hdiscarding, -, h⟩
    · simp [h, hend]
    · simp [h, hdiscarding]
    · simp [h, hdiscarding, finish]
  · next hinner => simp [hinner]

/-- Behind a sound piece a frame is skipped if the piece made it overflow or belongs to one that is
skipped, and does not end it. -/
theorem discarding_feed (hclean : p.header.error = false) (r : Reassembler) :
    (r.feed p).2.discarding =
      (!p.header.endOfFrame && ((r.feed p).1.any Outcome.isOverflow || r.skips p)) := by
  rw [feed_clean hclean, discarding_closed, discarding_taken, discarding_bounded hclean,
    List.any_append, List.any_append, overflows_bounded, overflows_closed, Bool.false_or,
    Bool.or_false]

theorem toggle_feed (r : Reassembler) (p : Piece) :
    (r.feed p).2.toggle = if p.header.error then none else some p.header.frameId := by
  cases herror : p.header.error with
  | true =>
    rw [feed_error herror]
    rfl
  | false =>
    have hclosed (r : Reassembler) : (r.closed p).2.toggle = r.toggle := by
      unfold closed
      split
      · rcases r.endFrame_cases with ⟨-, h⟩ | ⟨-, -, h⟩ | ⟨-, -, h⟩
        · rw [h]
        · rw [h]
        · rw [h, finish]
      · rfl
    rw [feed_clean herror, hclosed, toggle_taken]
    rfl

end Reassembler

/-- No frame id flips from `p` to `q`; there is none to flip behind an error or with one. -/
def Piece.Continues (p q : Piece) : Prop :=
  p.header.error = false → q.header.error = false → q.header.frameId = p.header.frameId

namespace Reassembler

/-- One of the pieces made its frame overflow, and since then no frame ended, neither flagged as ended
nor by a flip of the frame id. -/
def Overflowing (layout : FrameLayout) (pieces : List Piece) : Prop :=
  ∃ before p since, pieces = before ++ p :: since ∧
    (((new layout).feedAll before).2.feed p).1.any Outcome.isOverflow = true ∧
    (p :: since).IsChain Piece.Continues ∧
    ∀ q ∈ p :: since, q.header.error = false → q.header.endOfFrame = false

variable {layout : FrameLayout} {past : List Piece} {p : Piece}

/-- One more piece: it makes its frame overflow, or that of the pieces before goes on with it. -/
theorem overflowing_concat :
    Overflowing layout (past ++ [p]) ↔
      (p.header.error = false → p.header.endOfFrame = false) ∧
        ((((new layout).feedAll past).2.feed p).1.any Outcome.isOverflow = true ∨
          Overflowing layout past ∧ ∀ q ∈ past.getLast?, q.Continues p) := by
  constructor
  · rintro ⟨before, q, since, hsplit, hover, hchain, hopen⟩
    rcases List.eq_nil_or_concat' since with rfl | ⟨since, p', rfl⟩
    · obtain ⟨rfl, hq⟩ := List.append_inj' hsplit rfl
      cases hq
      exact ⟨hopen p List.mem_cons_self, .inl hover⟩
    · rw [← List.cons_append, ← List.append_assoc] at hsplit
      obtain ⟨rfl, hp⟩ := List.append_inj' hsplit rfl
      cases hp
      rw [← List.cons_append] at hchain hopen
      obtain ⟨hchain, -, hlast⟩ := List.isChain_append.mp hchain
      refine ⟨hopen p (by simp), .inr ⟨⟨before, q, since, rfl, hover, hchain, ?_⟩, ?_⟩⟩
      · exact fun q' hq' => hopen q' (List.mem_append_left _ hq')
      · intro q' hq'
        rw [List.getLast?_append_of_ne_nil _ (List.cons_ne_nil q since)] at hq'
        exact hlast q' hq' p rfl
  · rintro ⟨hp, hover | ⟨⟨before, q, since, rfl, hover, hchain, hopen⟩, hlast⟩⟩
    · refine ⟨past, p, [], rfl, hover, .singleton p, fun q hq => ?_⟩
      rw [List.mem_singleton.mp hq]
      exact hp
    · refine ⟨before, q, since ++ [p], by simp, hover, ?_, ?_⟩
      · rw [← List.cons_append]
        refine List.isChain_append.mpr ⟨hchain, .singleton p, fun q' hq' p' hp' => ?_⟩
        rw [← List.getLast?_append_of_ne_nil before (List.cons_ne_nil q since)] at hq'
        obtain rfl : p = p' := by simpa using hp'
        exact hlast q' hq'
      · rw [← List.cons_append]
        intro q' hq'
        rcases List.mem_append.mp hq' with hq' | hq'
        · exact hopen q' hq'
        · rw [List.mem_singleton.mp hq']
          exact hp

/-- A frame is skipped from the piece that made it overflow up to the one that ends it. The induction
is on the pieces from the last one on, whose frame id is the one that is kept. -/
theorem discarding_iff (layout : FrameLayout) (pieces : List Piece) :
    ((new layout).feedAll pieces).2.discarding = true ↔ Overflowing layout pieces := by
  induction pieces using List.reverseRecOn with
  | nil =>
    refine ⟨nofun, ?_⟩
    rintro ⟨before, p, since, hsplit, -⟩
    simp at hsplit
  | append_singleton past p ih =>
    have hfed : ((new layout).feedAll (past ++ [p])).2 = (((new layout).feedAll past).2.feed p).2 := by
      rw [feedAll_append]
      rfl
    rw [hfed, overflowing_concat, ← ih]
    cases herror : p.header.error with
    | true =>
      rw [feed_error herror]
      simp [Outcome.isOverflow, discard, Piece.Continues, herror]
    | false =>
      have hsame : ((new layout).feedAll past).2.toggle ≠ some !p.header.frameId ↔
          ∀ q ∈ past.getLast?, q.Continues p := by
        rcases List.eq_nil_or_concat' past with rfl | ⟨past, q, rfl⟩
        · simp [new]
        · rw [feedAll_append]
          show (((new layout).feedAll past).2.feed q).2.toggle ≠ _ ↔ _
          rw [toggle_feed]
          cases hq : q.header.error with
          | true => simp [Piece.Continues, hq]
          | false =>
            have hstays : some q.header.frameId ≠ some (!p.header.frameId) ↔
                p.header.frameId = q.header.frameId := by
              cases p.header.frameId <;> cases q.header.frameId <;> decide
            rw [if_neg Bool.false_ne_true, hstays]
            simp [Piece.Continues, hq, herror]
      rw [discarding_feed herror, ← hsame]
      simp [skips, herror]

end Reassembler

/-- **Every byte is in one place.** Push any payloads into a new reassembler. What is in progress is never
more than a frame may have, it is nothing while a frame that overflowed is skipped, and it has a
presentation time only while it is something. A frame overflows with the piece whose data is too much for
it. The frames that come out have data, no more than a frame may have, and are numbered from 1 on. The data
of all sound pieces is in these frames, reported as lost, in progress, or was skipped. -/
theorem Reassembler.bytes_accounted (layout : FrameLayout) (payloads : List Bytes) :
    let pieces := payloads.filterMap Piece.of?
    let outcomes := ((Reassembler.new layout).pushAll payloads).1
    let r := ((Reassembler.new layout).pushAll payloads).2
    (∀ max ∈ layout.maxFrameSize, r.inProgress ≤ max) ∧
    (r.discarding = true ↔ Overflowing layout pieces) ∧
    (∀ before p,
      let r := ((Reassembler.new layout).feedAll before).2
      ((r.feed p).1.any Outcome.isOverflow = true ↔ p.header.error = false ∧ r.skips p = false ∧
        ∃ max ∈ layout.maxFrameSize, max < r.carried p + p.data.length)) ∧
    (r.discarding = true → r.inProgress = 0) ∧
    (r.inProgress = 0 → r.pts = none) ∧
    (∀ f ∈ Outcome.frames outcomes,
      f.data ≠ [] ∧ ∀ max ∈ layout.maxFrameSize, f.data.length ≤ max) ∧
    (Outcome.frames outcomes).map (·.sequence) = List.range' 1 r.sequence ∧
    (Piece.joined (pieces.filter (!·.header.error))).length =
      total ((Outcome.frames outcomes).map (·.data.length)) + total (outcomes.map Outcome.lost) +
        r.inProgress + (Reassembler.new layout).skippedBytes pieces := by
  intro pieces outcomes r
  have hnew : (Reassembler.new layout).Tidy := tidy_of_empty rfl rfl
  obtain ⟨n, haccounts, htaken⟩ := hnew.feedAll pieces
  obtain ⟨hlayout, htidy, hframes, hbytes⟩ := haccounts.pushAll
  have hnumbers := (Reassembler.new layout).numbers_pushAll payloads
  have hskipping := (Reassembler.new layout).pushAll_feedAll payloads
  refine ⟨?_, ?_, fun before p => ?_, ?_, ?_, ?_, ?_, ?_⟩
  · have hfits := htidy.fits
    rw [hlayout] at hfits
    exact exceeds_eq_false_iff.mp hfits
  · rw [← discarding_iff, ← hskipping.1]
  · obtain ⟨_, hbefore, -⟩ := hnew.feedAll before
    have hover := overflows_feed hbefore.tidy p
    rwa [hbefore.layout_eq] at hover
  · intro hdiscarding
    rw [inProgress, htidy.skipping hdiscarding]
    rfl
  · exact fun hempty => htidy.untimed (Array.size_eq_zero_iff.mp hempty)
  · intro f hf
    obtain ⟨hdata, hfits⟩ := hframes f hf
    exact ⟨hdata, exceeds_eq_false_iff.mp hfits⟩
  · have hcount : r.sequence = (Outcome.frames outcomes).length := by
      rw [hnumbers.sequence]
      exact Nat.zero_add _
    rw [hnumbers.frames, hcount]
    rfl
  · have hnone : (Reassembler.new layout).inProgress = 0 := rfl
    rw [← htaken, ← hbytes, hnone, Nat.zero_add]

end UsbVideo
