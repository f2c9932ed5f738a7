import UsbVideo.Payload

/-!
# The payload header as a codec

    header ──encode──▶ bytes ++ data ──parse──▶ the header as it is read back, and the data
    payload ──parse──▶ header ──encode──▶ its first bytes, in the one form they are written in

A header that is written is read back as it is, but for the eleven bits of the frame counter
(`parse_encode`). A payload is accepted if its declared length lies between what its flags announce and
what there is (`exists_parse_iff`), and then every byte that is read is there (`parseByIndex_eq`). The
header that was read is written as the bytes it was read from, but for the bits that a header does not
keep (`encode_of_parse`).
-/

namespace UsbVideo

namespace Header

/-! ### Flags -/

/-- The flag without a meaning. -/
def reservedFlag : UInt8 := 0x10

/-- What holds of the first 256 numbers holds of all bytes. -/
theorem forall_byte {P : UInt8 → Prop} (h : ∀ n < 256, P (.ofNat n)) (b : UInt8) : P b := by
  have hb := h b.toNat b.toNat_lt
  rwa [UInt8.ofNat_toNat] at hb

/-- The flags that are written are the ones that are read. -/
theorem has_flags (h : Header) :
    has h.flags frameIdFlag = h.frameId ∧ has h.flags endOfFrameFlag = h.endOfFrame ∧
    has h.flags stillImageFlag = h.stillImage ∧ has h.flags errorFlag = h.error ∧
    has h.flags endOfHeaderFlag = true ∧ has h.flags ptsFlag = h.pts.isSome ∧
    has h.flags clockFlag = h.clock.isSome := by
  unfold flags
  generalize h.frameId = frameId, h.endOfFrame = endOfFrame, h.stillImage = stillImage,
    h.error = error, h.pts.isSome = pts, h.clock.isSome = clock
  revert frameId endOfFrame stillImage error pts clock
  decide

/-- The flags that are read are written again. The end of the header is always marked, and the flag
without a meaning never is. -/
theorem flags_readFields (length : Nat) (flags : UInt8) (fields : Bytes) :
    (readFields length flags fields).flags = (flags ||| endOfHeaderFlag) &&& ~~~reservedFlag := by
  have hpts : (readFields length flags fields).pts.isSome = has flags ptsFlag := by
    cases hhas : has flags ptsFlag <;> simp [readFields, hhas]
  have hclock : (readFields length flags fields).clock.isSome = has flags clockFlag := by
    cases hhas : has flags clockFlag <;> simp [readFields, hhas]
  have hbyte : ∀ b : UInt8, endOfHeaderFlag ||| (if has b frameIdFlag then frameIdFlag else 0)
      ||| (if has b endOfFrameFlag then endOfFrameFlag else 0)
      ||| (if has b stillImageFlag then stillImageFlag else 0)
      ||| (if has b errorFlag then errorFlag else 0) ||| (if has b ptsFlag then ptsFlag else 0)
      ||| (if has b clockFlag then clockFlag else 0) =
        (b ||| endOfHeaderFlag) &&& ~~~reservedFlag := forall_byte (by decide +kernel)
  unfold Header.flags
  rw [hpts, hclock]
  exact hbyte flags

/-! ### Fields -/

theorem and_frameCounterMask (counter : UInt16) : counter &&& frameCounterMask = counter % 2048 := by
  apply UInt16.toNat_inj.mp
  rw [UInt16.toNat_and, UInt16.toNat_mod]
  exact Nat.and_two_pow_sub_one_eq_mod counter.toNat 11

/-- The flags announce the fields that there are. -/
theorem requiredLength_flags (h : Header) :
    requiredLength h.flags = minLength + h.fields.length := by
  obtain ⟨-, -, -, -, -, hpts, hclock⟩ := h.has_flags
  rw [requiredLength, hpts, hclock, fields]
  cases h.pts <;> cases h.clock <;> simp

theorem length_encode (h : Header) : h.encode.length = minLength + h.fields.length := by
  simp only [encode, List.length_cons, minLength]
  omega

theorem length_encode_le (h : Header) : h.encode.length ≤ 12 := by
  rw [length_encode, fields]
  cases h.pts <;> cases h.clock <;> simp [minLength]

/-! ### What is read -/

/-- A payload has a header if its declared length holds what the flags announce and is there. -/
theorem parse_eq_ok_iff {payload : Bytes} {h : Header} :
    parse payload = .ok h ↔ ∃ declared flags fields, payload = declared :: flags :: fields ∧
      requiredLength flags ≤ declared.toNat ∧ declared.toNat ≤ payload.length ∧
      readFields declared.toNat flags fields = h := by
  match payload with
  | [] | [_] => simp [parse]
  | declared :: flags :: fields =>
    have hparse : parse (declared :: flags :: fields) = .ok h ↔
        requiredLength flags ≤ declared.toNat ∧
          declared.toNat ≤ (declared :: flags :: fields).length ∧
          readFields declared.toNat flags fields = h := by
      unfold parse
      dsimp only
      split
      · next hshort => exact ⟨nofun, fun hok => absurd hok.1 (Nat.not_le.mpr hshort)⟩
      · next hrequired =>
        split
        · next hcut => exact ⟨nofun, fun hok => absurd hok.2.1 (Nat.not_le.mpr hcut)⟩
        · next hthere =>
          exact ⟨fun hok => ⟨Nat.not_lt.mp hrequired, Nat.not_lt.mp hthere, Except.ok.inj hok⟩,
            fun hok => congrArg _ hok.2.2⟩
    rw [hparse]
    constructor
    · exact fun hok => ⟨declared, flags, fields, rfl, hok⟩
    · rintro ⟨_, _, _, ⟨⟩, hok⟩
      exact hok

theorem exists_parse_iff {payload : Bytes} :
    (∃ h, parse payload = .ok h) ↔ ∃ declared flags, payload[0]? = some declared ∧
      payload[1]? = some flags ∧ requiredLength flags ≤ declared.toNat ∧
      declared.toNat ≤ payload.length := by
  constructor
  · rintro ⟨h, hparse⟩
    obtain ⟨declared, flags, fields, rfl, hrequired, hthere, -⟩ := parse_eq_ok_iff.mp hparse
    exact ⟨declared, flags, rfl, rfl, hrequired, hthere⟩
  · rintro ⟨declared, flags, hdeclared, hflags, hrequired, hthere⟩
    match payload with
    | [] => cases hdeclared
    | [_] => cases hflags
    | _ :: _ :: fields =>
      cases hdeclared
      cases hflags
      exact ⟨_, parse_eq_ok_iff.mpr ⟨declared, flags, fields, rfl, hrequired, hthere, rfl⟩⟩

/-- The header and what is behind it are the payload. -/
theorem take_append_data {payload : Bytes} {h : Header} (hparse : parse payload = .ok h) :
    h.length ≤ payload.length ∧ payload.take h.length ++ h.data payload = payload := by
  obtain ⟨_, _, _, -, -, hthere, rfl⟩ := parse_eq_ok_iff.mp hparse
  exact ⟨hthere, List.take_append_drop _ payload⟩

/-! ### Reading by index -/

/-- The `n` bytes at `i`, one by one, or nothing if one of them is past the end. -/
def bytesAt (payload : Bytes) (i : Nat) : Nat → Option Bytes
  | 0 => some []
  | n + 1 => do
    let first ← payload[i]?
    let others ← bytesAt payload (i + 1) n
    return first :: others

theorem bytesAt_eq {payload : Bytes} {i n : Nat} (h : i + n ≤ payload.length) :
    bytesAt payload i n = some ((payload.drop i).take n) := by
  induction n generalizing i with
  | zero => rfl
  | succ n ih =>
    have hi : i < payload.length := by omega
    have hothers : i + 1 + n ≤ payload.length := by omega
    rw [bytesAt, List.getElem?_eq_getElem hi, ih hothers, List.drop_eq_getElem_cons hi]
    rfl

/-- The reader once more, with plain indices. There is no outcome if a byte is read that is not there. -/
def parseByIndex (payload : Bytes) : Option (Except HeaderError Header) :=
  if payload.length < minLength then some (.error ⟨payload.length, minLength⟩)
  else do
    let declared ← payload[0]?
    let flags ← payload[1]?
    if declared.toNat < requiredLength flags then
      return .error ⟨declared.toNat, requiredLength flags⟩
    if payload.length < declared.toNat then
      return .error ⟨payload.length, declared.toNat⟩
    let pts ←
      if has flags ptsFlag then do
        let bytes ← bytesAt payload minLength 4
        pure (some (.ofNat (Bytes.value bytes)))
      else pure none
    let behindPts := if has flags ptsFlag then minLength + 4 else minLength
    let clock ←
      if has flags clockFlag then do
        let time ← bytesAt payload behindPts 4
        let counter ← bytesAt payload (behindPts + 4) 2
        pure (some ⟨.ofNat (Bytes.value time), .ofNat (Bytes.value counter) &&& frameCounterMask⟩)
      else pure none
    return .ok
      { length := declared.toNat
        frameId := has flags frameIdFlag
        endOfFrame := has flags endOfFrameFlag
        stillImage := has flags stillImageFlag
        error := has flags errorFlag
        endOfHeader := has flags endOfHeaderFlag
        pts, clock }

/-- Every byte that is read is there. -/
theorem parseByIndex_eq (payload : Bytes) : parseByIndex payload = some (parse payload) := by
  match payload with
  | [] | [_] => rfl
  | declared :: flags :: fields =>
    have hmin : ¬ (declared :: flags :: fields).length < minLength := by
      simp [minLength]
    unfold parseByIndex parse
    rw [if_neg hmin]
    simp only [List.getElem?_cons_zero, List.getElem?_cons_succ, Option.bind_eq_bind, Option.bind_some]
    split
    · rfl
    next hrequired =>
      split
      · rfl
      next hcut =>
        have hthere : requiredLength flags ≤ (declared :: flags :: fields).length := by omega
        unfold requiredLength at hthere
        cases hpts : has flags ptsFlag <;> cases hclock : has flags clockFlag <;>
          simp only [hpts, hclock, if_true, if_false, Bool.false_eq_true] at hthere ⊢
        · simp [readFields, hpts, hclock]
        · rw [bytesAt_eq (by omega), bytesAt_eq (by omega)]
          simp [readFields, hpts, hclock, minLength]
        · rw [bytesAt_eq (by omega)]
          simp [readFields, hpts, hclock, minLength]
        · rw [bytesAt_eq (by omega), bytesAt_eq (by omega), bytesAt_eq (by omega)]
          simp [readFields, hpts, hclock, minLength]

/-! ### Reading what was written -/

/-- A header as it is read back: with the length that was written, its end marked, and eleven bits of
the frame counter. -/
def readBack (h : Header) : Header :=
  { h with
    length := h.encode.length
    endOfHeader := true
    clock := h.clock.map fun clock => { clock with frameCounter := clock.frameCounter % 2048 } }

/-- The frame counter is cut when it is written and once more when it is read. -/
theorem frameCounter_word16 (counter : UInt16) :
    UInt16.ofNat (Bytes.value (Bytes.word16 (counter &&& frameCounterMask))) &&& frameCounterMask =
      counter % 2048 := by
  rw [Bytes.ofNat_value_word16, UInt16.and_assoc, UInt16.and_self, and_frameCounterMask]

theorem readFields_fields (h : Header) (data : Bytes) :
    readFields h.encode.length h.flags (h.fields ++ data) = h.readBack := by
  obtain ⟨hframeId, hendOfFrame, hstillImage, herror, hend, hpts, hclock⟩ := h.has_flags
  unfold readFields readBack fields
  rw [hframeId, hendOfFrame, hstillImage, herror, hend, hpts, hclock]
  cases h.pts <;> cases h.clock <;> simp [Bytes.ofNat_value_word32, frameCounter_word16]

/-- What is written in front of data is read back. -/
theorem parse_encode (h : Header) (data : Bytes) : parse (h.encode ++ data) = .ok h.readBack := by
  have hlength := h.length_encode
  have hdeclared : (UInt8.ofNat (minLength + h.fields.length)).toNat = h.encode.length := by
    have hle := h.length_encode_le
    rw [← hlength, UInt8.toNat_ofNat']
    omega
  refine parse_eq_ok_iff.mpr ⟨_, h.flags, h.fields ++ data, rfl, ?_⟩
  rw [hdeclared, requiredLength_flags, hlength]
  refine ⟨Nat.le_refl _, ?_, ?_⟩
  · rw [List.length_append, hlength]
    exact Nat.le_add_right _ _
  · rw [← hlength, readFields_fields]

/-- The data are what is behind it. -/
theorem data_encode (h : Header) (data : Bytes) : h.readBack.data (h.encode ++ data) = data :=
  List.drop_left' rfl

/-! ### Writing what was read -/

/-- The highest five bits of a frame counter are not kept. -/
theorem word16_frameCounter (low high : UInt8) :
    Bytes.word16 (UInt16.ofNat (Bytes.value [low, high]) &&& frameCounterMask &&& frameCounterMask) =
      [low, high &&& 0x07] := by
  have hlow : low.toNat < 256 := low.toNat_lt
  have hhigh : high.toNat < 256 := high.toNat_lt
  have hseven : (high &&& 0x07).toNat = high.toNat % 8 := by
    rw [UInt8.toNat_and]
    exact Nat.and_two_pow_sub_one_eq_mod high.toNat 3
  have hkept : (UInt16.ofNat (Bytes.value [low, high]) % 2048).toNat =
      Bytes.value [low, high &&& 0x07] := by
    rw [UInt16.toNat_mod, UInt16.toNat_ofNat']
    simp only [Bytes.value, hseven]
    show _ % 2048 = _
    omega
  rw [UInt16.and_assoc, UInt16.and_self, and_frameCounterMask, Bytes.word16, hkept]
  exact Bytes.littleEndian_value [low, high &&& 0x07]

theorem clock_ofNat_value {bs : Bytes} (h : 6 ≤ bs.length) :
    Bytes.word32 (.ofNat (Bytes.value (bs.take 4))) ++
      Bytes.word16 (.ofNat (Bytes.value ((bs.drop 4).take 2)) &&& frameCounterMask &&&
        frameCounterMask) = (bs.take 6).modify 5 (· &&& 0x07) := by
  have hsix : (bs.take 6).length = 6 := List.length_take_of_le h
  have htime : bs.take 4 = (bs.take 6).take 4 := by
    rw [List.take_take]
    rfl
  have hcounter : (bs.drop 4).take 2 = (bs.take 6).drop 4 := by rw [List.drop_take]
  rw [htime, hcounter]
  match bs.take 6, hsix with
  | [a, b, c, d, low, high], _ =>
    show Bytes.word32 (.ofNat (Bytes.value [a, b, c, d])) ++ Bytes.word16
      (.ofNat (Bytes.value [low, high]) &&& frameCounterMask &&& frameCounterMask) = _
    rw [Bytes.word32_ofNat_value rfl, word16_frameCounter]
    rfl

/-- The fields that were read are written as the bytes they were read from, but for the highest bits of
the frame counter. -/
theorem fields_readFields {length : Nat} {flags : UInt8} {fields : Bytes} {k : Nat}
    (hk : requiredLength flags = minLength + k) (hthere : k ≤ fields.length) :
    (readFields length flags fields).fields =
      if has flags clockFlag then (fields.take k).modify (k - 1) (· &&& 0x07)
      else fields.take k := by
  have hsum : (if has flags ptsFlag then 4 else 0) + (if has flags clockFlag then 6 else 0) = k := by
    unfold requiredLength at hk
    omega
  subst hsum
  unfold readFields Header.fields
  cases hpts : has flags ptsFlag <;> cases hclock : has flags clockFlag <;>
    simp only [hpts, hclock, if_true, if_false, Bool.false_eq_true] at hthere ⊢
  · rfl
  · exact clock_ofNat_value hthere
  · exact Bytes.word32_ofNat_value (List.length_take_of_le hthere)
  · have hfour : (fields.take 4).length = 4 := List.length_take_of_le (by omega)
    have hbehind : 6 ≤ (fields.drop 4).length := by
      rw [List.length_drop]
      omega
    have hlast := List.modifyTailIdx_add (List.modifyHead (· &&& 0x07)) 5 (fields.take 4)
      ((fields.drop 4).take 6)
    rw [hfour] at hlast
    rw [Bytes.word32_ofNat_value hfour, clock_ofNat_value hbehind, List.take_add]
    exact hlast.symm

/-- The bytes of a header with these flags in the form in which they are written: their number in front,
the end marked, the flag without a meaning cleared, and eleven bits of the frame counter at the end. -/
def rewritten (flags : UInt8) (bytes : Bytes) : Bytes :=
  let marked := (bytes.set 0 (.ofNat bytes.length)).modify 1 fun flags =>
    (flags ||| endOfHeaderFlag) &&& ~~~reservedFlag
  if has flags clockFlag then marked.modify (bytes.length - 1) (· &&& 0x07) else marked

theorem encode_readFields {declared flags : UInt8} {fields : Bytes}
    (h : requiredLength flags ≤ (declared :: flags :: fields).length) :
    (readFields declared.toNat flags fields).encode =
      rewritten flags ((declared :: flags :: fields).take (requiredLength flags)) := by
  obtain ⟨k, hk⟩ : ∃ k, requiredLength flags = minLength + k := ⟨_, Nat.add_assoc _ _ _⟩
  have hthere : k ≤ fields.length := by
    rw [hk, List.length_cons, List.length_cons, minLength] at h
    omega
  have hcount : (fields.take k).length = k := List.length_take_of_le hthere
  have htake : (declared :: flags :: fields).take (requiredLength flags) =
      declared :: flags :: fields.take k := by
    rw [hk, Nat.add_comm]
    rfl
  rw [htake, rewritten, encode, flags_readFields, fields_readFields hk hthere]
  simp only [List.length_cons, hcount]
  split
  · next hclock =>
    -- The clock is behind the length and the flags, so its last byte is that of the whole.
    obtain ⟨j, rfl⟩ : ∃ j, k = j + 1 := by
      refine Nat.exists_eq_succ_of_ne_zero fun hzero => ?_
      rw [requiredLength, if_pos hclock] at hk
      omega
    rw [List.length_modify, hcount, Nat.add_comm minLength]
    rfl
  · rw [hcount, Nat.add_comm minLength]
    rfl

theorem encode_of_parse {payload : Bytes} {h : Header} (hparse : parse payload = .ok h) :
    ∃ flags, payload[1]? = some flags ∧ requiredLength flags ≤ h.length ∧
      h.encode = rewritten flags (payload.take (requiredLength flags)) := by
  obtain ⟨declared, flags, fields, rfl, hrequired, hthere, rfl⟩ := parse_eq_ok_iff.mp hparse
  exact ⟨flags, rfl, hrequired, encode_readFields (Nat.le_trans hrequired hthere)⟩

/-! ### Both directions -/

/-- A header that is written in front of data is read back, with the data behind it. A payload is
accepted if its declared length holds what the flags announce and is there, no byte is read that is not,
and what was read is written as it stands there, but for what a header does not keep. -/
theorem parse_inverts_encode :
    (∀ (h : Header) (data : Bytes), parse (h.encode ++ data) = .ok h.readBack ∧
      h.readBack.data (h.encode ++ data) = data) ∧
    ∀ payload : Bytes,
      parseByIndex payload = some (parse payload) ∧
      ((∃ h, parse payload = .ok h) ↔ ∃ declared flags, payload[0]? = some declared ∧
        payload[1]? = some flags ∧ requiredLength flags ≤ declared.toNat ∧
        declared.toNat ≤ payload.length) ∧
      ∀ h, parse payload = .ok h →
        h.length ≤ payload.length ∧ payload.take h.length ++ h.data payload = payload ∧
        ∃ flags, payload[1]? = some flags ∧ requiredLength flags ≤ h.length ∧
          h.encode = rewritten flags (payload.take (requiredLength flags)) := by
  constructor
  · intro h data
    exact ⟨h.parse_encode data, h.data_encode data⟩
  · intro payload
    refine ⟨parseByIndex_eq payload, exists_parse_iff, ?_⟩
    intro h hparse
    obtain ⟨hthere, hjoined⟩ := take_append_data hparse
    exact ⟨hthere, hjoined, encode_of_parse hparse⟩

/-- A frame counter of sixteen bits, and a payload whose header has every field, padding behind them,
and bits that are not kept. -/
theorem parse_inverts_encode_padded :
    let payload : Bytes := [14, 0x1D, 1, 0, 0, 0, 2, 0, 0, 0, 9, 0xFF, 0xAA, 0xBB, 0xCC]
    let header : Header := { pts := some 7, clock := some ⟨9, 0xFFFF⟩ }
    parse (header.encode ++ [1, 2]) =
      .ok { length := 12, endOfHeader := true, pts := some 7, clock := some ⟨9, 0x07FF⟩ } ∧
    ∃ h, parse payload = .ok h ∧ h.data payload = [0xCC] ∧
      h.encode = [12, 0x8D, 1, 0, 0, 0, 2, 0, 0, 0, 9, 0x07] := by
  intro payload header
  obtain ⟨hwritten, hread⟩ := parse_inverts_encode
  obtain ⟨-, haccepts, hparsed⟩ := hread payload
  obtain ⟨h, hparse⟩ := haccepts.mpr ⟨14, 0x1D, rfl, rfl, by decide, by decide⟩
  obtain ⟨-, hjoined, flags, hflags, -, hencode⟩ := hparsed h hparse
  refine ⟨(hwritten header [1, 2]).1, h, hparse, ?_, ?_⟩
  · have hread : (parse payload).toOption.map (·.length) = some 14 := rfl
    rw [hparse] at hread
    have hlength : h.length = 14 := Option.some.inj hread
    rw [hlength] at hjoined
    exact List.append_cancel_left hjoined
  · cases hflags
    rw [hencode]
    rfl

end Header

end UsbVideo
