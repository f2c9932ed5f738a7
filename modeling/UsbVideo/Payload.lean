import UsbVideo.Bytes

/-!
# Payload headers

Every payload starts with a header: its length, a byte of flags, and, where the flags say so, a
presentation time and a source clock reference. What follows the header is video data.

`Header.parse` accepts a header iff the declared length holds the fields the flags announce and
the payload holds the declared length. `Header.encode` writes one back.
-/

namespace UsbVideo

/-- A header needs more bytes than it has. -/
structure HeaderError where
  available : Nat
  required : Nat
  deriving DecidableEq

/-- The words of a header error. -/
def HeaderError.message (e : HeaderError) : String :=
  s!"payload header too short: {e.available} bytes available, {e.required} required"

/-- A reading of the source clock. -/
structure SourceClock where
  time : UInt32
  /-- The bus frame counter, 11 bits. -/
  frameCounter : UInt16
  deriving DecidableEq

/-- A payload header. -/
structure Header where
  /-- The declared length, which may exceed what the fields need. -/
  length : Nat := 0
  frameId : Bool := false
  endOfFrame : Bool := false
  stillImage : Bool := false
  error : Bool := false
  endOfHeader : Bool := false
  pts : Option UInt32 := none
  clock : Option SourceClock := none
  deriving DecidableEq

namespace Header

/-! ### Flags -/

def frameIdFlag : UInt8 := 0x01

def endOfFrameFlag : UInt8 := 0x02

def ptsFlag : UInt8 := 0x04

def clockFlag : UInt8 := 0x08

def stillImageFlag : UInt8 := 0x20

def errorFlag : UInt8 := 0x40

def endOfHeaderFlag : UInt8 := 0x80

/-- Whether `flags` holds the bit `flag`. -/
def has (flags flag : UInt8) : Bool := flags &&& flag != 0

/-- The length and the flags. -/
def minLength : Nat := 2

/-- The least length of a header with these flags. -/
def requiredLength (flags : UInt8) : Nat :=
  minLength + (if has flags ptsFlag then 4 else 0) + (if has flags clockFlag then 6 else 0)

/-! ### Reading -/

/-- The eleven bits a frame counter has. -/
def frameCounterMask : UInt16 := 0x07FF

/-- The fields behind the flags, from the bytes behind them. -/
def readFields (length : Nat) (flags : UInt8) (fields : Bytes) : Header :=
  let behindPts := if has flags ptsFlag then fields.drop 4 else fields
  { length
    frameId := has flags frameIdFlag
    endOfFrame := has flags endOfFrameFlag
    stillImage := has flags stillImageFlag
    error := has flags errorFlag
    endOfHeader := has flags endOfHeaderFlag
    pts := if has flags ptsFlag then some (.ofNat (Bytes.value (fields.take 4))) else none
    clock :=
      if has flags clockFlag then
        some
          { time := .ofNat (Bytes.value (behindPts.take 4))
            frameCounter :=
              .ofNat (Bytes.value ((behindPts.drop 4).take 2)) &&& frameCounterMask }
      else none }

/-- The header at the front of `payload`. -/
def parse (payload : Bytes) : Except HeaderError Header :=
  match payload with
  | declared :: flags :: fields =>
    if declared.toNat < requiredLength flags then
      .error ⟨declared.toNat, requiredLength flags⟩
    else if payload.length < declared.toNat then
      .error ⟨payload.length, declared.toNat⟩
    else
      .ok (readFields declared.toNat flags fields)
  | _ => .error ⟨payload.length, minLength⟩

/-- The video data behind the header. -/
def data (header : Header) (payload : Bytes) : Bytes := payload.drop header.length

/-! ### Writing -/

/-- The flags of a header; the end-of-header bit is always set. -/
def flags (header : Header) : UInt8 :=
  endOfHeaderFlag
    ||| (if header.frameId then frameIdFlag else 0)
    ||| (if header.endOfFrame then endOfFrameFlag else 0)
    ||| (if header.stillImage then stillImageFlag else 0)
    ||| (if header.error then errorFlag else 0)
    ||| (if header.pts.isSome then ptsFlag else 0)
    ||| (if header.clock.isSome then clockFlag else 0)

/-- The bytes of the optional fields. -/
def fields (header : Header) : Bytes :=
  (match header.pts with
    | some pts => Bytes.word32 pts
    | none => [])
  ++ (match header.clock with
    | some clock => Bytes.word32 clock.time ++ Bytes.word16 (clock.frameCounter &&& frameCounterMask)
    | none => [])

/-- The header on the wire, its length computed anew. -/
def encode (header : Header) : Bytes :=
  .ofNat (minLength + header.fields.length) :: header.flags :: header.fields

end Header

end UsbVideo
