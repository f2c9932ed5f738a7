import UsbVideo.Jpeg.Segment

/-!
# Entropy-coded data

Behind the header of a scan stands data without a length: it runs up to the next marker. A byte `FF`
of the data is written `FF 00`, and any number of `FF` may stand in front of a marker.

A `BitStream` reads such data bit by bit. It fetches ahead of its reader, as many bytes as it takes to
have more than 56 bits at hand:

    read │ ahead: 57 to 64 bits │ rest: bytes

So the marker is met before the reader comes to the end of the data; behind it every bit is zero. When
the reader is done, `marker` tells which one it was, unless more data than it had at hand comes first.
-/

namespace UsbVideo.Jpeg

/-! ### Bits -/

/-- A string of bits. -/
abbrev Bits := List Bool

/-- The bits of a byte, the highest first. -/
def byteBits (b : UInt8) : Bits := (List.range 8).map fun i => b.toNat.testBit (7 - i)

/-- The number `n` bits stand for, behind a number read before, and the bits left. -/
def readBits (before : Nat) : (n : Nat) → Bits → Nat × Bits
  | 0, bits => (before, bits)
  | n + 1, bits => readBits (2 * before + (bits.headD false).toNat) n bits.tail

/-- The signed number that `size` bits stand for: the upper half is positive, the lower half counts
up from the least negative number of that size. -/
def extend (value size : Nat) : Int :=
  let span := Nat.pow 2 size
  if 2 * value < span then (value : Int) + 1 - span else value

/-! ### Bytes -/

/-- What comes next in entropy-coded data. -/
inductive DataItem where
  | byte (b : UInt8)
  | marker (m : UInt8)
  deriving DecidableEq

/-- The next item and what follows it. The data does not end by itself. -/
def nextItem : Bytes → Option (DataItem × Bytes)
  | [] => none
  | [b] => if b = 0xFF then none else some (.byte b, [])
  | b :: c :: rest =>
    if b ≠ 0xFF then some (.byte b, c :: rest)
    else if c = 0x00 then some (.byte 0xFF, rest)
    else
      match (c :: rest).dropWhile (· == 0xFF) with
      | [] => none
      | m :: rest => if m = 0x00 then none else some (.marker m, rest)

/-- Entropy-coded data that is being read. -/
structure BitStream where
  /-- Bits fetched and not read. -/
  ahead : Bits := []
  /-- The marker that ended the data, once it was met. -/
  marker : Option UInt8 := none
  /-- Bytes not fetched. -/
  rest : Bytes

namespace BitStream

/-- Fetch eight bits. -/
def fetchByte (s : BitStream) : Option BitStream :=
  match s.marker with
  | some _ => some { s with ahead := s.ahead ++ byteBits 0 }
  | none =>
    match nextItem s.rest with
    | none => none
    | some (.byte b, rest) => some { s with ahead := s.ahead ++ byteBits b, rest }
    | some (.marker m, rest) => some { ahead := s.ahead ++ byteBits 0, marker := some m, rest }

def fetchBytes (s : BitStream) : Nat → Option BitStream
  | 0 => some s
  | n + 1 => s.fetchByte.bind (·.fetchBytes n)

/-- Fetch until there are more than 56 bits at hand. -/
def fetch (s : BitStream) : Option BitStream := s.fetchBytes ((64 - s.ahead.length) / 8)

/-- Read a number of at most 56 bits. -/
def read (s : BitStream) (n : Nat) : Option (Nat × BitStream) := do
  let s ← s.fetch
  let (value, ahead) := readBits 0 n s.ahead
  return (value, { s with ahead })

/-- Read a signed number of `size` bits. -/
def readSigned (s : BitStream) (size : Nat) : Option (Int × BitStream) := do
  let (value, s) ← s.read size
  return (extend value size, s)

/-- Go on behind the restart marker of this number, which comes next. -/
def restart (s : BitStream) (number : Nat) : Option BitStream := do
  let s ← s.fetch
  let marker ← s.marker
  if Marker.restart? marker = some number then some { rest := s.rest } else none

/-- The next marker that is no restart, from the one before `rest` on. -/
def skipRestarts (marker : UInt8) (rest : Bytes) : Option (UInt8 × Bytes) :=
  if (Marker.restart? marker).isNone then some (marker, rest)
  else
    match _h : nextMarker rest with
    | none => none
    | some (marker, rest) => skipRestarts marker rest
termination_by rest.length
decreasing_by exact length_nextMarker_lt _h

/-- The marker behind the data and what follows it. Restarts that come right behind what was read are
passed over; so is data that was not fetched. -/
def markerBehind (s : BitStream) : Option (UInt8 × Bytes) := do
  let s ← s.fetch
  match s.marker with
  | some marker => skipRestarts marker s.rest
  | none => nextMarker s.rest

end BitStream

end UsbVideo.Jpeg
