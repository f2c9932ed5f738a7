import UsbVideo.Bytes

/-!
# Stream encodings

A format descriptor names its encoding by a GUID. GUIDs built from a four-character code share one
suffix; a handful of codes are known by name, everything else is carried by its GUID.
-/

namespace UsbVideo

/-- A format GUID in wire order. -/
abbrev Guid := Vector UInt8 16

namespace Guid

/-- The GUID of a four-character code: `XXXXXXXX-0000-0010-8000-00AA00389B71`. -/
def ofFourcc (a b c d : UInt8) : Guid :=
  #v[a, b, c, d, 0x00, 0x00, 0x10, 0x00, 0x80, 0x00, 0x00, 0xAA, 0x00, 0x38, 0x9B, 0x71]

/-- The same, with the code spelled in ASCII. -/
def named (a b c d : Char) : Guid :=
  ofFourcc (.ofNat a.toNat) (.ofNat b.toNat) (.ofNat c.toNat) (.ofNat d.toNat)

/-- Sixteen bytes as a GUID. -/
def ofBytes (bs : Bytes) (h : bs.length = 16) : Guid := ⟨bs.toArray, by simpa using h⟩

/-- The code at the front, with a question mark for each byte that is not a visible character. -/
def tag (guid : Guid) : String :=
  String.ofList ((guid.toList.take 4).map fun b =>
    if 0x21 ≤ b ∧ b ≤ 0x7E then Char.ofNat b.toNat else '?')

end Guid

/-- Pixel layouts of decoded frames. -/
inductive PixelFormat where
  | rgb24
  | yuyv
  | uyvy
  | nv12
  | grey
  /-- An uncompressed frame passed through untouched. -/
  | raw
  deriving DecidableEq

/-- The encodings a format descriptor can announce. -/
inductive Encoding where
  | mjpeg
  | yuy2
  | uyvy
  | nv12
  | grey
  /-- An uncompressed format with an unknown GUID. -/
  | uncompressed (guid : Guid)
  /-- A frame-based format, such as H.264. -/
  | frameBased (guid : Guid)
  deriving DecidableEq

namespace Encoding

/-- The encoding an uncompressed format's GUID stands for. -/
def ofGuid (guid : Guid) : Encoding :=
  if guid = .named 'Y' 'U' 'Y' '2' ∨ guid = .named 'Y' 'U' 'Y' 'V' then yuy2
  else if guid = .named 'U' 'Y' 'V' 'Y' then uyvy
  else if guid = .named 'N' 'V' '1' '2' then nv12
  else if guid = .named 'Y' '8' '0' '0' ∨ guid = .named 'G' 'R' 'E' 'Y' then grey
  else uncompressed guid

/-- The GUID a descriptor carries for the encoding; MJPEG has a descriptor of its own. -/
def guid? : Encoding → Option Guid
  | mjpeg => none
  | yuy2 => some (.named 'Y' 'U' 'Y' '2')
  | uyvy => some (.named 'U' 'Y' 'V' 'Y')
  | nv12 => some (.named 'N' 'V' '1' '2')
  | grey => some (.named 'Y' '8' '0' '0')
  | uncompressed guid => some guid
  | frameBased guid => some guid

/-- Whether frames have no fixed size. -/
def isCompressed : Encoding → Bool
  | mjpeg | frameBased _ => true
  | _ => false

/-- Bits per pixel of the encodings known by name. -/
def bitsPerPixel? : Encoding → Option UInt32
  | yuy2 | uyvy => some 16
  | nv12 => some 12
  | grey => some 8
  | _ => none

/-- The pixel layout a raw encoding has without conversion. -/
def nativeFormat? : Encoding → Option PixelFormat
  | yuy2 => some .yuyv
  | uyvy => some .uyvy
  | nv12 => some .nv12
  | grey => some .grey
  | uncompressed _ => some .raw
  | mjpeg | frameBased _ => none

/-- The short name shown in messages. -/
def name : Encoding → String
  | mjpeg => "MJPEG"
  | yuy2 => "YUY2"
  | uyvy => "UYVY"
  | nv12 => "NV12"
  | grey => "GREY"
  | uncompressed guid => guid.tag
  | frameBased guid => guid.tag

/-- A raw encoding known by name is recovered from its GUID. -/
theorem ofGuid_of_named (e : Encoding) (h : e ∈ [yuy2, uyvy, nv12, grey]) :
    e.guid?.map ofGuid = some e := by
  simp only [List.mem_cons, List.not_mem_nil, or_false] at h
  rcases h with rfl | rfl | rfl | rfl <;> decide

end Encoding

end UsbVideo
