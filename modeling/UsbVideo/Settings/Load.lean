import UsbVideo.Settings
import UsbVideo.Settings.Environment
import UsbVideo.Size
import UsbVideo.Toml.Document

/-!
# Loading settings

Settings come from a file and from the environment, which has the last word; what neither gives keeps
its default. `EngineSettings.load` reads both and checks the result.

    file  ──Toml.parse──▶  document  ──▶  tree  ──overlay──▶  tree  ──read──▶  settings  ──validate──▶

Values are read leniently: a number may be written as text, as a float or as a truth value, and the
names of encodings and the like in either case. Keys nobody knows are passed over.
-/

namespace UsbVideo

open Toml

/-- The file settings are loaded from. -/
inductive SettingsFile where
  /-- There is no such file. -/
  | missing
  | contents (text : String)

/-- Why settings could not be loaded. -/
inductive LoadError where
  | missingFile
  | malformedFile
  /-- A value is not of the kind the setting needs. -/
  | unsuitable (setting : String)
  | invalid (error : InvalidSettings)
  deriving DecidableEq

/-! ### Values -/

namespace SettingTree

/-- A number of 64 bits. Floats are rounded, half away from zero, and cut to the range. -/
def word? : SettingTree → Option Nat
  | boolean b => some b.toNat
  | integer n => if 0 ≤ n then countable n.toNat else none
  | float x => some x.round.toUInt64.toNat
  | text s =>
    let word := s.toLower
    if word = "true" ∨ word = "on" ∨ word = "yes" then some 1
    else if word = "false" ∨ word = "off" ∨ word = "no" then some 0
    else do
      let digits ← plainDigits (if s.startsWith "+" then s.toList.tail else s.toList)
      countable (numberOf 10 digits)
  | unset | list .. | table .. => none

/-- A number below a bound. -/
def below? (bound : Nat) (t : SettingTree) : Option Nat := t.word?.filter (· < bound)

def byte? (t : SettingTree) : Option UInt8 := (t.below? UInt8.size).map UInt8.ofNat

def word32? (t : SettingTree) : Option UInt32 := (t.below? UInt32.size).map UInt32.ofNat

def flag? : SettingTree → Option Bool
  | boolean b => some b
  | integer n => some (n != 0)
  | float x => some (x != 0)
  | text s =>
    let word := s.toLower
    if word = "1" ∨ word = "true" ∨ word = "on" ∨ word = "yes" then some true
    else if word = "0" ∨ word = "false" ∨ word = "off" ∨ word = "no" then some false
    else none
  | unset | list .. | table .. => none

def bytes? : SettingTree → Option Bytes
  | list items => items.mapM byte?
  | _ => none

/-- A name in lower case, and what belongs to it: the value of a table's only key. -/
def name? : SettingTree → Option (String × Option SettingTree)
  | text s => some (s.toLower, none)
  | table [(key, value)] => some (key.toLower, some value)
  | _ => none

/-- What a section says of a setting. A list is a section too: its items have their places. -/
def field? (t : SettingTree) (place : Nat) (key : String) : Option SettingTree :=
  match t with
  | table entries => entries.lookup key
  | list items => items[place]?
  | _ => none

end SettingTree

def OutputFormat.ofSetting? (t : SettingTree) : Option OutputFormat := do
  let (name, _) ← t.name?
  if name = "native" then some .native else if name = "rgb24" then some .rgb24 else none

def Preset.ofSetting? (t : SettingTree) : Option Preset := do
  let (name, _) ← t.name?
  if name = "default" then some .standard
  else if name = "brio_stable" then some .brioStable
  else none

/-- Sixteen bytes; what follows them is passed over. -/
def Guid.ofSetting? (t : SettingTree) : Option Guid :=
  match t with
  | .list items => do
    let bytes ← (items.take 16).mapM SettingTree.byte?
    if h : bytes.length = 16 then some (.ofBytes bytes h) else none
  | _ => none

def Encoding.ofSetting? (t : SettingTree) : Option Encoding := do
  let (name, guid) ← t.name?
  if name = "mjpeg" then some mjpeg
  else if name = "yuy2" then some yuy2
  else if name = "uyvy" then some uyvy
  else if name = "nv12" then some nv12
  else if name = "grey" then some grey
  else if name = "uncompressed" then (guid.bind Guid.ofSetting?).map uncompressed
  else if name = "frame_based" then (guid.bind Guid.ofSetting?).map frameBased
  else none

/-! ### Sections -/

/-- The value of a setting, if it is given. -/
def readSetting {α : Type} (section? : Option SettingTree) (place : Nat) (key : String)
    (read : SettingTree → Option α) : Except LoadError (Option α) :=
  match section?.bind (·.field? place key) with
  | none => .ok none
  | some value =>
    match read value with
    | some a => .ok (some a)
    | none => .error (.unsuitable key)

/-- The value of a setting that may be left open, as it is by an unset place of a list. -/
def readOpen {α : Type} (section? : Option SettingTree) (place : Nat) (key : String)
    (read : SettingTree → Option α) : Except LoadError (Option α) :=
  match section?.bind (·.field? place key) with
  | some .unset => .ok none
  | _ => readSetting section? place key read

/-- A section is a table, or a list of its settings in order. -/
def readSection (root : SettingTree) (place : Nat) (key : String) :
    Except LoadError (Option SettingTree) :=
  readSetting (some root) place key fun
    | .table entries => some (.table entries)
    | .list items => some (.list items)
    | _ => none

def StreamRequest.ofSection (s : Option SettingTree) : Except LoadError StreamRequest := do
  return {
    interface := ← readOpen s 0 "interface" SettingTree.byte?
    formatIndex := ← readOpen s 1 "format_index" SettingTree.byte?
    frameIndex := ← readOpen s 2 "frame_index" SettingTree.byte?
    encoding := ← readOpen s 3 "encoding" Encoding.ofSetting?
    width := ← readOpen s 4 "width" SettingTree.word32?
    height := ← readOpen s 5 "height" SettingTree.word32?
    frameInterval := ← readOpen s 6 "frame_interval" SettingTree.word32?
    altSetting := ← readOpen s 7 "alt_setting" SettingTree.byte?
    maxPacketSize := ← readOpen s 8 "max_packet_size" SettingTree.word?
    packetsPerRequest := ← readOpen s 9 "packets_per_request" SettingTree.word?
    activeRequests := ← readOpen s 10 "active_urbs" SettingTree.word?
    unitId := ← readOpen s 11 "unit_id" SettingTree.byte?
    terminalId := ← readOpen s 12 "terminal_id" SettingTree.byte?
    controlTerminal := ← readOpen s 13 "control_terminal" SettingTree.bytes?
    controlUnit := ← readOpen s 14 "control_unit" SettingTree.bytes?
    stillCaptureMethod := ← readOpen s 15 "still_capture_method" SettingTree.byte?
    bulk := ← readOpen s 16 "bulk" SettingTree.flag? }

def TransferSettings.ofSection (s : Option SettingTree) : Except LoadError TransferSettings := do
  let d : TransferSettings := {}
  return {
    activeRequests := (← readSetting s 0 "active_urbs" SettingTree.word?).getD d.activeRequests
    maxPacketSize := ← readOpen s 1 "max_packet_size" SettingTree.word?
    packetsPerRequest := (← readSetting s 2 "packets_per_request" SettingTree.word?).getD d.packetsPerRequest
    cancelTimeout := (← readSetting s 3 "cancel_timeout_ms" SettingTree.word?).getD d.cancelTimeout
    controlTimeout := (← readSetting s 4 "control_timeout_ms" SettingTree.word?).getD d.controlTimeout }

def PipelineSettings.ofSection (s : Option SettingTree) : Except LoadError PipelineSettings := do
  let d : PipelineSettings := {}
  return {
    queueCapacity := (← readSetting s 0 "queue_capacity" SettingTree.word?).getD d.queueCapacity
    maxConsecutiveDecodeErrors :=
      (← readSetting s 1 "max_consecutive_decode_errors" (SettingTree.below? UInt32.size)).getD
        d.maxConsecutiveDecodeErrors
    outputFormat := (← readSetting s 2 "output_format" OutputFormat.ofSetting?).getD d.outputFormat }

/-! ### All settings -/

namespace EngineSettings

/-- The settings a tree gives. -/
def ofTree (t : SettingTree) : Except LoadError EngineSettings := do
  return {
    stream := ← StreamRequest.ofSection (← readSection t 0 "stream")
    preset := ← readOpen (some t) 1 "preset" Preset.ofSetting?
    transfer := ← TransferSettings.ofSection (← readSection t 2 "transfer")
    pipeline := ← PipelineSettings.ofSection (← readSection t 3 "pipeline") }

/-- What a file says, if one is named. -/
def fileTree : Option SettingsFile → Except LoadError SettingTree
  | none => .ok (.table [])
  | some .missing => .error .missingFile
  | some (.contents text) =>
    match (Toml.parse text).bind SettingTree.ofDocument with
    | none => .error .malformedFile
    | some tree => .ok tree

/-- Load settings from a file, if one is named, and from the environment, and check them. -/
def load (file : Option SettingsFile) (environment : List (String × String)) :
    Except LoadError EngineSettings := do
  let tree ← fileTree file
  let settings ← ofTree (tree.overlay environment)
  match settings.validate with
  | .ok () => return settings
  | .error e => throw (.invalid e)

end EngineSettings

end UsbVideo
