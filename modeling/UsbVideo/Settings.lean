import UsbVideo.Stream.Request

/-!
# Engine settings

The settings an engine runs with, their defaults, and the bounds `EngineSettings.validate` checks.
-/

namespace UsbVideo

/-- What raw formats are delivered as. -/
inductive OutputFormat where
  /-- Raw formats pass through untouched. -/
  | native
  /-- Known raw formats are converted. -/
  | rgb24
  deriving DecidableEq

/-- How transfers are run. Times are in milliseconds. -/
structure TransferSettings where
  activeRequests : Nat := 32
  /-- Left open: the capacity of the chosen alternate setting. -/
  maxPacketSize : Option Nat := none
  packetsPerRequest : Nat := 32
  cancelTimeout : Nat := 2000
  controlTimeout : Nat := 1000
  deriving DecidableEq

/-- How frames are handed on. -/
structure PipelineSettings where
  /-- Completed frames that wait for the decoder. -/
  queueCapacity : Nat := 3
  maxConsecutiveDecodeErrors : Nat := 10
  outputFormat : OutputFormat := .native
  deriving DecidableEq

/-- All settings. -/
structure EngineSettings where
  /-- Used when a stream is opened with an empty request. -/
  stream : StreamRequest := {}
  /-- Used when both requests are empty. -/
  preset : Option Preset := none
  transfer : TransferSettings := {}
  pipeline : PipelineSettings := {}
  deriving DecidableEq

/-- Why settings cannot be used. -/
inductive InvalidSettings where
  | queueCapacity (actual : Nat)
  | noTransfers
  | noDecodeErrors
  | other (text : String)
  deriving DecidableEq

def InvalidSettings.message (e : InvalidSettings) : String :=
  "invalid configuration: " ++
    match e with
    | queueCapacity actual =>
      s!"pipeline.queue_capacity must be between 2 and 4, got {actual}"
    | noTransfers => "transfer.active_urbs and transfer.packets_per_request must be non-zero"
    | noDecodeErrors => "pipeline.max_consecutive_decode_errors must be non-zero"
    | other text => text

/-- Accept settings within bounds. -/
def EngineSettings.validate (s : EngineSettings) : Except InvalidSettings Unit :=
  if s.pipeline.queueCapacity < 2 ∨ 4 < s.pipeline.queueCapacity then
    .error (.queueCapacity s.pipeline.queueCapacity)
  else if s.transfer.activeRequests = 0 ∨ s.transfer.packetsPerRequest = 0 then
    .error .noTransfers
  else if s.pipeline.maxConsecutiveDecodeErrors = 0 then .error .noDecodeErrors
  else .ok ()

end UsbVideo
