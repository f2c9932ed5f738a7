import UsbVideo.Bytes

/-!
# Claims

A device is open in one place at a time, and an endpoint is streamed from by one pool of transfers.
Whoever wants either claims it in the registry; a claim held by somebody else is refused and left
alone.
-/

namespace UsbVideo

/-- What can be claimed. -/
inductive ClaimKey where
  | device (id : String)
  | endpoint (device : String) (address : UInt8)
  deriving DecidableEq

/-- The keys claimed at the moment. -/
structure ClaimRegistry where
  held : List ClaimKey := []

namespace ClaimRegistry

/-- Claim a key, unless it is held. -/
def acquire (r : ClaimRegistry) (key : ClaimKey) : Option ClaimRegistry :=
  if key ∈ r.held then none else some { held := key :: r.held }

/-- Give a key back. -/
def release (r : ClaimRegistry) (key : ClaimKey) : ClaimRegistry :=
  { held := r.held.filter (· ≠ key) }

end ClaimRegistry

end UsbVideo
