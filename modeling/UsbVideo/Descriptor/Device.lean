import UsbVideo.Descriptor.Configuration

/-!
# Device descriptors

The 18-byte device descriptor identifies a device. `parseDevice` reads it, `parseCatalog` reads it
together with a configuration block.
-/

namespace UsbVideo

/-- What identifies a device. -/
structure DeviceIdentity where
  vendorId : UInt16
  productId : UInt16
  usbVersion : UInt16
  deriving DecidableEq

/-- The length of a device descriptor. -/
def deviceDescriptorLength : Nat := 18

/-- Read a device descriptor. -/
def parseDevice (bytes : Bytes) : Except DescriptorError DeviceIdentity :=
  if h : bytes.length < deviceDescriptorLength then .error ⟨0, .deviceTooShort⟩
  else
    have h : 18 ≤ bytes.length := Nat.le_of_not_lt h
    if (bytes[0]).toNat < deviceDescriptorLength then .error ⟨0, .deviceTooShort⟩
    else if bytes[1] ≠ DescriptorType.device then .error ⟨1, .notADevice bytes[1]⟩
    else
      let entry : Entry := ⟨0, bytes, by omega⟩
      have h : 18 ≤ entry.size := h
      .ok { vendorId := entry.u16 8, productId := entry.u16 10, usbVersion := entry.u16 2 }

/-- Read a device descriptor and a configuration block. -/
def parseCatalog (device configuration : Bytes) : Except DescriptorError Catalog := do
  let identity ← parseDevice device
  let catalog ← parseConfiguration configuration
  return { catalog with
    vendorId := identity.vendorId
    productId := identity.productId
    usbVersion := identity.usbVersion }

end UsbVideo
