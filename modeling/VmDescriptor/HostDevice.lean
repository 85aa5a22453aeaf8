import VmDescriptor.Address
import VmDescriptor.Codec.Choice

/-!
The physical devices of a host.

A host device belongs to a capability class, which fixes the attributes of its address on the
host. The class and the attributes are written next to the device's name; a class that is not
known is kept as unsupported.
-/

namespace VmDescriptor

/-- The capability class of a host device, with the address that the class requires. -/
inductive HostCapability where
  | pci (domain bus slot function : String)
  | usb (bus device : String)
  | scsi (host bus target lun : String)
  | unsupported
  deriving DecidableEq

namespace HostCapability

/-- The address of the device on its host. -/
def sourceAddress? : HostCapability → Option Address
  | .pci domain bus slot function =>
    some (.ofList [("domain", domain), ("bus", bus), ("slot", slot), ("function", function)])
  | .usb bus device => some (.ofList [("bus", bus), ("device", device)])
  | .scsi _ bus target lun => some (.ofList [("bus", bus), ("target", target), ("unit", lun)])
  | .unsupported => none

/-- The fields of a PCI address. -/
def pciFields : Fields (String × String × String × String) HostCapability :=
  HostCapability.pci
    <$> .required "domain" (·.1) .string
    <*> .required "bus" (·.2.1) .string
    <*> .required "slot" (·.2.2.1) .string
    <*> .required "function" (·.2.2.2) .string

/-- The fields of a USB address. -/
def usbFields : Fields (String × String) HostCapability :=
  HostCapability.usb
    <$> .required "bus" (·.1) .string
    <*> .required "device" (·.2) .string

/-- The fields of a SCSI address. -/
def scsiFields : Fields (String × String × String × String) HostCapability :=
  HostCapability.scsi
    <$> .required "host" (·.1) .string
    <*> .required "bus" (·.2.1) .string
    <*> .required "target" (·.2.2.1) .string
    <*> .required "lun" (·.2.2.2) .string

/-- The name of the class and the fields of the address. -/
def encode : HostCapability → String × List (Json.Name × Json)
  | .pci domain bus slot function => ("pci", pciFields.encode (domain, bus, slot, function))
  | .usb bus device => ("usb", usbFields.encode (bus, device))
  | .scsi host bus target lun => ("scsi", scsiFields.encode (host, bus, target, lun))
  | .unsupported => ("unsupported", [])

/-- How the address of a class is read from the fields next to the device's name. -/
abbrev AddressReader := List (Json.Name × Json) → Except DecodeError HostCapability

/-- The reader for a class by name; `usb_device` is another name of `usb`. -/
def readerOfName : String → AddressReader
  | "pci" => pciFields.ofObject .tagged
  | "usb" | "usb_device" => usbFields.ofObject .tagged
  | "scsi" => scsiFields.ofObject .tagged
  | _ => fun _ => .ok .unsupported

/-- The reader for a class by its place in the order of classes. -/
def readerOfIndex : Nat → AddressReader
  | 0 => pciFields.ofObject .tagged
  | 1 => usbFields.ofObject .tagged
  | 2 => scsiFields.ofObject .tagged
  | _ => fun _ => .ok .unsupported

/-- The reader for a class given by name or by place. -/
def reader : Json → Except DecodeError AddressReader
  | .string s => .ok (readerOfName s)
  | .number (.integer (.ofNat n)) => .ok (readerOfIndex n)
  | _ => .error .unusable

/-- The name of the field that holds the class. -/
def tag : String := "capability"

/-- Reads the class and its address from the fields next to the device's name. -/
def decode (fields : List (Json.Name × Json)) : Except DecodeError HostCapability := do
  let read ← Codec.soleTag tag fields >>= reader
  read (Codec.without tag fields)

end HostCapability

/-- A device of a host. -/
structure HostDevice where
  name : String
  capability : HostCapability
  deriving DecidableEq

namespace HostDevice

/-- The name of the field that holds the device's name. -/
def nameKey : String := "device_name"

/-- The field that holds the device's name. -/
def nameField : Fields HostDevice String :=
  .required nameKey name .string

def codec : Codec HostDevice where
  encode d :=
    let (kind, fields) := d.capability.encode
    let capability : Json.Name × Json := (HostCapability.tag, .string kind)
    .object (nameField.encode d ++ capability :: fields)
  decode form
    | .object fields => do
      let name ← nameField.ofObject form fields
      if fields.all (·.2.isReadable) then
        let capability ← HostCapability.decode (Codec.without nameKey fields)
        return { name, capability }
      else throw .unusable
    | _ => .error .unusable

end HostDevice

end VmDescriptor
