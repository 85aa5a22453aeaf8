import VmDescriptor.Address
import VmDescriptor.Codec.Choice

/-!
The devices stored for a virtual machine.

A device has a general type and a subtype, such as `disk` and `cdrom`, and a bag of parameters
with arbitrary JSON values. A device whose parameters contain a payload carries files to be
injected into the guest.
-/

namespace VmDescriptor

/-- The identity of a device: its own identifier and that of its machine. -/
structure DeviceId where
  device : Uuid
  vm : Uuid
  deriving DecidableEq

namespace DeviceId

instance : Inhabited DeviceId := ⟨⟨default, default⟩⟩

def codec : Codec DeviceId := .record <|
  DeviceId.mk
    <$> .required "device_id" device .uuid
    <*> .required "vm_id" vm .uuid

end DeviceId

/-- The general type of a device. -/
inductive DeviceType where
  | disk
  | interface
  | video
  | graphics
  | sound
  | controller
  | balloon
  | channel
  | redir
  | redirdev
  | console
  | rng
  | smartcard
  | watchdog
  | hostdev
  | memory
  | unknown
  deriving DecidableEq, Repr

namespace DeviceType

def all : List DeviceType :=
  [.disk, .interface, .video, .graphics, .sound, .controller, .balloon, .channel, .redir,
    .redirdev, .console, .rng, .smartcard, .watchdog, .hostdev, .memory, .unknown]

def name : DeviceType → String
  | .disk => "DISK"
  | .interface => "INTERFACE"
  | .video => "VIDEO"
  | .graphics => "GRAPHICS"
  | .sound => "SOUND"
  | .controller => "CONTROLLER"
  | .balloon => "BALLOON"
  | .channel => "CHANNEL"
  | .redir => "REDIR"
  | .redirdev => "REDIRDEV"
  | .console => "CONSOLE"
  | .rng => "RNG"
  | .smartcard => "SMARTCARD"
  | .watchdog => "WATCHDOG"
  | .hostdev => "HOSTDEV"
  | .memory => "MEMORY"
  | .unknown => "UNKNOWN"

/-- Any other name is that of an unknown type. -/
def codec : Codec DeviceType := .enumeration all name (some .unknown)

end DeviceType

/-- The parameters of a device by name. -/
abbrev Parameters := SortedMap String Json

/-- A device as it is stored for a machine. -/
structure Device where
  id : DeviceId
  type : DeviceType
  /-- The subtype, such as `disk`, `cdrom`, `bridge`, `qxl` or `virtio-scsi`. -/
  subtype : String
  parameters : Parameters
  address : Address
  bootOrder : UInt32
  plugged : Bool
  managed : Bool
  readOnly : Bool
  /-- Set on transient disks. -/
  snapshot : Option Uuid

namespace Device

instance : Inhabited Device :=
  ⟨⟨default, .unknown, "", .empty, .empty, 0, true, true, false, none⟩⟩

/-- A plugged, managed device without parameters and address. -/
def plain (id : DeviceId) (type : DeviceType) (subtype : String) : Device where
  id := id
  type := type
  subtype := subtype
  parameters := .empty
  address := .empty
  bootOrder := 0
  plugged := true
  managed := true
  readOnly := false
  snapshot := none

/-- The name of the parameter that holds a payload. -/
def payloadKey : String := "vmPayload"

/-- Whether the device carries a payload. -/
def isPayload (d : Device) : Bool :=
  d.parameters.contains payloadKey

def codec : Codec Device := .record <|
  Device.mk
    <$> .required "id" id DeviceId.codec
    <*> .required "general_type" type DeviceType.codec
    <*> .required "device" subtype .string
    <*> .withDefault "spec_params" parameters (.dictionary .json) .empty
    <*> .withDefault "address" address Address.codec .empty
    <*> .withDefault "boot_order" bootOrder .uint32 0
    <*> .withDefault "plugged" plugged .boolean true
    <*> .withDefault "managed" managed .boolean true
    <*> .withDefault "read_only" readOnly .boolean false
    <*> .optional "snapshot_id" snapshot .uuid

end Device

end VmDescriptor
