import VmDescriptor.BootSequence
import VmDescriptor.Checked
import VmDescriptor.Device
import VmDescriptor.Disk
import VmDescriptor.Machine
import VmDescriptor.Network
import VmDescriptor.Version

/-!
Virtual machines as they are stored, with the state that matters for starting them.
-/

namespace VmDescriptor

/-- Connection details of one display protocol. -/
structure GraphicsInfo where
  ip : Option String
  port : Option Int32
  tlsPort : Option Int32
  deriving DecidableEq

namespace GraphicsInfo

def codec : Codec GraphicsInfo := .record <|
  GraphicsInfo.mk
    <$> .optional "ip" ip .string
    <*> .optional "port" port .int32
    <*> .optional "tls_port" tlsPort .int32

end GraphicsInfo

/-- The connection details of each display protocol in use. -/
abbrev GraphicsInfos := SortedMap GraphicsType GraphicsInfo

/-- Maps keyed by display protocol. -/
def GraphicsInfos.codec : Codec GraphicsInfos :=
  .map GraphicsType.name (fun name => (GraphicsType.parse name.text).mapError .malformed)
    GraphicsInfo.codec

/-- A lease that the machine holds on a storage domain. -/
structure Lease where
  domain : Uuid
  offset : Option UInt64
  path : Option String
  deriving DecidableEq

namespace Lease

def codec : Codec Lease := .record <|
  Lease.mk
    <$> .required "storage_domain_id" domain .uuid
    <*> .optional "offset" offset .uint64
    <*> .optional "path" path .string

end Lease

/-- A virtual machine. Sizes of memory are in MiB. -/
structure VirtualMachine where
  id : Uuid
  name : String
  cluster : Uuid
  memory : UInt32
  maxMemory : UInt32
  guaranteedMemory : UInt32
  ioThreads : UInt32
  sockets : UInt32
  coresPerSocket : UInt32
  threadsPerCore : UInt32
  arch : Architecture
  emulatedMachine : Option String
  compatibility : Version
  os : UInt32
  bootSequence : BootSequence
  displayType : Option DisplayType
  graphics : GraphicsInfos
  fileTransfer : Bool
  copyPaste : Bool
  /-- The keyboard layout chosen for this run. -/
  keyboard : Option String
  defaultKeyboard : Option String
  lease : Option Lease
  customProperties : SortedMap String String
  /-- The offset of the guest clock from UTC, in seconds. -/
  clockOffset : Option Int32
  acpi : Bool
  bootMenu : Bool
  kernel : Option String
  kernelParameters : Option String
  initrd : Option String
  cdPath : Option String
  floppyPath : Option String
  runOnce : Bool
  nics : List Nic
  disks : List Disk

namespace VirtualMachine

def codec : Codec VirtualMachine := .record <|
  VirtualMachine.mk
    <$> .required "id" id .uuid
    <*> .required "name" name .string
    <*> .required "cluster_id" cluster .uuid
    <*> .required "mem_size_mb" memory .uint32
    <*> .required "max_memory_size_mb" maxMemory .uint32
    <*> .withDefault "min_allocated_mem_mb" guaranteedMemory .uint32 0
    <*> .withDefault "num_of_io_threads" ioThreads .uint32 0
    <*> .required "num_of_sockets" sockets .uint32
    <*> .required "cpu_per_socket" coresPerSocket .uint32
    <*> .required "threads_per_cpu" threadsPerCore .uint32
    <*> .required "arch" arch Architecture.codec
    <*> .optional "emulated_machine" emulatedMachine .string
    <*> .required "compatibility_version" compatibility Version.codec
    <*> .required "os_id" os .uint32
    <*> .withDefault "boot_sequence" bootSequence BootSequence.codec .disks
    <*> .optional "default_display_type" displayType DisplayType.codec
    <*> .withDefault "graphics_infos" graphics GraphicsInfos.codec .empty
    <*> .withDefault "spice_file_transfer_enabled" fileTransfer .boolean true
    <*> .withDefault "spice_copy_paste_enabled" copyPaste .boolean true
    <*> .optional "vnc_keyboard_layout" keyboard .string
    <*> .optional "default_vnc_keyboard_layout" defaultKeyboard .string
    <*> .optional "lease" lease Lease.codec
    <*> .withDefault "custom_properties" customProperties (.dictionary .string) .empty
    <*> .optional "time_zone_offset_secs" clockOffset .int32
    <*> .withDefault "acpi_enabled" acpi .boolean false
    <*> .withDefault "boot_menu_enabled" bootMenu .boolean false
    <*> .optional "kernel_url" kernel .string
    <*> .optional "kernel_params" kernelParameters .string
    <*> .optional "initrd_url" initrd .string
    <*> .optional "cd_path" cdPath .string
    <*> .optional "floppy_path" floppyPath .string
    <*> .withDefault "run_once" runOnce .boolean false
    <*> .withDefault "interfaces" nics (.list Nic.codec) []
    <*> .withDefault "disks" disks (.list Disk.codec) []

/-- The number of vCPUs, if it fits 32 bits. -/
def cpuCount? (vm : VirtualMachine) : Option Nat := do
  let cores ← product? UInt32.size vm.sockets.toNat vm.coresPerSocket.toNat
  product? UInt32.size cores vm.threadsPerCore.toNat

/-- The number of vCPUs that whole sockets can be plugged up to within the limits on sockets
and vCPUs; without cores or threads it is the number of vCPUs. -/
def maxCpuCount? (vm : VirtualMachine) (maxSockets maxCpus : Nat) : Option Nat := do
  let perSocket ← product? UInt32.size vm.coresPerSocket.toNat vm.threadsPerCore.toNat
  if perSocket = 0 then vm.cpuCount?
  else product? UInt32.size perSocket (min maxSockets (maxCpus / perSocket))

/-- The value of a custom property. -/
def customProperty? (vm : VirtualMachine) (name : String) : Option String :=
  vm.customProperties.get? name

/-- The NIC of an interface device: the first one with the device's identity. -/
def nicOf? (vm : VirtualMachine) (id : DeviceId) : Option Nic :=
  vm.nics.find? fun nic => nic.id = id.device ∧ nic.vm = id.vm

end VirtualMachine

end VmDescriptor
