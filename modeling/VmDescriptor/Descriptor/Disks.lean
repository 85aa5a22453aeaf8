import VmDescriptor.BootOrder
import VmDescriptor.BuildConfig
import VmDescriptor.Descriptor.Parts
import VmDescriptor.DeviceClasses
import VmDescriptor.TargetBus

/-!
Disks, CD-ROMs and floppies.
-/

namespace VmDescriptor.Descriptor

open Text Xml

/-! ### Removable media -/

/-- The source of payload media, which the host replaces with the image it makes. -/
def payloadSource : String := "PAYLOAD:"

/-- A target with a name and a bus. -/
def target (bus : TargetBus) (index : Nat) : Node :=
  .leaf "target" [("dev", bus.diskName index), ("bus", bus.name)]

/-- A read-only drive with removable media. -/
def removable (device source : String) (target : Node) (rest : List Node) : Node :=
  .element "disk" [("type", "file"), ("device", device), ("snapshot", "no")] <|
    [.leaf "source" [("file", source), ("startupPolicy", "optional")], target,
      .leaf "readonly" []] ++ rest

/-- A CD-ROM with a payload. -/
def payloadCdrom (cd : CdInterface) (index : Nat) : Node :=
  removable "cdrom" payloadSource (target (.ofCd cd) index) <|
    if cd = .scsi then addressNodes (.drive 0 index) else []

/-- The user's CD-ROM with the media of the machine, and its device if one is stored. -/
def userCdrom (vm : VirtualMachine) (cd : CdInterface) (index : Nat) (device : Option Device)
    (order : BootOrder) : Node :=
  removable "cdrom" (vm.cdPath.getD "") (target (.ofCd cd) index) <|
    match device with
    | some d => addressNodes d.address ++ bootNodes (order.position d)
    | none => []

/-- A floppy. -/
def floppy (vm : VirtualMachine) (d : Device) : Node :=
  let source := if d.isPayload then payloadSource else vm.floppyPath.getD ""
  removable "floppy" source (target .fdc 0) (addressNodes d.address)

/-- The CD-ROMs with payloads, at the index reserved for them. -/
def payloadCdroms (cdroms : List Device) (ix : DiskIndices) : List Node × DiskIndices :=
  (cdroms.filter Device.isPayload).foldl (fun (nodes, ix) _ =>
    let (index, ix) := ix.reservePayload
    (nodes ++ [payloadCdrom ix.cd index], ix)) ([], ix)

/-- The user's CD-ROM, if its device is stored or media are given for this run. -/
def userCdroms (vm : VirtualMachine) (cdroms : List Device) (order : BootOrder)
    (ix : DiskIndices) : List Node × DiskIndices :=
  let device := cdroms.find? (!·.isPayload)
  if device.isSome || (vm.runOnce && RunOnce.isGiven vm.cdPath) then
    let (index, ix) := ix.reserveCdrom
    ([userCdrom vm ix.cd index device order], ix)
  else ([], ix)

/-! ### Disks -/

/-- A disk that is described, with what was found out about it. -/
structure PlacedDisk where
  device : Device
  disk : Disk
  index : Nat
  position : Nat
  /-- Whether an image is on a block domain. -/
  block : Bool
  qos : Option StorageQos

/-- The path of an image on its first domain. -/
def imagePath (disk : Uuid) (image : ImageVolume) (domain : Uuid) (block : Bool) : String :=
  "/rhev/data-center/" ++ (if block then "mnt/blockSD" else image.pool.text) ++ "/" ++
    domain.text ++ "/images/" ++ disk.text ++ "/" ++ image.image.text

/-- The attributes of a disk: how its data are stored and what it looks like to the guest. -/
def diskAttributes (d : PlacedDisk) : List (String × String) :=
  let type := match d.disk.backend with
    | .image _ => if d.block then "block" else "file"
    | .lun _ => "block"
    | .network _ => "network"
  let device := match d.disk.attachment.interface with
    | .virtio | .ide => [("device", d.device.subtype)]
    | .virtioScsi =>
      if d.disk.backend.isLun && d.disk.scsiPassthrough then
        ("device", "lun") :: attributeIf "sgio" (d.disk.sgio.map ScsiFilter.name)
      else [("device", d.device.subtype)]
    | .spaprVscsi => []
  [("snapshot", "no"), ("type", type)] ++ device

/-- The target of a disk, which is empty on sPAPR. -/
def diskTarget (d : PlacedDisk) : Node :=
  match TargetBus.ofDisk? d.disk.attachment.interface with
  | some bus => target bus d.index
  | none => .leaf "target" []

/-- Where the data of a disk live. -/
def diskSource (d : PlacedDisk) : Node :=
  match d.disk.backend with
  | .image image =>
    let path := image.domains.head?.map (imagePath d.disk.id image · d.block)
    .leaf "source" (attributeIf (if d.block then "dev" else "file") path)
  | .lun lun => .leaf "source" [("dev", "/dev/mapper/" ++ lun.lun)]
  | .network volume =>
    .element "source" [("protocol", volume.protocol), ("name", volume.name)] <|
      volume.hosts.map fun host => .leaf "host" [("name", host.address), ("port", host.port)]

/-- The name of an image format in a descriptor. -/
def formatName : VolumeFormat → String
  | .cow => "qcow2"
  | .raw => "raw"

/-- What the driver does with the disk's data, by backend. -/
def backendAttributes (d : PlacedDisk) : List (String × String) :=
  let policy := if d.disk.propagateErrors then "enospace" else "stop"
  match d.disk.backend with
  | .image image =>
    [("io", if d.block then "native" else "threads"), ("type", formatName image.format),
      ("error_policy", policy)]
  | .lun _ => [("io", "native"), ("type", "raw"), ("error_policy", policy)]
  | .network _ => [("type", "raw"), ("error_policy", "stop"), ("io", "threads")]

/-- The I/O thread that the disk is pinned to; an unusable one is reported. -/
def ioThread (d : PlacedDisk) : Program (Option String) :=
  match d.device.parameters.string? "pinToIoThread" with
  | .ok thread => return thread
  | .error e => do
    .notice (.ignoredIoThread d.disk.id e)
    return none

/-- The driver of a disk. Transient disks live on storage that needs a cache. -/
def diskDriver (config : BuildConfig) (d : PlacedDisk) : Program Node := do
  let thread ← ioThread d
  let discard := config.passDiscard && d.disk.attachment.passDiscard
  return .leaf "driver" <|
    [("name", "qemu")] ++ (if discard then [("discard", "unmap")] else []) ++
    attributeIf "iothread" thread ++ backendAttributes d ++
    [("cache", if d.device.snapshot.isSome then "writethrough" else "none")]

/-- The limits of an image's profile, or the credentials for a network volume. -/
def diskPolicy (d : PlacedDisk) : Program (List Node) :=
  match d.disk.backend, d.qos with
  | .image _, some qos => do
    let limits ← .exact qos.limits?
    return [.leaf "iotune" (limits.map fun (name, n) => (name, decimal n))]
  | .network volume, _ =>
    return volume.auth.toList.map fun auth =>
      .element "auth" [("username", auth.username)]
        [.leaf "secret" [("type", auth.secretType), ("uuid", auth.secret.text)]]
  | _, _ => return []

/-- A disk. -/
def disk (config : BuildConfig) (d : PlacedDisk) : Program Node := do
  let driver ← diskDriver config d
  let policy ← diskPolicy d
  return .element "disk" (diskAttributes d) <|
    [diskTarget d, diskSource d, driver] ++ addressNodes d.device.address ++
    bootNodes d.position ++
    (if d.disk.backend.isLun then [] else [.withText "serial" d.disk.id.text]) ++
    (if d.device.readOnly then [.leaf "readonly" []] else []) ++
    (if d.device.snapshot.isNone && d.disk.shareable then [.leaf "shareable" []] else []) ++
    policy

/-- Looks up whether an image is on a block domain, and the limits of its profile. -/
def diskStorage (disk : Disk) : Program (Bool × Option StorageQos) := do
  match disk.backend with
  | .image image =>
    let some domain := image.domains.head? | .fail (.noStorageForImage disk.id)
    let some found ← .lookup (.storageDomain domain)
      | .fail (.missingStorageDomain disk.id domain)
    let qos ← match image.profile with
      | some profile => .lookup (.storageQos profile)
      | none => pure none
    return (found.storageType.isBlock, qos)
  | _ => return (false, none)

/-- The disks of a machine: boot disks first, then by name. -/
def sortedDisks (disks : List Disk) : List Disk :=
  (disks.mergeSort fun a b => a.name ≤ b.name).mergeSort fun a b =>
    a.attachment.boot || !b.attachment.boot

/-- The disks with the device of each, and their indices: a disk without a plugged device is
left out, and of several devices the last one counts. -/
def indexedDisks (vm : Uuid) (devices : List Device) :
    List Disk → DiskIndices → List (Disk × Device × Nat)
  | [], _ => []
  | disk :: rest, ix =>
    match devices.reverse.find? (·.id = ⟨disk.id, vm⟩) with
    | none => indexedDisks vm devices rest ix
    | some device =>
      let (index, ix) := ix.take disk.attachment.interface
      (disk, device, index) :: indexedDisks vm devices rest ix

/-- The disks of a machine that have a managed device, in order. Unmanaged ones take up their
index. -/
def disks (vm : VirtualMachine) (config : BuildConfig) (devices : List Device)
    (order : BootOrder) (ix : DiskIndices) : Program (List Node) := do
  let indexed := indexedDisks vm.id devices (sortedDisks vm.disks) ix
  (indexed.filter (·.2.1.managed)).mapM fun (d, device, index) => do
    let (block, qos) ← diskStorage d
    disk config { device, disk := d, index, position := order.position device, block, qos }

end VmDescriptor.Descriptor
