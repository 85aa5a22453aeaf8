import VmDescriptor.Descriptor.Disks
import VmDescriptor.Encoder.Parts

/-!
Encoders of disks, CD-ROMs and floppies.
-/

namespace VmDescriptor.Encoder

open Descriptor (PlacedDisk payloadSource imagePath formatName ioThread diskStorage)
open Text

/-! ### Removable media -/

/-- The start of a drive with removable media, which stays open. -/
def startRemovable (device source : String) : Encoder Unit := do
  start "disk"
  addAttribute "type" "file"
  addAttribute "device" device
  addAttribute "snapshot" "no"
  leaf "source" [("file", source), ("startupPolicy", "optional")]

/-- A target with a name and a bus. -/
def target (bus : TargetBus) (index : Nat) : Encoder Unit :=
  leaf "target" [("dev", bus.diskName index), ("bus", bus.name)]

/-- A CD-ROM with a payload. -/
def payloadCdrom (cd : CdInterface) (index : Nat) : Encoder Unit := do
  startRemovable "cdrom" payloadSource
  target (.ofCd cd) index
  bare "readonly"
  when (cd = .scsi) (address (.drive 0 index))
  close

/-- The user's CD-ROM, with its device if one is stored. -/
def userCdrom (vm : VirtualMachine) (cd : CdInterface) (index : Nat) (device : Option Device)
    (order : BootOrder) : Encoder Unit := do
  startRemovable "cdrom" (vm.cdPath.getD "")
  target (.ofCd cd) index
  bare "readonly"
  whenSome device fun d => do
    address d.address
    bootOrder (order.position d)
  close

/-- A floppy. -/
def floppy (vm : VirtualMachine) (d : Device) : Encoder Unit := do
  startRemovable "floppy" (if d.isPayload then payloadSource else vm.floppyPath.getD "")
  target .fdc 0
  bare "readonly"
  address d.address
  close

/-- One more CD-ROM with a payload, which reserves the index that it gets. -/
def nextPayload (ix : DiskIndices) : Encoder DiskIndices := do
  let (index, ix) := ix.reservePayload
  payloadCdrom ix.cd index
  return ix

/-- The CD-ROMs with payloads, in order. -/
def payloadCdroms (cdroms : List Device) (ix : DiskIndices) : Encoder DiskIndices :=
  (cdroms.filter Device.isPayload).foldlM (fun ix _ => nextPayload ix) ix

/-- The user's CD-ROM, if its device is stored or media are given for this run. -/
def userCdroms (vm : VirtualMachine) (cdroms : List Device) (order : BootOrder)
    (ix : DiskIndices) : Encoder DiskIndices :=
  let device := cdroms.find? (!·.isPayload)
  if device.isSome || (vm.runOnce && RunOnce.isGiven vm.cdPath) then do
    let (index, ix) := ix.reserveCdrom
    userCdrom vm ix.cd index device order
    return ix
  else return ix

/-! ### Disks -/

/-- How the data of a disk are stored, in the element that is open. -/
def addDiskType (d : PlacedDisk) : Encoder Unit :=
  match d.disk.backend with
  | .image _ => addAttribute "type" (if d.block then "block" else "file")
  | .lun _ => addAttribute "type" "block"
  | .network _ => addAttribute "type" "network"

/-- What a disk looks like to the guest, in the element that is open. -/
def addDiskDevice (d : PlacedDisk) : Encoder Unit :=
  match d.disk.attachment.interface with
  | .virtio | .ide => addAttribute "device" d.device.subtype
  | .virtioScsi =>
    if d.disk.backend.isLun && d.disk.scsiPassthrough then do
      addAttribute "device" "lun"
      addAttributeIf "sgio" (d.disk.sgio.map ScsiFilter.name)
    else addAttribute "device" d.device.subtype
  | .spaprVscsi => pure ()

/-- The target of a disk, which is empty on sPAPR. -/
def diskTarget (d : PlacedDisk) : Encoder Unit :=
  match TargetBus.ofDisk? d.disk.attachment.interface with
  | some bus => target bus d.index
  | none => bare "target"

/-- Where the data of a disk live. -/
def diskSource (d : PlacedDisk) : Encoder Unit := do
  start "source"
  match d.disk.backend with
  | .image image =>
    addAttributeIf (if d.block then "dev" else "file")
      (image.domains.head?.map (imagePath d.disk.id image · d.block))
  | .lun lun => addAttribute "dev" ("/dev/mapper/" ++ lun.lun)
  | .network volume =>
    addAttribute "protocol" volume.protocol
    addAttribute "name" volume.name
    each volume.hosts fun host => leaf "host" [("name", host.address), ("port", host.port)]
  close

/-- What the driver does with the disk's data, in the element that is open. -/
def addBackend (d : PlacedDisk) : Encoder Unit :=
  match d.disk.backend with
  | .image image => do
    addAttribute "io" (if d.block then "native" else "threads")
    addAttribute "type" (formatName image.format)
    addAttribute "error_policy" (if d.disk.propagateErrors then "enospace" else "stop")
  | .lun _ => do
    addAttribute "io" "native"
    addAttribute "type" "raw"
    addAttribute "error_policy" (if d.disk.propagateErrors then "enospace" else "stop")
  | .network _ => do
    addAttribute "type" "raw"
    addAttribute "error_policy" "stop"
    addAttribute "io" "threads"

/-- The driver of a disk. -/
def diskDriver (config : BuildConfig) (d : PlacedDisk) : Encoder Unit := do
  start "driver"
  addAttribute "name" "qemu"
  when (config.passDiscard && d.disk.attachment.passDiscard) (addAttribute "discard" "unmap")
  let thread ← ioThread d
  addAttributeIf "iothread" thread
  addBackend d
  addAttribute "cache" (if d.device.snapshot.isSome then "writethrough" else "none")
  close

/-- The credentials for a network volume. -/
def volumeAuth (auth : VolumeAuth) : Encoder Unit := do
  start "auth"
  addAttribute "username" auth.username
  leaf "secret" [("type", auth.secretType), ("uuid", auth.secret.text)]
  close

/-- The limits of an image's profile. -/
def ioTune (qos : StorageQos) : Encoder Unit := do
  let limits ← Program.exact qos.limits?
  leaf "iotune" (limits.map fun (name, n) => (name, decimal n))

/-- The limits of an image's profile, or the credentials for a network volume. -/
def diskPolicy (d : PlacedDisk) : Encoder Unit :=
  match d.disk.backend with
  | .image _ => whenSome d.qos ioTune
  | .network volume => whenSome volume.auth volumeAuth
  | .lun _ => pure ()

/-- A disk. -/
def disk (config : BuildConfig) (d : PlacedDisk) : Encoder Unit := do
  start "disk"
  addAttribute "snapshot" "no"
  addDiskType d
  addDiskDevice d
  diskTarget d
  diskSource d
  diskDriver config d
  address d.device.address
  bootOrder d.position
  when (¬ d.disk.backend.isLun) (withText "serial" d.disk.id.text)
  when d.device.readOnly (bare "readonly")
  when (d.device.snapshot.isNone && d.disk.shareable) (bare "shareable")
  diskPolicy d
  close

/-- The disks of a machine that have a managed device, in order. Unmanaged ones take up their
index. -/
def disks (vm : Uuid) (config : BuildConfig) (devices : List Device) (order : BootOrder) :
    List Disk → DiskIndices → Encoder Unit
  | [], _ => pure ()
  | d :: rest, ix =>
    match devices.reverse.find? (·.id = ⟨d.id, vm⟩) with
    | none => disks vm config devices order rest ix
    | some device => do
      let (index, ix) := ix.take d.attachment.interface
      when device.managed do
        let (block, qos) ← diskStorage d
        disk config { device, disk := d, index, position := order.position device, block, qos }
      disks vm config devices order rest ix

end VmDescriptor.Encoder
