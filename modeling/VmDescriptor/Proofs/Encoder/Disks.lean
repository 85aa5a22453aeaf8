import VmDescriptor.Encoder.Disks
import VmDescriptor.Proofs.Encoder.Basic

/-!
What the encoders of CD-ROMs, floppies and disks write.

The loops over CD-ROMs and disks also hand on the indices that they give out.
-/

namespace VmDescriptor.Encoder

open Descriptor (PlacedDisk)
open Program Text Xml

/-! ### Removable media -/

/-- The start of a drive leaves it open, with its source. -/
lemma run_startRemovable (d : Draft) (device source : String) :
    (startRemovable device source).run d =
      pure ((), (d.opened "disk" [("type", "file"), ("device", device), ("snapshot", "no")]).add
        [.leaf "source" [("file", source), ("startupPolicy", "optional")]]) := by
  simp [startRemovable]

@[simp] lemma writes_target (bus : TargetBus) (index : Nat) :
    Writes (target bus index) [Descriptor.target bus index] :=
  writes_leaf "target" [("dev", bus.diskName index), ("bus", bus.name)]

lemma writes_payloadCdrom (cd : CdInterface) (index : Nat) :
    Writes (payloadCdrom cd index) [Descriptor.payloadCdrom cd index] := by
  intro d
  simp [payloadCdrom, Descriptor.payloadCdrom, Descriptor.removable, run_startRemovable,
    writes_when (writes_address (.drive 0 index))]

lemma writes_userCdrom (vm : VirtualMachine) (cd : CdInterface) (index : Nat)
    (device : Option Device) (order : BootOrder) :
    Writes (userCdrom vm cd index device order)
      [Descriptor.userCdrom vm cd index device order] := by
  intro d
  cases device with
  | none =>
    simp [userCdrom, Descriptor.userCdrom, Descriptor.removable, run_startRemovable]
  | some device =>
    simp [userCdrom, Descriptor.userCdrom, Descriptor.removable, run_startRemovable]

lemma writes_floppy (vm : VirtualMachine) (device : Device) :
    Writes (floppy vm device) [Descriptor.floppy vm device] := by
  intro d
  simp [floppy, Descriptor.floppy, Descriptor.removable, run_startRemovable]

/-- The elements and indices after one more CD-ROM with a payload. -/
def addPayload (s : List Node × DiskIndices) : List Node × DiskIndices :=
  let (index, ix) := s.2.reservePayload
  (s.1 ++ [Descriptor.payloadCdrom ix.cd index], ix)

lemma run_nextPayload (d : Draft) (s : List Node × DiskIndices) :
    (nextPayload s.2).run (d.add s.1) = pure ((addPayload s).2, d.add (addPayload s).1) := by
  simp [nextPayload, addPayload, writes_payloadCdrom]

lemma run_payloadCdroms (d : Draft) (cdroms : List Device) (ix : DiskIndices) :
    (payloadCdroms cdroms ix).run d =
      pure ((Descriptor.payloadCdroms cdroms ix).2,
        d.add (Descriptor.payloadCdroms cdroms ix).1) := by
  have hloop (devices : List Device) (s : List Node × DiskIndices) :
      (devices.foldlM (fun ix _ => nextPayload ix) s.2).run (d.add s.1) =
        pure ((devices.foldl (fun s _ => addPayload s) s).2,
          d.add (devices.foldl (fun s _ => addPayload s) s).1) := by
    induction devices generalizing s with
    | nil => simp
    | cons device rest ih => simp [run_nextPayload, ih]
  exact hloop (cdroms.filter Device.isPayload) ([], ix)

lemma run_userCdroms (d : Draft) (vm : VirtualMachine) (cdroms : List Device) (order : BootOrder)
    (ix : DiskIndices) :
    (userCdroms vm cdroms order ix).run d =
      pure ((Descriptor.userCdroms vm cdroms order ix).2,
        d.add (Descriptor.userCdroms vm cdroms order ix).1) := by
  unfold userCdroms Descriptor.userCdroms
  simp only []
  split
  · simp [writes_userCdrom]
  · simp

/-! ### Disks -/

section

variable (p : PlacedDisk)

/-- The word for how the data of a disk are stored. -/
def storage : String :=
  match p.disk.backend with
  | .image _ => if p.block then "block" else "file"
  | .lun _ => "block"
  | .network _ => "network"

lemma run_addDiskType (d : Draft) (attributes : List (String × String)) :
    (addDiskType p).run (d.opened "disk" attributes) =
      pure ((), d.opened "disk" (attributes ++ [("type", storage p)])) := by
  unfold addDiskType storage
  cases p.disk.backend <;> simp

lemma run_addDiskDevice (d : Draft) :
    (addDiskDevice p).run (d.opened "disk" [("snapshot", "no"), ("type", storage p)]) =
      pure ((), d.opened "disk" (Descriptor.diskAttributes p)) := by
  -- The attributes are the first two, and those that the interface decides on.
  change _ = pure ((), d.opened "disk" ([("snapshot", "no"), ("type", storage p)] ++ _))
  unfold addDiskDevice
  cases p.disk.attachment.interface with
  | virtio => simp
  | ide => simp
  | virtioScsi =>
    by_cases hlun : p.disk.backend.isLun && p.disk.scsiPassthrough
    · simp [hlun]
    · simp [hlun]
  | spaprVscsi => simp

lemma writes_diskTarget : Writes (diskTarget p) [Descriptor.diskTarget p] := by
  intro d
  unfold diskTarget Descriptor.diskTarget
  cases TargetBus.ofDisk? p.disk.attachment.interface with
  | none => simp
  | some bus => simp

lemma writes_diskSource : Writes (diskSource p) [Descriptor.diskSource p] := by
  intro d
  unfold diskSource Descriptor.diskSource
  cases p.disk.backend with
  | image => simp [Node.leaf]
  | lun => simp [Node.leaf]
  | network => simp

lemma run_addBackend (d : Draft) (attributes : List (String × String)) :
    (addBackend p).run (d.opened "driver" attributes) =
      pure ((), d.opened "driver" (attributes ++ Descriptor.backendAttributes p)) := by
  unfold addBackend Descriptor.backendAttributes
  cases p.disk.backend <;> simp

lemma encodes_diskDriver (config : BuildConfig) :
    Encodes (diskDriver config p) (do return [← Descriptor.diskDriver config p]) := by
  intro d
  simp [diskDriver, Descriptor.diskDriver, run_addBackend, Node.leaf]

lemma writes_volumeAuth (auth : VolumeAuth) :
    Writes (volumeAuth auth) [.element "auth" [("username", auth.username)]
      [.leaf "secret" [("type", auth.secretType), ("uuid", auth.secret.text)]]] := by
  intro d
  simp [volumeAuth]

lemma encodes_diskPolicy : Encodes (diskPolicy p) (Descriptor.diskPolicy p) := by
  intro d
  unfold diskPolicy Descriptor.diskPolicy
  cases p.disk.backend with
  | image =>
    cases p.qos with
    | none => simp
    | some qos => simp [ioTune]
  | lun => simp
  | network volume => simp [writes_whenSome writes_volumeAuth volume.auth]

lemma encodes_disk (config : BuildConfig) :
    Encodes (disk config p) (do return [← Descriptor.disk config p]) := by
  intro d
  simp [disk, Descriptor.disk, run_addDiskType, run_addDiskDevice, writes_diskTarget,
    writes_diskSource, encodes_diskDriver, encodes_diskPolicy, -Bool.not_eq_true]

end

lemma run_disks (vm : VirtualMachine) (config : BuildConfig) (devices : List Device)
    (order : BootOrder) (ds : List Disk) (ix : DiskIndices) (d : Draft) :
    (disks vm.id config devices order ds ix).run d =
      ((Descriptor.indexedDisks vm.id devices ds ix).filter (·.2.1.managed)).mapM
        (fun (e : Disk × Device × Nat) => do
          let (block, qos) ← Descriptor.diskStorage e.1
          Descriptor.disk config
            { device := e.2.1, disk := e.1, index := e.2.2, position := order.position e.2.1,
              block, qos }) >>=
        fun ns => pure ((), d.add ns) := by
  induction ds generalizing ix d with
  | nil => simp [disks, Descriptor.indexedDisks]
  | cons disk rest ih =>
    cases hdevice : devices.reverse.find? (·.id = ⟨disk.id, vm.id⟩) with
    | none => simp only [disks, Descriptor.indexedDisks, hdevice, ih]
    | some device =>
      by_cases hmanaged : device.managed
      · simp [disks, Descriptor.indexedDisks, hdevice, ih, when, hmanaged, encodes_disk]
      · simp [disks, Descriptor.indexedDisks, hdevice, ih, when, hmanaged]

/-- The loop writes the elements of the disks whose device is managed, at the indices that all
disks with a device take up. -/
lemma encodes_disks (vm : VirtualMachine) (config : BuildConfig) (devices : List Device)
    (order : BootOrder) (ix : DiskIndices) :
    Encodes (disks vm.id config devices order (Descriptor.sortedDisks vm.disks) ix)
      (Descriptor.disks vm config devices order ix) := by
  intro d
  rw [run_disks]
  rfl

end VmDescriptor.Encoder
