import VmDescriptor.VirtualMachine

/-!
The boot order of the devices of a machine.

Managed devices get positions from 1 on, following the boot sequence: every disk device whose
disk is bootable, in device order; the first CD-ROM; every plugged NIC that has an interface
device, in the order of the NICs. Every other managed device gets position 0, which means
that it is not booted from. Unmanaged devices keep the position they are stored with.

Positions have no bound here; `BootOrder.Words` counts them in words of 32 bits.
-/

namespace VmDescriptor

/-- The recomputed positions; of several entries for a device the first one counts. -/
structure BootOrder where
  positions : List (DeviceId × Nat)

namespace BootOrder

/-- The position of a device. -/
def position (order : BootOrder) (d : Device) : Nat :=
  (order.positions.lookup d.id).getD d.bootOrder.toNat

/-- The order with a new position for a device. -/
def set (order : BootOrder) (id : DeviceId) (position : Nat) : BootOrder :=
  ⟨(id, position) :: order.positions⟩

/-- The identities of the managed devices among some. -/
def managed (devices : List Device) : List DeviceId :=
  (devices.filter (·.managed)).map (·.id)

/-- Whether a disk of the machine with this identity is bootable. -/
def isBootable (disks : List Disk) (id : DeviceId) : Bool :=
  disks.any fun disk => disk.id = id.device ∧ disk.attachment.boot

/-- The order so far with the last position that has been given out. -/
structure Numbering where
  last : Nat
  order : BootOrder

/-- Gives the next position to a device. -/
def Numbering.assign (n : Numbering) (id : DeviceId) : Numbering :=
  ⟨n.last + 1, n.order.set id (n.last + 1)⟩

section

variable {σ : Type} (assign : σ → DeviceId → σ)

/-- Assigns to a device if a condition holds. -/
def assignIf (c : Prop) [Decidable c] (s : σ) (id : DeviceId) : σ :=
  if c then assign s id else s

/-- Assigns to the devices of a class: to the bootable disks, to the first CD-ROM, or to the
interfaces of the plugged NICs. -/
def assignClass (diskIds cdromIds interfaceIds : List DeviceId) (disks : List Disk)
    (nics : List Nic) (s : σ) : BootClass → σ
  | .disk => diskIds.foldl (fun s id => assignIf assign (isBootable disks id) s id) s
  | .cdrom =>
    match cdromIds with
    | id :: _ => assign s id
    | [] => s
  | .network => (nics.filter (·.plugged)).foldl (fun s nic =>
      assignIf assign (⟨nic.id, nic.vm⟩ ∈ interfaceIds) s ⟨nic.id, nic.vm⟩) s

end

/-- Computes the order for devices of the three classes and the machine's disks and NICs, with the
classes of a boot sequence. -/
def compute (classes : List BootClass) (diskDevices cdroms interfaces : List Device)
    (disks : List Disk) (nics : List Nic) : BootOrder :=
  let diskIds := managed diskDevices
  let cdromIds := managed cdroms
  let interfaceIds := managed interfaces
  let unbooted : BootOrder := ⟨(diskIds ++ cdromIds ++ interfaceIds).map fun id => (id, 0)⟩
  (classes.foldl (assignClass Numbering.assign diskIds cdromIds interfaceIds disks nics)
    ⟨0, unbooted⟩).order

end BootOrder

end VmDescriptor
