import VmDescriptor.Machine

/-!
The indices of disks, CD-ROMs and controllers within one descriptor.

The interfaces of one bus family count their disks together, from zero. The interface that
shares its bus with the CD-ROMs skips the indices reserved for them, which must therefore be
reserved before its first disk. virtio-scsi controllers are counted on their own, from a base
that the architecture fixes.

Indices have no bound here. The same counters in words of 32 bits, which a build stops at when
they overflow, are in `DiskIndices.Words`.
-/

namespace VmDescriptor

/-- The index of the user's CD-ROM on a bus. -/
def CdInterface.cdromIndex : CdInterface → Nat
  | .ide | .scsi => 2
  | .sata => 0

/-- The index of payload CD-ROMs, on every bus. -/
def CdInterface.payloadIndex (_ : CdInterface) : Nat := 1

/-- The first index of the controllers of a disk interface, if the architecture has them. -/
def controllerBase? (arch : Architecture) (interface : DiskInterface) : Option Nat :=
  match arch.family, interface with
  | .x86, .ide | .x86, .virtioScsi => some 0
  | .ppc, .spaprVscsi => some 0
  | .ppc, .virtioScsi => some 1
  | _, _ => none

/-- The disk interfaces that count their disks together. -/
inductive BusFamily where
  | ide
  | virtio
  | scsi
  deriving DecidableEq, Repr

/-- The family of a disk interface. -/
def DiskInterface.family : DiskInterface → BusFamily
  | .ide => .ide
  | .virtio => .virtio
  | .virtioScsi | .spaprVscsi => .scsi

/-- The indices given out so far. -/
structure DiskIndices where
  cd : CdInterface
  /-- The index reserved for payload CD-ROMs. -/
  payload : Option Nat
  /-- The index reserved for the user's CD-ROM. -/
  cdrom : Option Nat
  /-- The last index given out in each family. -/
  last : BusFamily → Option Nat
  nextController : Nat

namespace DiskIndices

/-- No index has been given out. -/
def initial (arch : Architecture) (cd : CdInterface) : DiskIndices where
  cd := cd
  payload := none
  cdrom := none
  last _ := none
  nextController := (controllerBase? arch .virtioScsi).getD 0

/-- Gives out the index of the next virtio-scsi controller. -/
def takeController (ix : DiskIndices) : Nat × DiskIndices :=
  (ix.nextController, { ix with nextController := ix.nextController + 1 })

/-- Reserves the index of payload CD-ROMs. -/
def reservePayload (ix : DiskIndices) : Nat × DiskIndices :=
  (ix.cd.payloadIndex, { ix with payload := some ix.cd.payloadIndex })

/-- Reserves the index of the user's CD-ROM. -/
def reserveCdrom (ix : DiskIndices) : Nat × DiskIndices :=
  (ix.cd.cdromIndex, { ix with cdrom := some ix.cd.cdromIndex })

/-- The indices that a disk interface must skip. -/
def reserved (ix : DiskIndices) (interface : DiskInterface) : List Nat :=
  if ix.cd.diskInterface? = some interface then ix.payload.toList ++ ix.cdrom.toList else []

/-- The least number from `n` on that is not in the list. -/
def leastFree (taken : List Nat) (n : Nat) : Nat :=
  if n ∈ taken then leastFree (taken.erase n) (n + 1) else n
termination_by taken.length
decreasing_by
  have := List.length_pos_of_mem ‹n ∈ taken›
  rw [List.length_erase_of_mem ‹n ∈ taken›]
  omega

/-- Gives out the next index of a disk interface. -/
def take (ix : DiskIndices) (interface : DiskInterface) : Nat × DiskIndices :=
  let family := interface.family
  let index := leastFree (ix.reserved interface) ((ix.last family).elim 0 (· + 1))
  (index, { ix with last := fun f => if f = family then some index else ix.last f })

end DiskIndices

end VmDescriptor
