import VmDescriptor.Machine

/-!
The buses that a guest sees its disks on, and the names that disks get there.

A disk name is a stem of two letters, fixed by the bus, and letters for the disk's index: `a`
to `z`, then `aa`, `ab` and so on, which is the bijective numeral of the index in base 26.
-/

namespace VmDescriptor

/-- The bus named in the target of a disk. -/
inductive TargetBus where
  | ide
  | virtio
  | scsi
  | sata
  | fdc
  deriving DecidableEq, Repr

namespace TargetBus

def all : List TargetBus := [.ide, .virtio, .scsi, .sata, .fdc]

def name : TargetBus → String
  | .ide => "ide"
  | .virtio => "virtio"
  | .scsi => "scsi"
  | .sata => "sata"
  | .fdc => "fdc"

/-- The first letters of the names of disks on the bus. -/
def stem : TargetBus → String
  | .ide => "hd"
  | .virtio => "vd"
  | .scsi | .sata => "sd"
  | .fdc => "fd"

/-- The bus of a disk interface; sPAPR disks have none. -/
def ofDisk? : DiskInterface → Option TargetBus
  | .ide => some .ide
  | .virtio => some .virtio
  | .virtioScsi => some .scsi
  | .spaprVscsi => none

/-- The bus of a CD-ROM interface. -/
def ofCd : CdInterface → TargetBus
  | .ide => .ide
  | .scsi => .scsi
  | .sata => .sata

/-- The lower-case letter at a place of the alphabet. -/
def letter (n : Nat) : Char :=
  .ofNat (97 + n % 26)

/-- The letters of an index. -/
def letters (index : Nat) : List Char :=
  if index < 26 then [letter index]
  else letters (index / 26 - 1) ++ [letter index]
termination_by index

/-- The name of the disk with an index on a bus. -/
def diskName (bus : TargetBus) (index : Nat) : String :=
  bus.stem ++ .ofList (letters index)

end TargetBus

end VmDescriptor
