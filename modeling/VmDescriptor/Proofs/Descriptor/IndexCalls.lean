import VmDescriptor.Proofs.DeviceClasses.Distribution
import VmDescriptor.Proofs.Descriptor.Disks
import VmDescriptor.Proofs.DiskIndices.Words

/-!
The calls of a build on the indices of its descriptor.

While the devices are distributed each virtio-scsi controller takes an index. Of the elements
that follow, each CD-ROM reserves one and each disk with a device takes one. So a descriptor holds
no more indices than there are devices and disks, and one of a CD-ROM without a device.
-/

namespace VmDescriptor

namespace DiskIndices

/-- Some calls return some indices and lead from a state to another. -/
inductive Yields : DiskIndices → List Call → List Nat → DiskIndices → Prop where
  | nil (ix : DiskIndices) : Yields ix [] [] ix
  | cons {ix ix' : DiskIndices} (c : Call) {rest : List Call} {returned : List Nat}
      (h : Yields (ix.perform c).2 rest returned ix') :
      Yields ix (c :: rest) ((ix.perform c).1 :: returned) ix'

section

variable {ix ix' ix'' : DiskIndices} {calls calls' : List Call} {returned returned' : List Nat}

lemma Yields.append (h : Yields ix calls returned ix') (h' : Yields ix' calls' returned' ix'') :
    Yields ix (calls ++ calls') (returned ++ returned') ix'' := by
  induction h with
  | nil => exact h'
  | cons c _ ih => exact .cons c (ih h')

end

end DiskIndices

namespace Descriptor

open DiskIndices

section

variable (vm : VirtualMachine) (cd : CdInterface) (devices : List Device)

end

end Descriptor

end VmDescriptor
