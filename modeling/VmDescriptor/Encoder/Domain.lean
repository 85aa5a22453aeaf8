import VmDescriptor.Descriptor.Domain
import VmDescriptor.Encoder.Disks
import VmDescriptor.Encoder.Interfaces
import VmDescriptor.Encoder.Peripherals
import VmDescriptor.Encoder.Sections

/-!
Encoders of the devices and of the whole domain.
-/

namespace VmDescriptor.Encoder

/-- The devices of a machine. The path of the last serial console is returned. -/
def devices (fresh : FreshIds) (req : Request) (config : BuildConfig) :
    Encoder (Option String) := do
  let vm := req.vm
  let stored ← Program.lookup (.devicesForVm vm.id)
  let (cs, seen) := DeviceClasses.classify (.initial vm.arch config.cdInterface)
    (RunOnce.devices fresh vm req.payload stored)
  Program.notices cs.notices
  start "devices"
  input vm
  each Descriptor.agentChannels (agentChannel vm.id)
  emulator vm
  let serialPath ← peripherals vm req.host config cs.peripherals
  when (¬ seen.balloon) noBalloon
  whenSome serialPath serial
  whenSome vm.lease (lease vm.id)
  when seen.spice spiceChannel
  let order := Descriptor.bootOrder vm cs
  each cs.interfaces (interfaceOf vm order)
  -- The indices of CD-ROMs are reserved before a disk takes one.
  let ix ← payloadCdroms cs.cdroms cs.indices
  let ix ← userCdroms vm cs.cdroms order ix
  whenSome cs.floppy (floppy vm)
  disks vm.id config cs.disks order (Descriptor.sortedDisks vm.disks) ix
  close
  return serialPath

/-- The domain: the declaration and the root element with its sections. -/
def domain (fresh : FreshIds) (req : Request) (config : BuildConfig) : Encoder Unit := do
  let vm := req.vm
  startDomain
  sizing vm config
  metadata vm
  sysinfo vm
  clock vm config
  powerEvents req.isVolatile
  features vm config
  cpu vm config req.params
  cpuTune req.params
  numaTune req.params
  let serialPath ← devices fresh req config
  os vm config serialPath.isSome
  close

end VmDescriptor.Encoder
