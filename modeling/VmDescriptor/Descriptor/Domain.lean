import VmDescriptor.Descriptor.Disks
import VmDescriptor.Descriptor.Interfaces
import VmDescriptor.Descriptor.Peripherals
import VmDescriptor.Descriptor.Platform
import VmDescriptor.Descriptor.Resources

/-!
The domain element: all sections of a descriptor in their order.

The devices are described after the sections that do not depend on them and before the `os`
section, which depends on whether there is a serial console.
-/

namespace VmDescriptor

open Xml

/-- What is asked of a build. -/
structure Request where
  vm : VirtualMachine
  /-- The host that the machine is about to start on. -/
  host : Uuid
  params : CreateParams
  /-- The payload that replaces the stored one if the machine is run once. -/
  payload : Option Device
  /-- Whether the run ends when the guest reboots. -/
  isVolatile : Bool

namespace Descriptor

/-- The elements before the peripherals. -/
def fixedDevices (vm : VirtualMachine) : List Node :=
  [input vm] ++ agentChannels.map (agentChannel vm.id) ++ emulator vm

/-- The elements between the peripherals and the interfaces. -/
def dependentDevices (vm : VirtualMachine) (cs : DeviceClasses) : List Node :=
  (if cs.hasBalloon then [] else [noBalloon]) ++
    cs.serialConsole?.toList.map (serial vm.id) ++
    vm.lease.toList.map (lease vm.id) ++
    (if cs.hasSpice then [spiceChannel] else [])

/-- The boot order of classified devices. -/
def bootOrder (vm : VirtualMachine) (cs : DeviceClasses) : BootOrder :=
  .compute vm.bootSequence cs.disks cs.cdroms (cs.interfaces.map (·.device)) vm.disks vm.nics

/-- The devices of a machine by class: those of the stored list, adapted to the start. -/
def classified (fresh : FreshIds) (req : Request) (config : BuildConfig)
    (stored : List Device) : DeviceClasses :=
  .ofDevices (.initial req.vm.arch config.cdInterface)
    (RunOnce.devices fresh req.vm req.payload stored)

/-- The elements of classified devices, in order. -/
def deviceNodes (req : Request) (config : BuildConfig) (cs : DeviceClasses) :
    Program (List Node) := do
  let vm := req.vm
  .notices cs.notices
  let peripherals ← cs.peripherals.mapM (peripheral vm req.host config)
  let order := bootOrder vm cs
  let interfaces ← cs.interfaces.mapM (interfaceNodes vm order)
  let (payloads, ix) := payloadCdroms cs.cdroms cs.indices
  let (cdrom, ix) := userCdroms vm cs.cdroms order ix
  let disks ← disks vm config cs.disks order ix
  return fixedDevices vm ++ peripherals.flatten ++ dependentDevices vm cs ++
    interfaces.flatten ++ payloads ++ cdrom ++ cs.floppy.toList.map (floppy vm) ++ disks

/-- The domain element. -/
def domain (fresh : FreshIds) (req : Request) (config : BuildConfig) : Program Node := do
  let vm := req.vm
  let sizing ← sizing vm config
  let cpu ← cpu vm config req.params
  let stored ← .lookup (.devicesForVm vm.id)
  let cs := classified fresh req config stored
  let devices ← deviceNodes req config cs
  return .element "domain" rootAttributes <|
    sizing ++ [metadata vm] ++ sysinfo vm ++ [clock vm config] ++
    powerEvents req.isVolatile ++ features vm config ++ [cpu] ++ cpuTune req.params ++
    numaTune req.params ++ [.element "devices" [] devices] ++
    [os vm config cs.serialConsole?.isSome]

end Descriptor

end VmDescriptor
