import VmDescriptor.Descriptor.Platform
import VmDescriptor.Descriptor.Resources
import VmDescriptor.Encoder.Basic

/-!
Encoders of the sections of a domain other than its devices.
-/

namespace VmDescriptor.Encoder

open Descriptor (memoryKib nonEmpty bootMenuTimeout tuneNamespace vmNamespace)
open Text Xml

/-- The declaration and the start of the root element, which stays open. -/
def startDomain : Encoder Unit := do
  declaration
  start "domain"
  addAttribute "type" "kvm"
  declareNamespace tuneNamespace.1 tuneNamespace.2
  declareNamespace vmNamespace.1 vmNamespace.2

/-! ### Resources -/

/-- The greatest size that the memory may grow to. -/
def maxMemory (vm : VirtualMachine) (config : BuildConfig) : Encoder Unit := do
  start "maxMemory"
  addAttribute "slots" (decimal config.settings.maxMemorySlots.toNat)
  text (decimal (vm.maxMemory.toNat * 1024))
  close

/-- The name and size of the domain. -/
def sizing (vm : VirtualMachine) (config : BuildConfig) : Encoder Unit := do
  withText "name" vm.name
  withText "uuid" vm.id.text
  withText "memory" (decimal (memoryKib vm))
  withText "currentMemory" (decimal (memoryKib vm))
  when (vm.ioThreads ≠ 0) (withText "iothreads" (decimal vm.ioThreads.toNat))
  when (config.hotPlugMemory && vm.memory != vm.maxMemory) (maxMemory vm config)
  start "vcpu"
  let current ← Program.exact vm.cpuCount?
  addAttribute "current" (decimal current)
  let greatest ← Program.exact (config.maxCpuCount? vm)
  text (decimal greatest)
  close

/-- What the guest sees of its CPU, in the element that is open. -/
def cpuModel (vm : VirtualMachine) (params : CreateParams) : Encoder Unit :=
  match vm.arch.family with
  | .x86 => do
    addAttribute "match" "exact"
    if params.cpuType = "hostPassthrough" then addAttribute "mode" "host-passthrough"
    else if params.cpuType = "hostModel" then addAttribute "mode" "host-model"
    else withText "model" params.cpuType
  | .ppc => withText "model" params.cpuType

/-- The topology of the CPUs. -/
def topology (vm : VirtualMachine) (config : BuildConfig) : Encoder Unit := do
  let greatest ← Program.exact (config.maxCpuCount? vm)
  let cores := vm.coresPerSocket.toNat
  let threads := vm.threadsPerCore.toNat
  leaf "topology" [("cores", decimal cores), ("threads", decimal threads),
    ("sockets", decimal (greatest / max cores 1 / max threads 1))]

/-- A NUMA cell. -/
def numaCell (node : NumaNode) : Encoder Unit := do
  start "cell"
  addAttribute "cpus" node.cpus
  let memory ← Program.exact (product? UInt64.size node.memory.toNat 1024)
  addAttribute "memory" (decimal memory)
  close

/-- The NUMA cells of the guest. -/
def numa (nodes : List NumaNode) : Encoder Unit := do
  start "numa"
  each nodes numaCell
  close

/-- The processors of the guest. -/
def cpu (vm : VirtualMachine) (config : BuildConfig) (params : CreateParams) :
    Encoder Unit := do
  start "cpu"
  cpuModel vm params
  when config.settings.sendSmp (topology vm config)
  whenSome params.numaNodes numa
  close

/-- The host CPUs of a pinned vCPU. -/
def pin (vcpu : Nat) (cpus : String) : Encoder Unit := do
  start "vcpupin"
  addAttribute "vcpu" (decimal vcpu)
  addAttribute "cpuset" cpus
  close

/-- The host CPUs of the pinned vCPUs. -/
def cpuTune (params : CreateParams) : Encoder Unit :=
  whenSome params.cpuPinning fun pinning => do
    start "cputune"
    each pinning.entries fun (vcpu, cpus) => pin vcpu.toNat cpus
    close

/-- The host nodes of one cell. -/
def memoryNode (tune : NumaTune) (node : MemoryNode) : Encoder Unit := do
  start "memnode"
  addAttribute "mode" tune.mode
  addAttribute "cellid" (decimal node.cell.toNat)
  addAttribute "nodeset" node.nodeset
  close

/-- The host nodes that back the guest's memory. -/
def numaTune (params : CreateParams) : Encoder Unit :=
  whenSome params.numaTune fun tune =>
    when (tune.nodeset.isSome ∨ tune.memoryNodes.isSome) do
      start "numatune"
      whenSome tune.nodeset fun nodeset =>
        leaf "memory" [("mode", tune.mode), ("nodeset", nodeset)]
      each (tune.memoryNodes.getD []) (memoryNode tune)
      close

/-! ### Platform -/

/-- Metadata that are kept for the machine. -/
def metadata (vm : VirtualMachine) : Encoder Unit := do
  start "metadata"
  startQualified tuneNamespace.1 "qos"
  close
  startQualified vmNamespace.1 "vm"
  start "minGuaranteedMemoryMb"
  addAttribute "type" "int"
  text (decimal vm.guaranteedMemory.toNat)
  close
  withText "clusterVersion" vm.compatibility.text
  startQualified vmNamespace.1 "custom"
  each vm.customProperties.entries fun (key, value) =>
    withText (Writer.qualified vmNamespace.1 key) value
  close
  close
  close

/-- An entry of the system table. -/
def entry (name value : String) : Encoder Unit := do
  start "entry"
  addAttribute "name" name
  text value
  close

/-- The system table of the firmware, on x86. -/
def sysinfo (vm : VirtualMachine) : Encoder Unit :=
  when (vm.arch.family = .x86) do
    start "sysinfo"
    addAttribute "type" "smbios"
    start "system"
    entry "manufacturer" "oVirt"
    entry "product" "OS-NAME:"
    entry "version" "OS-VERSION:"
    entry "serial" "HOST-SERIAL:"
    entry "uuid" vm.id.text
    close
    close

/-- The clock and its timers. -/
def clock (vm : VirtualMachine) (config : BuildConfig) : Encoder Unit := do
  start "clock"
  addAttribute "offset" "variable"
  addAttribute "adjustment" (signedDecimal (vm.clockOffset.getD 0).toInt)
  when config.hyperv (leaf "timer" [("name", "hypervclock"), ("present", "yes")])
  leaf "timer" [("name", "rtc"), ("tickpolicy", "catchup")]
  leaf "timer" [("name", "pit"), ("tickpolicy", "delay")]
  when (vm.arch.family = .x86) (leaf "timer" [("name", "hpet"), ("present", "no")])
  close

/-- What happens when the guest reboots. -/
def powerEvents (isVolatile : Bool) : Encoder Unit :=
  when isVolatile (withText "on_reboot" "destroy")

/-- The features of the hypervisor that Windows guests use. -/
def hyperv : Encoder Unit := do
  start "hyperv"
  leaf "relaxed" [("state", "on")]
  leaf "vapic" [("state", "on")]
  leaf "spinlocks" [("state", "on"), ("retries", "8191")]
  close

/-- The features of the hypervisor, on x86. -/
def features (vm : VirtualMachine) (config : BuildConfig) : Encoder Unit :=
  when (vm.arch.family = .x86 && (vm.acpi || config.hyperv)) do
    start "features"
    when vm.acpi (bare "acpi")
    when config.hyperv hyperv
    close

/-- What the machine boots. -/
def os (vm : VirtualMachine) (config : BuildConfig) (serial : Bool) : Encoder Unit := do
  start "os"
  start "type"
  addAttribute "arch" vm.arch.name
  addAttribute "machine" config.emulatedMachine
  text "hvm"
  close
  whenSome (nonEmpty vm.initrd) (withText "initrd")
  whenSome (nonEmpty vm.kernel) fun kernel => do
    withText "kernel" kernel
    whenSome (nonEmpty vm.kernelParameters) (withText "cmdline")
  when (vm.arch.family = .x86) (leaf "smbios" [("mode", "sysinfo")])
  when vm.bootMenu (leaf "bootmenu" [("enable", "yes"), ("timeout", decimal bootMenuTimeout)])
  when (serial && vm.arch.family = .x86) (leaf "bios" [("useserial", "yes")])
  close

end VmDescriptor.Encoder
