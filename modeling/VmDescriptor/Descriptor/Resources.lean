import VmDescriptor.BuildConfig
import VmDescriptor.CreateParams
import VmDescriptor.Descriptor.Parts
import VmDescriptor.Program

/-!
The resources of a domain: its identity, its memory and its processors.
-/

namespace VmDescriptor.Descriptor

open Text Xml

/-- The size of the guest's memory in KiB. -/
def memoryKib (vm : VirtualMachine) : Nat :=
  vm.memory.toNat * 1024

/-- The name and size of the domain: memory in KiB and vCPUs. The memory may grow only if it
can be plugged in and its greatest size is another one. -/
def sizing (vm : VirtualMachine) (config : BuildConfig) : Program (List Node) := do
  let current ← .exact vm.cpuCount?
  let greatest ← .exact (config.maxCpuCount? vm)
  let memory := decimal (memoryKib vm)
  let ioThreads :=
    if vm.ioThreads = 0 then []
    else [Node.withText "iothreads" (decimal vm.ioThreads.toNat)]
  let maxMemory :=
    if config.hotPlugMemory && vm.memory != vm.maxMemory then
      [Node.element "maxMemory" [("slots", decimal config.settings.maxMemorySlots.toNat)]
        [.text (decimal (vm.maxMemory.toNat * 1024))]]
    else []
  return [.withText "name" vm.name, .withText "uuid" vm.id.text, .withText "memory" memory,
      .withText "currentMemory" memory] ++
    ioThreads ++ maxMemory ++
    [.element "vcpu" [("current", decimal current)] [.text (decimal greatest)]]

/-- The CPU model: a mode on x86 where the host's own CPU is asked for. -/
def cpuModel (vm : VirtualMachine) (params : CreateParams) :
    List (String × String) × List Node :=
  let model := [Node.withText "model" params.cpuType]
  match vm.arch.family with
  | .x86 =>
    let exactMatch := ("match", "exact")
    if params.cpuType = "hostPassthrough" then ([exactMatch, ("mode", "host-passthrough")], [])
    else if params.cpuType = "hostModel" then ([exactMatch, ("mode", "host-model")], [])
    else ([exactMatch], model)
  | .ppc => ([], model)

/-- The topology of the CPUs, with the sockets that the machine may grow to. -/
def topology (vm : VirtualMachine) (config : BuildConfig) : Program (List Node) := do
  if config.settings.sendSmp then
    let greatest ← .exact (config.maxCpuCount? vm)
    let cores := vm.coresPerSocket.toNat
    let threads := vm.threadsPerCore.toNat
    let sockets := greatest / max cores 1 / max threads 1
    return [.leaf "topology" [("cores", decimal cores), ("threads", decimal threads),
      ("sockets", decimal sockets)]]
  else return []

/-- A NUMA cell; its memory in KiB must fit 64 bits. -/
def numaCell (node : NumaNode) : Program Node := do
  let memory ← .exact (product? UInt64.size node.memory.toNat 1024)
  return .leaf "cell" [("cpus", node.cpus), ("memory", decimal memory)]

/-- The NUMA cells of the guest. -/
def numa (params : CreateParams) : Program (List Node) :=
  match params.numaNodes with
  | none => return []
  | some nodes => return [.element "numa" [] (← nodes.mapM numaCell)]

/-- The processors of the guest. -/
def cpu (vm : VirtualMachine) (config : BuildConfig) (params : CreateParams) :
    Program Node := do
  let (attributes, model) := cpuModel vm params
  let topology ← topology vm config
  let numa ← numa params
  return .element "cpu" attributes (model ++ topology ++ numa)

/-- The host CPUs of the pinned vCPUs. -/
def cpuTune (params : CreateParams) : List Node :=
  match params.cpuPinning with
  | none => []
  | some pinning =>
    [.element "cputune" [] (pinning.entries.map fun (vcpu, cpus) =>
      .leaf "vcpupin" [("vcpu", decimal vcpu.toNat), ("cpuset", cpus)])]

/-- The host nodes that back the guest's memory. -/
def numaTune (params : CreateParams) : List Node :=
  match params.numaTune with
  | none => []
  | some tune =>
    if tune.nodeset.isNone && tune.memoryNodes.isNone then []
    else
      let memory := tune.nodeset.toList.map fun nodeset =>
        Node.leaf "memory" [("mode", tune.mode), ("nodeset", nodeset)]
      let nodes := (tune.memoryNodes.getD []).map fun node =>
        Node.leaf "memnode" [("mode", tune.mode), ("cellid", decimal node.cell.toNat),
          ("nodeset", node.nodeset)]
      [.element "numatune" [] (memory ++ nodes)]

end VmDescriptor.Descriptor
