import VmDescriptor.Descriptor.Interfaces
import VmDescriptor.Encoder.Parts

/-!
Encoders of network interfaces.
-/

namespace VmDescriptor.Encoder

open Descriptor (NicBacking nicBacking driver?)
open Text

/-- The driver of a bridged NIC: the number of queues and the backend. -/
def driver (queues name : Option String) : Encoder Unit :=
  when (queues.isSome ∨ name.isSome) do
    start "driver"
    addAttributeIf "queues" queues
    addAttributeIf "name" (if queues.isSome then name.or (some "vhost") else name)
    close

/-- A NIC on a bridge of the host, in the element that is open. -/
def bridge (vm : VirtualMachine) (nic : Nic) (backing : Option NicBacking) : Encoder Unit := do
  addAttribute "type" "bridge"
  leaf "model" [("type", (nic.model.getD .rtl8139).libvirtName)]
  leaf "link" [("state", if nic.linked then "up" else "down")]
  whenSome (backing.bind (·.network)) fun network => leaf "source" [("bridge", network.bridge)]
  let name ← driver? vm nic
  driver (backing.bind (·.profile.customProperties.get? "queues")) name

/-- The VLAN of a NIC that is a device of the host. -/
def vlan (id : Nat) : Encoder Unit := do
  start "vlan"
  leaf "tag" [("id", decimal id)]
  close

/-- A NIC that is a device of the host, in the element that is open. -/
def hostdev (backing : Option NicBacking) : Encoder Unit := do
  addAttribute "type" "hostdev"
  addAttribute "managed" "no"
  leaf "driver" [("name", "vfio")]
  whenSome ((backing.bind (·.network)).bind (·.vlan)) (vlan ·.toNat)

/-- A filter with the parameters that the NIC passes to it. -/
def filter (filter : NetworkFilter) (parameters : List FilterParameter) : Encoder Unit := do
  start "filterref"
  addAttribute "filter" filter.name
  each parameters fun p => leaf "parameter" [("name", p.name), ("value", p.value)]
  close

/-- The size of the send buffer. -/
def sendBuffer (size : String) : Encoder Unit := do
  start "tune"
  withText "sndbuf" size
  close

/-- The limit on one direction. -/
def limit (name : String) (b : Bandwidth) : Encoder Unit :=
  leaf name [("average", decimal b.average.toNat), ("burst", decimal b.burst.toNat),
    ("peak", decimal b.peak.toNat)]

/-- The limits on the bandwidth of a NIC. -/
def bandwidth (qos : Option NetworkQos) : Encoder Unit := do
  start "bandwidth"
  whenSome (qos.bind (·.inbound)) (limit "inbound")
  whenSome (qos.bind (·.outbound)) (limit "outbound")
  close

/-- An interface. -/
def interface (vm : VirtualMachine) (d : InterfaceDevice) (nic : Nic)
    (backing : Option NicBacking) (position : Nat) : Encoder Unit := do
  start "interface"
  match d.kind with
  | .bridge => bridge vm nic backing
  | .hostdev => hostdev backing
  address d.device.address
  bootOrder position
  leaf "mac" [("address", nic.mac)]
  whenSome (backing.bind (·.filter)) fun (f, parameters) => filter f parameters
  whenSome (vm.customProperty? "sndbuf") sendBuffer
  bandwidth (backing.bind (·.profile.qos))
  close

/-- The interface of a device, if the machine has its NIC; else this is reported. -/
def interfaceOf (vm : VirtualMachine) (order : BootOrder) (d : InterfaceDevice) :
    Encoder Unit :=
  match vm.nicOf? d.device.id with
  | none => Program.notice (.interfaceWithoutNic d.device.id.device)
  | some nic => do
    let backing ← nicBacking nic
    interface vm d nic backing (order.position d.device)

end VmDescriptor.Encoder
