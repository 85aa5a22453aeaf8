import VmDescriptor.BootOrder
import VmDescriptor.Descriptor.Parts
import VmDescriptor.DeviceClasses
import VmDescriptor.Vhost

/-!
Network interfaces.

An interface is described for an interface device whose NIC the machine has. What stands
behind the NIC is looked up step by step; whatever is missing on the way is left out.
-/

namespace VmDescriptor.Descriptor

open Text Xml

/-- What stands behind a NIC. -/
structure NicBacking where
  profile : VnicProfile
  network : Option Network
  /-- The filter with the parameters that the NIC passes to it. -/
  filter : Option (NetworkFilter × List FilterParameter)

/-- Looks up the filter of a profile and the NIC's parameters for it. -/
def nicFilter (nic : Nic) (profile : VnicProfile) :
    Program (Option (NetworkFilter × List FilterParameter)) := do
  let some id := profile.filter | return none
  let some filter ← .lookup (.networkFilter id) | return none
  return some (filter, ← .lookup (.filterParameters nic.id))

/-- Looks up what stands behind a NIC; a profile or network that is missing is reported. -/
def nicBacking (nic : Nic) : Program (Option NicBacking) := do
  let some id := nic.profile | return none
  match ← .lookup (.vnicProfile id) with
  | none =>
    .notice (.missingProfile nic.id id)
    return none
  | some profile =>
    let network ← .lookup (.network profile.network)
    if network.isNone then .notice (.missingNetwork nic.id profile.network)
    return some { profile, network, filter := ← nicFilter nic profile }

/-- The backend that the machine's `vhost` property chooses for a NIC; an invalid setting is
reported. -/
def driver? (vm : VirtualMachine) (nic : Nic) : Program (Option String) := do
  let some property := vm.customProperty? "vhost" | return none
  let some network := nic.networkName | return none
  match Vhost.setting? property network with
  | none => return none
  | some (.invalid value) =>
    .notice (.invalidVhost network value)
    return none
  | some setting => return setting.driver?

/-- The driver of a bridged NIC: the chosen backend, and the number of queues. -/
def driverNodes (queues driver : Option String) : List Node :=
  match queues, driver with
  | none, none => []
  | none, some name => [flag "driver" "name" name]
  | some queues, driver =>
    [.leaf "driver" [("queues", queues), ("name", driver.getD "vhost")]]

/-- A NIC on a bridge of the host. -/
def bridgeNodes (vm : VirtualMachine) (nic : Nic) (backing : Option NicBacking) :
    Program (List Node) := do
  let driver ← driver? vm nic
  let model := (nic.model.getD .rtl8139).libvirtName
  let source := (backing.bind (·.network)).toList.map fun network =>
    flag "source" "bridge" network.bridge
  let queues := backing.bind (·.profile.customProperties.get? "queues")
  return [flag "model" "type" model, flag "link" "state" (if nic.linked then "up" else "down")] ++
    source ++ driverNodes queues driver

/-- A NIC that is a device of the host. -/
def hostdevNodes (backing : Option NicBacking) : List Node :=
  let vlan := (backing.bind (·.network)).bind (·.vlan)
  flag "driver" "name" "vfio" :: vlan.toList.map fun id =>
    .element "vlan" [] [flag "tag" "id" (decimal id.toNat)]

/-- The filter of a NIC with its parameters. -/
def filterNodes (backing : Option NicBacking) : List Node :=
  (backing.bind (·.filter)).toList.map fun (filter, parameters) =>
    .element "filterref" [("filter", filter.name)] (parameters.map fun p =>
      .leaf "parameter" [("name", p.name), ("value", p.value)])

/-- The limit on one direction. -/
def limitNode (name : String) (b : Bandwidth) : Node :=
  .leaf name [("average", decimal b.average.toNat), ("burst", decimal b.burst.toNat),
    ("peak", decimal b.peak.toNat)]

/-- The limits on the bandwidth of a NIC. -/
def bandwidth (backing : Option NicBacking) : Node :=
  let qos := backing.bind (·.profile.qos)
  .element "bandwidth" [] <|
    ((qos.bind (·.inbound)).toList.map (limitNode "inbound")) ++
    ((qos.bind (·.outbound)).toList.map (limitNode "outbound"))

/-- The size of the send buffer that the machine asks for. -/
def sendBuffer (vm : VirtualMachine) : List Node :=
  (vm.customProperty? "sndbuf").toList.map fun size =>
    .element "tune" [] [.withText "sndbuf" size]

/-- An interface. -/
def interface (vm : VirtualMachine) (d : InterfaceDevice) (nic : Nic)
    (backing : Option NicBacking) (position : Nat) : Program Node := do
  let (attributes, first) ← match d.kind with
    | .bridge => do pure ([("type", "bridge")], ← bridgeNodes vm nic backing)
    | .hostdev => pure ([("type", "hostdev"), ("managed", "no")], hostdevNodes backing)
  return .element "interface" attributes <|
    first ++ addressNodes d.device.address ++ bootNodes position ++
      [flag "mac" "address" nic.mac] ++ filterNodes backing ++ sendBuffer vm ++
      [bandwidth backing]

/-- The interface of a device, if the machine has its NIC; else this is reported. -/
def interfaceNodes (vm : VirtualMachine) (order : BootOrder) (d : InterfaceDevice) :
    Program (List Node) := do
  match vm.nicOf? d.device.id with
  | none =>
    .notice (.interfaceWithoutNic d.device.id.device)
    return []
  | some nic =>
    let backing ← nicBacking nic
    return [← interface vm d nic backing (order.position d.device)]

end VmDescriptor.Descriptor
