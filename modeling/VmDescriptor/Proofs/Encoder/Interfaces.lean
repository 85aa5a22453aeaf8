import VmDescriptor.Encoder.Interfaces
import VmDescriptor.Proofs.Encoder.Basic

/-!
What the encoders of network interfaces write.
-/

namespace VmDescriptor.Encoder

open Descriptor (NicBacking)
open Program Text Xml

lemma writes_driver (queues name : Option String) :
    Writes (driver queues name) (Descriptor.driverNodes queues name) := by
  intro d
  unfold driver Descriptor.driverNodes
  cases queues with
  | none =>
    cases name with
    | none => rfl
    | some name => simp [when, Descriptor.flag, attributeIf, Node.leaf]
  | some queues => cases name <;> simp [when, attributeIf, Node.leaf]

/-- A bridged NIC is written in an element without content. -/
lemma run_bridge (d : Draft) (vm : VirtualMachine) (nic : Nic) (backing : Option NicBacking) :
    (bridge vm nic backing).run (d.opened "interface" []) =
      Descriptor.bridgeNodes vm nic backing >>= fun ns =>
        pure ((), (d.opened "interface" [("type", "bridge")]).add ns) := by
  simp [bridge, Descriptor.bridgeNodes, Descriptor.flag, writes_driver]

lemma writes_vlan (id : UInt32) :
    Writes (vlan id.toNat) [.element "vlan" [] [.leaf "tag" [("id", decimal id.toNat)]]] := by
  intro d
  simp [vlan]

lemma run_hostdev (d : Draft) (backing : Option NicBacking) :
    (hostdev backing).run (d.opened "interface" []) =
      pure ((), (d.opened "interface" [("type", "hostdev"), ("managed", "no")]).add
        (Descriptor.hostdevNodes backing)) := by
  simp [hostdev, Descriptor.hostdevNodes, Descriptor.flag, writes_whenSome writes_vlan]

lemma writes_filter (f : NetworkFilter) (parameters : List FilterParameter) :
    Writes (filter f parameters) [.element "filterref" [("filter", f.name)]
      (parameters.map fun p => .leaf "parameter" [("name", p.name), ("value", p.value)])] := by
  intro d
  simp [filter]

lemma writes_sendBuffer (size : String) :
    Writes (sendBuffer size) [.element "tune" [] [.withText "sndbuf" size]] := by
  intro d
  simp [sendBuffer]

lemma writes_limit (name : String) (b : Bandwidth) :
    Writes (limit name b) [Descriptor.limitNode name b] :=
  writes_leaf name [("average", decimal b.average.toNat), ("burst", decimal b.burst.toNat),
    ("peak", decimal b.peak.toNat)]

lemma writes_bandwidth (backing : Option NicBacking) :
    Writes (bandwidth (backing.bind (·.profile.qos))) [Descriptor.bandwidth backing] := by
  intro d
  simp [bandwidth, Descriptor.bandwidth, writes_whenSome (writes_limit _)]

section

variable (vm : VirtualMachine)

lemma encodes_interface (device : InterfaceDevice) (nic : Nic) (backing : Option NicBacking)
    (position : Nat) :
    Encodes (interface vm device nic backing position)
      (do return [← Descriptor.interface vm device nic backing position]) := by
  intro d
  have hfilter := writes_whenSome
    (fun e : NetworkFilter × List FilterParameter => writes_filter e.1 e.2)
  unfold interface Descriptor.interface
  cases device.kind with
  | bridge =>
    simp [run_bridge, hfilter, writes_whenSome writes_sendBuffer, writes_bandwidth,
      Descriptor.filterNodes, Descriptor.sendBuffer, Descriptor.flag]
  | hostdev =>
    simp [run_hostdev, hfilter, writes_whenSome writes_sendBuffer, writes_bandwidth,
      Descriptor.filterNodes, Descriptor.sendBuffer, Descriptor.flag]

lemma encodes_interfaceOf (order : BootOrder) (device : InterfaceDevice) :
    Encodes (interfaceOf vm order device) (Descriptor.interfaceNodes vm order device) := by
  intro d
  unfold interfaceOf Descriptor.interfaceNodes
  cases vm.nicOf? device.device.id with
  | none => rfl
  | some nic => simp [encodes_interface]

end

end VmDescriptor.Encoder
