import VmDescriptor.Device
import VmDescriptor.Disk
import VmDescriptor.HostDevice
import VmDescriptor.Network

/-!
An inventory: the stored entities that the descriptor of a machine refers to.

Lists may hold several records with one identifier; the first one counts.
-/

namespace VmDescriptor

/-- The stored entities. -/
structure Inventory where
  devices : List Device
  /-- The devices of each host. -/
  hostDevices : SortedMap Uuid (List HostDevice)
  vnicProfiles : List VnicProfile
  networks : List Network
  networkFilters : List NetworkFilter
  /-- The filter parameters of each NIC. -/
  filterParameters : SortedMap Uuid (List FilterParameter)
  /-- The display network of each cluster. -/
  displayNetworks : SortedMap Uuid Uuid
  storageDomains : List StorageDomain
  /-- The limits of each disk profile. -/
  storageQos : SortedMap Uuid StorageQos

namespace Inventory

/-- The inventory without entities. -/
def empty : Inventory :=
  ⟨[], .empty, [], [], [], .empty, .empty, [], .empty⟩

instance : Inhabited Inventory := ⟨empty⟩

def codec : Codec Inventory := .record <|
  Inventory.mk
    <$> .withDefault "devices" devices (.list Device.codec) []
    <*> .withDefault "host_devices" hostDevices (.byUuid (.list HostDevice.codec)) .empty
    <*> .withDefault "vnic_profiles" vnicProfiles (.list VnicProfile.codec) []
    <*> .withDefault "networks" networks (.list Network.codec) []
    <*> .withDefault "network_filters" networkFilters (.list NetworkFilter.codec) []
    <*> .withDefault "filter_parameters" filterParameters
      (.byUuid (.list FilterParameter.codec)) .empty
    <*> .withDefault "display_networks" displayNetworks (.byUuid .uuid) .empty
    <*> .withDefault "storage_domains" storageDomains (.list StorageDomain.codec) []
    <*> .withDefault "storage_qos" storageQos (.byUuid StorageQos.codec) .empty

/-- The stored devices of a machine. -/
def devicesOf (inv : Inventory) (vm : Uuid) : List Device :=
  inv.devices.filter (·.id.vm = vm)

/-- The devices of a host. -/
def hostDevicesOf (inv : Inventory) (host : Uuid) : List HostDevice :=
  (inv.hostDevices.get? host).getD []

/-- The vNIC profile with an identifier. -/
def vnicProfile? (inv : Inventory) (id : Uuid) : Option VnicProfile :=
  inv.vnicProfiles.find? (·.id = id)

/-- The network with an identifier. -/
def network? (inv : Inventory) (id : Uuid) : Option Network :=
  inv.networks.find? (·.id = id)

/-- The network filter with an identifier. -/
def networkFilter? (inv : Inventory) (id : Uuid) : Option NetworkFilter :=
  inv.networkFilters.find? (·.id = id)

/-- The filter parameters of a NIC. -/
def filterParametersOf (inv : Inventory) (nic : Uuid) : List FilterParameter :=
  (inv.filterParameters.get? nic).getD []

/-- The storage domain with an identifier. -/
def storageDomain? (inv : Inventory) (id : Uuid) : Option StorageDomain :=
  inv.storageDomains.find? (·.id = id)

/-- The limits of a disk profile. -/
def storageQos? (inv : Inventory) (profile : Uuid) : Option StorageQos :=
  inv.storageQos.get? profile

end Inventory

end VmDescriptor
