import VmDescriptor.Inventory

/-!
The lookups that a build makes, and the stores that answer them.

A lookup fails if its store is unavailable or holds inconsistent data. The stores answer a
lookup in view of the lookups made before it, so that a store may fail at one call and answer
the same call at another time.
-/

namespace VmDescriptor

/-- A store of entities. -/
inductive Store where
  | device
  | hostDevice
  | network
  | storage
  deriving DecidableEq, Repr

/-- The name of a store in messages. -/
def Store.name : Store → String
  | .device => "device"
  | .hostDevice => "host device"
  | .network => "network"
  | .storage => "storage"

/-- Why a lookup failed. -/
inductive LookupError where
  | unavailable (store : Store) (reason : String)
  | inconsistent (store : Store) (id reason : String)
  deriving DecidableEq

/-- The wording of the error. -/
def LookupError.message : LookupError → String
  | .unavailable store reason => store.name ++ " store unavailable: " ++ reason
  | .inconsistent store id reason =>
    store.name ++ " store returned inconsistent data for " ++ id ++ ": " ++ reason

/-- A lookup of an entity, or of several, by an identifier. -/
inductive Lookup where
  | devicesForVm (vm : Uuid)
  | hostDevices (host : Uuid)
  | vnicProfile (id : Uuid)
  | network (id : Uuid)
  | networkFilter (id : Uuid)
  | filterParameters (nic : Uuid)
  | displayNetwork (cluster : Uuid)
  | storageDomain (id : Uuid)
  | storageQos (profile : Uuid)
  deriving DecidableEq

namespace Lookup

/-- What a lookup is answered with. -/
abbrev Answer : Lookup → Type
  | .devicesForVm _ => List Device
  | .hostDevices _ => List HostDevice
  | .vnicProfile _ => Option VnicProfile
  | .network _ => Option Network
  | .networkFilter _ => Option NetworkFilter
  | .filterParameters _ => List FilterParameter
  | .displayNetwork _ => Option Network
  | .storageDomain _ => Option StorageDomain
  | .storageQos _ => Option StorageQos

/-- The name of a lookup. -/
def name : Lookup → String
  | .devicesForVm _ => "devices_for_vm"
  | .hostDevices _ => "host_devices"
  | .vnicProfile _ => "vnic_profile"
  | .network _ => "network"
  | .networkFilter _ => "network_filter"
  | .filterParameters _ => "filter_parameters"
  | .displayNetwork _ => "display_network"
  | .storageDomain _ => "storage_domain"
  | .storageQos _ => "storage_qos"

/-- The identifier that a lookup is made with. -/
def argument : Lookup → Uuid
  | .devicesForVm id | .hostDevices id | .vnicProfile id | .network id | .networkFilter id
  | .filterParameters id | .displayNetwork id | .storageDomain id | .storageQos id => id

/-- The lookup of a given name. -/
def ofName? (name : String) (id : Uuid) : Option Lookup :=
  [devicesForVm id, hostDevices id, vnicProfile id, network id, networkFilter id,
    filterParameters id, displayNetwork id, storageDomain id, storageQos id].find?
      (·.name == name)

/-- The store that answers a lookup. -/
def store : Lookup → Store
  | .devicesForVm _ => .device
  | .hostDevices _ => .hostDevice
  | .storageDomain _ | .storageQos _ => .storage
  | _ => .network

/-- The name of the lookup and its identifier. -/
def text (c : Lookup) : String :=
  c.name ++ " " ++ c.argument.text

end Lookup

/-- The answers to lookups, in view of the lookups made before, the latest first. -/
abbrev Stores := List Lookup → (c : Lookup) → Except LookupError c.Answer

/-- The display network of a cluster: none is set, or it must be a known network. -/
def Inventory.displayNetworkOf (inv : Inventory) (cluster : Uuid) :
    Except LookupError (Option Network) :=
  match inv.displayNetworks.get? cluster with
  | none => .ok none
  | some id =>
    match inv.network? id with
    | some network => .ok (some network)
    | none => .error <| .inconsistent .network cluster.text
      ("display network " ++ id.text ++ " is not a known network")

/-- The answer of an inventory to a lookup. -/
def Inventory.answer (inv : Inventory) : (c : Lookup) → Except LookupError c.Answer
  | .devicesForVm vm => .ok (inv.devicesOf vm)
  | .hostDevices host => .ok (inv.hostDevicesOf host)
  | .vnicProfile id => .ok (inv.vnicProfile? id)
  | .network id => .ok (inv.network? id)
  | .networkFilter id => .ok (inv.networkFilter? id)
  | .filterParameters nic => .ok (inv.filterParametersOf nic)
  | .displayNetwork cluster => inv.displayNetworkOf cluster
  | .storageDomain id => .ok (inv.storageDomain? id)
  | .storageQos profile => .ok (inv.storageQos? profile)

namespace Stores

/-- The stores of an inventory. -/
def ofInventory (inv : Inventory) : Stores :=
  fun _ c => inv.answer c

/-- The same stores, except that the `n`th lookup of a given name fails. -/
def failing (stores : Stores) (name : String) (n : Nat) (error : Lookup → LookupError) :
    Stores :=
  fun past c =>
    if c.name = name ∧ past.countP (·.name = name) + 1 = n then .error (error c)
    else stores past c

end Stores

end VmDescriptor
