import VmDescriptor.Codec.Choice

/-!
The network interfaces of a virtual machine and what stands behind them.

A NIC names a vNIC profile; the profile names a network, and may name a network filter and
limit the bandwidth.
-/

namespace VmDescriptor

/-- The emulated model of a NIC. -/
inductive NicModel where
  | rtl8139
  | e1000
  | pv
  | spaprVlan
  | pciPassthrough
  deriving DecidableEq, Repr

namespace NicModel

def all : List NicModel := [.rtl8139, .e1000, .pv, .spaprVlan, .pciPassthrough]

/-- The name under which the model is stored. -/
def name : NicModel → String
  | .rtl8139 => "rtl8139"
  | .e1000 => "e1000"
  | .pv => "pv"
  | .spaprVlan => "spapr_vlan"
  | .pciPassthrough => "pci_passthrough"

def codec : Codec NicModel := .enumeration all name none

/-- The name of the model in a descriptor. -/
def libvirtName : NicModel → String
  | .rtl8139 => "rtl8139"
  | .e1000 => "e1000"
  | .pv => "virtio"
  | .spaprVlan => "spapr-vlan"
  | .pciPassthrough => "pci-passthrough"

end NicModel

/-- A virtual NIC of a machine. -/
structure Nic where
  id : Uuid
  vm : Uuid
  name : String
  mac : String
  linked : Bool
  plugged : Bool
  profile : Option Uuid
  /-- The name of the logical network behind the profile. -/
  networkName : Option String
  model : Option NicModel
  deriving DecidableEq

namespace Nic

def codec : Codec Nic := .record <|
  Nic.mk
    <$> .required "id" id .uuid
    <*> .required "vm_id" vm .uuid
    <*> .withDefault "name" name .string ""
    <*> .required "mac_address" mac .string
    <*> .withDefault "linked" linked .boolean true
    <*> .withDefault "plugged" plugged .boolean true
    <*> .optional "vnic_profile_id" profile .uuid
    <*> .optional "network_name" networkName .string
    <*> .optional "iface_type" model NicModel.codec

end Nic

/-- A limit on one direction of traffic: average and peak in KiB/s, burst in KiB. -/
structure Bandwidth where
  average : UInt64
  burst : UInt64
  peak : UInt64
  deriving DecidableEq

namespace Bandwidth

def codec : Codec Bandwidth := .record <|
  Bandwidth.mk
    <$> .required "average" average .uint64
    <*> .required "burst" burst .uint64
    <*> .required "peak" peak .uint64

end Bandwidth

/-- The limits on both directions. -/
structure NetworkQos where
  inbound : Option Bandwidth
  outbound : Option Bandwidth
  deriving DecidableEq

namespace NetworkQos

def codec : Codec NetworkQos := .record <|
  NetworkQos.mk
    <$> .optional "inbound" inbound Bandwidth.codec
    <*> .optional "outbound" outbound Bandwidth.codec

end NetworkQos

/-- A vNIC profile: the network a NIC attaches to and the policies for it. -/
structure VnicProfile where
  id : Uuid
  network : Uuid
  filter : Option Uuid
  qos : Option NetworkQos
  customProperties : SortedMap String String

namespace VnicProfile

def codec : Codec VnicProfile := .record <|
  VnicProfile.mk
    <$> .required "id" id .uuid
    <*> .required "network_id" network .uuid
    <*> .optional "network_filter_id" filter .uuid
    <*> .optional "qos" qos NetworkQos.codec
    <*> .withDefault "custom_properties" customProperties (.dictionary .string) .empty

end VnicProfile

/-- A logical network. -/
structure Network where
  id : Uuid
  name : String
  /-- The name of the network's bridge on the hosts. -/
  bridge : String
  vlan : Option UInt32
  deriving DecidableEq

namespace Network

def codec : Codec Network := .record <|
  Network.mk
    <$> .required "id" id .uuid
    <*> .required "name" name .string
    <*> .required "vdsm_name" bridge .string
    <*> .optional "vlan_id" vlan .uint32

end Network

/-- A network filter. -/
structure NetworkFilter where
  id : Uuid
  name : String
  deriving DecidableEq

namespace NetworkFilter

def codec : Codec NetworkFilter := .record <|
  NetworkFilter.mk
    <$> .required "id" id .uuid
    <*> .required "name" name .string

end NetworkFilter

/-- A parameter that a NIC passes to its filter. -/
structure FilterParameter where
  name : String
  value : String
  deriving DecidableEq

namespace FilterParameter

def codec : Codec FilterParameter := .record <|
  FilterParameter.mk
    <$> .required "name" name .string
    <*> .required "value" value .string

end FilterParameter

end VmDescriptor
