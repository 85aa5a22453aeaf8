import VmDescriptor.Checked
import VmDescriptor.Codec.Choice
import VmDescriptor.Machine

/-!
The disks of a virtual machine and the storage they live on.

A disk is an image on a storage domain, a LUN of the host, or a volume served over the
network. The QoS record of a disk profile limits an image's throughput, in MiB per second, and
its operations.
-/

namespace VmDescriptor

/-- The filtering of SCSI commands to a passed-through LUN. -/
inductive ScsiFilter where
  | filtered
  | unfiltered
  deriving DecidableEq, Repr

namespace ScsiFilter

def all : List ScsiFilter := [.filtered, .unfiltered]

def name : ScsiFilter → String
  | .filtered => "filtered"
  | .unfiltered => "unfiltered"

def codec : Codec ScsiFilter := .enumeration all name none

end ScsiFilter

/-- The format of an image. -/
inductive VolumeFormat where
  | cow
  | raw
  deriving DecidableEq, Repr

namespace VolumeFormat

def all : List VolumeFormat := [.cow, .raw]

def name : VolumeFormat → String
  | .cow => "cow"
  | .raw => "raw"

def codec : Codec VolumeFormat := .enumeration all name none

end VolumeFormat

/-- An image on a storage domain; the first of `domains` counts. -/
structure ImageVolume where
  image : Uuid
  domains : List Uuid
  pool : Uuid
  format : VolumeFormat
  profile : Option Uuid
  deriving DecidableEq

namespace ImageVolume

def fields : Fields ImageVolume ImageVolume :=
  ImageVolume.mk
    <$> .required "image_id" image .uuid
    <*> .required "storage_ids" domains (.list .uuid)
    <*> .required "storage_pool_id" pool .uuid
    <*> .required "volume_format" format VolumeFormat.codec
    <*> .optional "disk_profile_id" profile .uuid

end ImageVolume

/-- A LUN that the guest uses directly. -/
structure LunVolume where
  lun : String
  deriving DecidableEq

namespace LunVolume

def fields : Fields LunVolume LunVolume :=
  LunVolume.mk <$> .required "lun_id" lun .string

end LunVolume

/-- A server of a network volume. -/
structure VolumeHost where
  address : String
  port : String
  deriving DecidableEq

namespace VolumeHost

def codec : Codec VolumeHost := .record <|
  VolumeHost.mk
    <$> .required "address" address .string
    <*> .required "port" port .string

end VolumeHost

/-- The credentials for a network volume. -/
structure VolumeAuth where
  username : String
  secretType : String
  secret : Uuid
  deriving DecidableEq

namespace VolumeAuth

def codec : Codec VolumeAuth := .record <|
  VolumeAuth.mk
    <$> .required "username" username .string
    <*> .required "secret_type" secretType .string
    <*> .required "secret_uuid" secret .uuid

end VolumeAuth

/-- A volume served over the network. -/
structure NetworkVolume where
  protocol : String
  name : String
  hosts : List VolumeHost
  auth : Option VolumeAuth
  deriving DecidableEq

namespace NetworkVolume

def fields : Fields NetworkVolume NetworkVolume :=
  NetworkVolume.mk
    <$> .required "protocol" protocol .string
    <*> .required "name" name .string
    <*> .withDefault "hosts" hosts (.list VolumeHost.codec) []
    <*> .optional "auth" auth VolumeAuth.codec

end NetworkVolume

/-- Where the data of a disk live. -/
inductive Backend where
  | image (v : ImageVolume)
  | lun (v : LunVolume)
  | network (v : NetworkVolume)
  deriving DecidableEq

namespace Backend

def codec : Codec Backend :=
  .tagged "storage_type"
    [("image", fun form j => ((Codec.record ImageVolume.fields).decode form j).map .image),
      ("lun", fun form j => ((Codec.record LunVolume.fields).decode form j).map .lun),
      ("network", fun form j => ((Codec.record NetworkVolume.fields).decode form j).map .network)]
    fun
      | .image v => ("image", ImageVolume.fields.encode v)
      | .lun v => ("lun", LunVolume.fields.encode v)
      | .network v => ("network", NetworkVolume.fields.encode v)

/-- Whether the data live on a LUN. -/
def isLun : Backend → Bool
  | .lun _ => true
  | _ => false

end Backend

/-- How a disk is attached to its machine. -/
structure Attachment where
  interface : DiskInterface
  boot : Bool
  passDiscard : Bool
  deriving DecidableEq

namespace Attachment

def codec : Codec Attachment := .record <|
  Attachment.mk
    <$> .required "interface" interface DiskInterface.codec
    <*> .withDefault "boot" boot .boolean false
    <*> .withDefault "pass_discard" passDiscard .boolean false

end Attachment

/-- A disk attached to a machine. -/
structure Disk where
  id : Uuid
  /-- The name given by the user. -/
  name : String
  shareable : Bool
  propagateErrors : Bool
  scsiPassthrough : Bool
  sgio : Option ScsiFilter
  attachment : Attachment
  backend : Backend
  deriving DecidableEq

namespace Disk

def codec : Codec Disk := .record <|
  Disk.mk
    <$> .required "id" id .uuid
    <*> .withDefault "alias" name .string ""
    <*> .withDefault "shareable" shareable .boolean false
    <*> .withDefault "propagate_errors" propagateErrors .boolean false
    <*> .withDefault "scsi_passthrough" scsiPassthrough .boolean false
    <*> .optional "sgio" sgio ScsiFilter.codec
    <*> .required "vm_element" attachment Attachment.codec
    <*> .required "backend" backend Backend.codec

end Disk

/-- The kind of storage behind a domain. -/
inductive StorageType where
  | nfs
  | fcp
  | iscsi
  | localfs
  | posixfs
  | glusterfs
  deriving DecidableEq, Repr

namespace StorageType

def all : List StorageType := [.nfs, .fcp, .iscsi, .localfs, .posixfs, .glusterfs]

def name : StorageType → String
  | .nfs => "nfs"
  | .fcp => "fcp"
  | .iscsi => "iscsi"
  | .localfs => "localfs"
  | .posixfs => "posixfs"
  | .glusterfs => "glusterfs"

def codec : Codec StorageType := .enumeration all name none

/-- Whether images on the storage are block devices. -/
def isBlock : StorageType → Bool
  | .fcp | .iscsi => true
  | _ => false

end StorageType

/-- A storage domain. -/
structure StorageDomain where
  id : Uuid
  storageType : StorageType
  deriving DecidableEq

namespace StorageDomain

def codec : Codec StorageDomain := .record <|
  StorageDomain.mk
    <$> .required "id" id .uuid
    <*> .required "storage_type" storageType StorageType.codec

end StorageDomain

/-- The limits of a disk profile. -/
structure StorageQos where
  throughput : Option UInt64
  readThroughput : Option UInt64
  writeThroughput : Option UInt64
  iops : Option UInt64
  readIops : Option UInt64
  writeIops : Option UInt64
  deriving DecidableEq

namespace StorageQos

def codec : Codec StorageQos := .record <|
  StorageQos.mk
    <$> .optional "max_throughput" throughput .uint64
    <*> .optional "max_read_throughput" readThroughput .uint64
    <*> .optional "max_write_throughput" writeThroughput .uint64
    <*> .optional "max_iops" iops .uint64
    <*> .optional "max_read_iops" readIops .uint64
    <*> .optional "max_write_iops" writeIops .uint64

/-- A throughput in bytes per second, if it fits 64 bits. -/
def bytes? (mib : UInt64) : Option Nat :=
  product? UInt64.size mib.toNat (1024 * 1024)

/-- A limit under its name, if it is set. -/
def limit (name : String) (value : Option Nat) : List (String × Nat) :=
  (value.map fun v => (name, v)).toList

/-- The limits that are set, by name, unless a throughput does not fit 64 bits. -/
def limits? (q : StorageQos) : Option (List (String × Nat)) := do
  let total ← q.throughput.mapM bytes?
  let read ← q.readThroughput.mapM bytes?
  let write ← q.writeThroughput.mapM bytes?
  return limit "total_bytes_sec" total ++ limit "read_bytes_sec" read ++
    limit "write_bytes_sec" write ++ limit "total_iops_sec" (q.iops.map (·.toNat)) ++
    limit "read_iops_sec" (q.readIops.map (·.toNat)) ++
    limit "write_iops_sec" (q.writeIops.map (·.toNat))

end StorageQos

end VmDescriptor
