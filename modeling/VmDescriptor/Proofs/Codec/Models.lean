import VmDescriptor.Inventory
import VmDescriptor.Proofs.Address
import VmDescriptor.Proofs.Codec.Texts
import VmDescriptor.Proofs.Uuid

/-!
The types of stored values.

A value of each type may be read from several JSON values: an identifier from any of its
spellings, a record from an array or without the fields that have defaults, a device of a type
that is not known. It is read back from the one that it is written as.
-/

namespace VmDescriptor

/-! ### Networks -/

instance : Nic.codec.Faithful := .record (fun _ => rfl) (fun _ => rfl) (by decide)

instance : Bandwidth.codec.Faithful := .record (fun _ => rfl) (fun _ => rfl) (by decide)

instance : NetworkQos.codec.Faithful := .record (fun _ => rfl) (fun _ => rfl) (by decide)

instance : VnicProfile.codec.Faithful := .record (fun _ => rfl) (fun _ => rfl) (by decide)

instance : Network.codec.Faithful := .record (fun _ => rfl) (fun _ => rfl) (by decide)

instance : NetworkFilter.codec.Faithful := .record (fun _ => rfl) (fun _ => rfl) (by decide)

instance : FilterParameter.codec.Faithful := .record (fun _ => rfl) (fun _ => rfl) (by decide)

/-! ### Disks -/

instance : VolumeHost.codec.Faithful := .record (fun _ => rfl) (fun _ => rfl) (by decide)

instance : VolumeAuth.codec.Faithful := .record (fun _ => rfl) (fun _ => rfl) (by decide)

instance : ImageVolume.fields.Described := by delta ImageVolume.fields; infer_instance

instance : ImageVolume.fields.Faithful := by delta ImageVolume.fields; infer_instance

instance : LunVolume.fields.Described := by delta LunVolume.fields; infer_instance

instance : LunVolume.fields.Faithful := by delta LunVolume.fields; infer_instance

instance : NetworkVolume.fields.Described := by delta NetworkVolume.fields; infer_instance

instance : NetworkVolume.fields.Faithful := by delta NetworkVolume.fields; infer_instance

instance : (Codec.record ImageVolume.fields).Faithful :=
  .record (fun _ => rfl) (fun _ => rfl) (by decide)

instance : (Codec.record LunVolume.fields).Faithful :=
  .record (fun _ => rfl) (fun _ => rfl) (by decide)

instance : (Codec.record NetworkVolume.fields).Faithful :=
  .record (fun _ => rfl) (fun _ => rfl) (by decide)

instance : Backend.codec.Faithful := .tagged (by decide) fun b => by
  cases b with
  | image v =>
    exact ⟨_, .head _, Codec.writtenAs_of_record "image" rfl (by decide) inferInstance⟩
  | lun v =>
    exact ⟨_, .tail _ (.head _), Codec.writtenAs_of_record "lun" rfl (by decide) inferInstance⟩
  | network v =>
    exact ⟨_, .tail _ (.tail _ (.head _)),
      Codec.writtenAs_of_record "network" rfl (by decide) inferInstance⟩

instance : Attachment.codec.Faithful := .record (fun _ => rfl) (fun _ => rfl) (by decide)

instance : Disk.codec.Faithful := .record (fun _ => rfl) (fun _ => rfl) (by decide)

instance : StorageDomain.codec.Faithful := .record (fun _ => rfl) (fun _ => rfl) (by decide)

instance : StorageQos.codec.Faithful := .record (fun _ => rfl) (fun _ => rfl) (by decide)

/-! ### Devices -/

instance : DeviceId.codec.Faithful := .record (fun _ => rfl) (fun _ => rfl) (by decide)

instance : Device.codec.Lawful := .record (fun _ => rfl) (by decide)

/-- The fields of a host device are next to those of its class, and none has the name of another. -/
instance : HostDevice.codec.Faithful where
  readsBack d := by
    obtain ⟨name, capability⟩ := d
    cases capability <;> exact ⟨fun _ => rfl, rfl⟩
  ne_null _ := by simp [HostDevice.codec]

/-! ### Machines -/

instance : GraphicsInfo.codec.Faithful := .record (fun _ => rfl) (fun _ => rfl) (by decide)

instance : GraphicsInfos.codec.Faithful := .map GraphicsInfos.parse_name

instance : Lease.codec.Faithful := .record (fun _ => rfl) (fun _ => rfl) (by decide)

-- A machine has more fields than an instance search tries by default.
set_option synthInstance.maxSize 512 in
instance : VirtualMachine.codec.Faithful := .record (fun _ => rfl) (fun _ => rfl) (by decide)

instance : NumaNode.codec.Faithful := .record (fun _ => rfl) (fun _ => rfl) (by decide)

instance : MemoryNode.codec.Faithful := .record (fun _ => rfl) (fun _ => rfl) (by decide)

instance : NumaTune.codec.Faithful := .record (fun _ => rfl) (fun _ => rfl) (by decide)

instance : CreateParams.codec.Faithful := .record (fun _ => rfl) (fun _ => rfl) (by decide)

instance : Inventory.codec.Lawful := .record (fun _ => rfl) (by decide)

/-! ### All of them -/

/-- The types of values that are stored one by one. -/
inductive ModelType where
  | virtualMachine
  | device
  | disk
  | nic
  | hostDevice
  | storageDomain
  | storageQos
  | vnicProfile
  | network
  | networkQos
  | createParams
  | deviceId
  | address
  | bootSequence
  | inventory
  deriving DecidableEq, Repr

namespace ModelType

/-- The values of a type. -/
abbrev Value : ModelType → Type
  | virtualMachine => VirtualMachine
  | device => Device
  | disk => Disk
  | nic => Nic
  | hostDevice => HostDevice
  | storageDomain => StorageDomain
  | storageQos => StorageQos
  | vnicProfile => VnicProfile
  | network => Network
  | networkQos => NetworkQos
  | createParams => CreateParams
  | deviceId => DeviceId
  | address => Address
  | bootSequence => BootSequence
  | inventory => Inventory

/-- The written form of a type. -/
def codec : (t : ModelType) → Codec t.Value
  | virtualMachine => VirtualMachine.codec
  | device => Device.codec
  | disk => Disk.codec
  | nic => Nic.codec
  | hostDevice => HostDevice.codec
  | storageDomain => StorageDomain.codec
  | storageQos => StorageQos.codec
  | vnicProfile => VnicProfile.codec
  | network => Network.codec
  | networkQos => NetworkQos.codec
  | createParams => CreateParams.codec
  | deviceId => DeviceId.codec
  | address => Address.codec
  | bootSequence => BootSequence.codec
  | inventory => Inventory.codec

/-- Reads a value and writes it again. -/
def rewrite (t : ModelType) (j : Json) : Except DecodeError Json :=
  (t.codec.read j).map t.codec.encode

/-- All values are read back, but for the types with addresses and parameters: not every address is
read from some text, and not every parameter from some value. -/
theorem read_encode {t : ModelType} (ht : t ≠ .address ∧ t ≠ .device ∧ t ≠ .inventory)
    (r : t.Value) : t.codec.read (t.codec.encode r) = .ok r := by
  have hfaithful : t.codec.Faithful := by
    cases t with
    | address => exact absurd rfl ht.1
    | device => exact absurd rfl ht.2.1
    | inventory => exact absurd rfl ht.2.2
    | _ => unfold codec; infer_instance
  exact (hfaithful.readsBack r).decode_encode .json

instance (t : ModelType) : t.codec.Lawful := by
  cases t <;> unfold codec <;> infer_instance

/-- **All that is read is read back**, so writing settles on one form of each value: rewriting
once more changes nothing. -/
theorem read_encode_of_read {t : ModelType} {j : Json} {r : t.Value} (h : t.codec.read j = .ok r) :
    t.codec.read (t.codec.encode r) = .ok r ∧ (t.rewrite j >>= t.rewrite) = t.rewrite j := by
  have hback : t.codec.read (t.codec.encode r) = .ok r :=
    (Codec.Stable.readsBack h).decode_encode .json
  have hrewrite : t.rewrite j = .ok (t.codec.encode r) := by rw [rewrite, h]; rfl
  have hagain : t.rewrite (t.codec.encode r) = .ok (t.codec.encode r) := by
    rw [rewrite, hback]
    rfl
  exact ⟨hback, by rw [hrewrite]; exact hagain⟩

/-- A device as an array: identifiers in other spellings, a type that is not known, a parameter
that is set twice and an address with spaces. -/
def spelledDevice : Json :=
  .array [
    .array [.string "\x7b00000000-0000-0000-0000-00000000000A\x7d",
      .string "urn:uuid:00000000-0000-0000-0000-00000000000B"],
    .string "cpu",
    .string "dimm",
    .object [("size", .int 1), ("node", .int 0), ("size", .int 2)],
    .string "type = dimm,slot=1"]

/-- The device that it stands for. -/
def settledDevice : Device :=
  { Device.plain ⟨⟨10⟩, ⟨11⟩⟩ .unknown "dimm" with
    parameters := .ofList [("node", .int 0), ("size", .int 2)]
    address := .ofList [("type", "dimm"), ("slot", "1")] }

lemma read_spelledDevice : device.codec.read spelledDevice = .ok settledDevice := by rfl

/-- The device is written as an object with every field, which stays as it is. -/
theorem read_encode_spelledDevice :
    device.codec.read spelledDevice = .ok settledDevice ∧
      device.codec.read (device.codec.encode settledDevice) = .ok settledDevice ∧
      (device.rewrite spelledDevice >>= device.rewrite) = device.rewrite spelledDevice ∧
      device.codec.encode settledDevice = .object [
        ("id", .object [("device_id", .string "00000000-0000-0000-0000-00000000000a"),
          ("vm_id", .string "00000000-0000-0000-0000-00000000000b")]),
        ("general_type", .string "UNKNOWN"), ("device", .string "dimm"),
        ("spec_params", .object [("node", .int 0), ("size", .int 2)]),
        ("address", .string "\x7btype=dimm, slot=1\x7d"), ("boot_order", .int 0),
        ("plugged", .boolean true), ("managed", .boolean true), ("read_only", .boolean false),
        ("snapshot_id", .null)] := by
  have hread := read_encode_of_read (t := device) read_spelledDevice
  exact ⟨read_spelledDevice, hread.1, hread.2, by rfl⟩

end ModelType

end VmDescriptor
