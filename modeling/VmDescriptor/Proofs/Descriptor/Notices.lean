import Mathlib.Algebra.GroupWithZero.Nat
import VmDescriptor.Proofs.DeviceClasses.Distribution
import VmDescriptor.Proofs.Descriptor.Overflow

/-!
Notices about devices that are left out.

Every plugged device is in a class, is a floppy of which one is chosen, is skipped with a notice,
or is of a type that is never described. Devices of the last sort leave no trace at all: that
holds of memory, channels and redirected devices, and of devices of unknown type as well.
-/

namespace VmDescriptor

open Program

namespace DeviceClasses

/-! ### One notice for each skipped device -/

/-- The device is skipped, and the notice names it and says why. -/
structure Reports (d : Device) (n : Notice) : Prop where
  skipped : isSkipped d
  names : ("device", d.subtype) ∈ n.details
  disk : d.type = .disk → n = .unknownDisk d.subtype
  interface : d.type = .interface → n = .unknownInterface d.subtype
  peripheral : Peripheral.isType d.type →
    ∃ e ix, Peripheral.kind? d ix = .error e ∧ n = .unusableParameters d.subtype e

/-- The notices of some classes are those of others, with one more if the device is skipped. -/
def ReportsOf (d : Device) (before after : DeviceClasses) : Prop :=
  ∃ ns, after.notices = before.notices ++ ns ∧ List.Forall₂ Reports ([d].filter isSkipped) ns

section

variable {cs cs' : DeviceClasses} {d : Device} {n : Notice}

lemma reportsOf_of_not_isSkipped (h : ¬ isSkipped d) (hcs : cs'.notices = cs.notices) :
    ReportsOf d cs cs' := by
  refine ⟨[], by rw [hcs, List.append_nil], ?_⟩
  rw [List.filter_cons_of_neg h]
  exact .nil

lemma reportsOf_withNotice (h : Reports d n) : ReportsOf d cs (cs.withNotice n) := by
  refine ⟨[n], rfl, ?_⟩
  rw [List.filter_cons_of_pos h.skipped]
  exact .cons h .nil

lemma reportsOf_addDisk (hplugged : d.plugged) (htype : d.type = .disk) :
    ReportsOf d cs (cs.addDisk d) := by
  have hskipped : isSkipped d ↔ d.subtype ∉ ["disk", "cdrom", Device.floppySubtype] := by
    simp [isSkipped_iff, hplugged, htype, Peripheral.isType]
  unfold addDisk
  split_ifs with hcdrom hdisk hfloppy
  · exact reportsOf_of_not_isSkipped (by simp [hskipped, hcdrom]) rfl
  · exact reportsOf_of_not_isSkipped (by simp [hskipped, hdisk]) rfl
  · exact reportsOf_of_not_isSkipped (by simp [hskipped, hfloppy]) rfl
  · refine reportsOf_withNotice ⟨?_, List.mem_singleton_self _, fun _ => rfl, ?_, ?_⟩
    · simp [hskipped, hcdrom, hdisk, hfloppy]
    · simp [htype]
    · simp [htype, Peripheral.isType]

lemma reportsOf_addInterface (hplugged : d.plugged) (htype : d.type = .interface) :
    ReportsOf d cs (cs.addInterface d) := by
  have hskipped : isSkipped d ↔ InterfaceKind.all.find? (·.name == d.subtype) = none := by
    simp [isSkipped_iff, hplugged, htype, Peripheral.isType]
  unfold addInterface
  split
  next kind hkind => exact reportsOf_of_not_isSkipped (by simp [hskipped, hkind]) rfl
  next hnone =>
    refine reportsOf_withNotice
      ⟨hskipped.mpr hnone, List.mem_singleton_self _, ?_, fun _ => rfl, ?_⟩
    · simp [htype]
    · simp [htype, Peripheral.isType]

lemma reportsOf_addPeripheral (hplugged : d.plugged) (hdisk : d.type ≠ .disk)
    (hinterface : d.type ≠ .interface) : ReportsOf d cs (cs.addPeripheral d) := by
  have hskipped : isSkipped d ↔ ∃ e, Peripheral.kind? d cs.indices = .error e := by
    simp [isSkipped_iff, hplugged, hdisk, hinterface, Peripheral.exists_error_iff]
  unfold addPeripheral
  split
  next kind ix hkind => exact reportsOf_of_not_isSkipped (by simp [hskipped, hkind]) rfl
  next hkind => exact reportsOf_of_not_isSkipped (by simp [hskipped, hkind]) rfl
  next e hkind =>
    refine reportsOf_withNotice ⟨hskipped.mpr ⟨e, hkind⟩, List.mem_cons_self, ?_, ?_, ?_⟩
    · exact fun h => absurd h hdisk
    · exact fun h => absurd h hinterface
    · exact fun _ => ⟨e, cs.indices, hkind, rfl⟩

/-- A skipped device adds a notice, and any other device adds none. -/
lemma reportsOf_add (cs : DeviceClasses) (d : Device) : ReportsOf d cs (cs.add d) := by
  rcases cs.add_cases d with ⟨hplugged, hadd⟩ | ⟨hplugged, htype, hadd⟩ | ⟨hplugged, htype, hadd⟩ |
    ⟨hplugged, hdisk, hinterface, hadd⟩ <;> rw [hadd]
  · exact reportsOf_of_not_isSkipped (by simp [isSkipped_iff, hplugged]) rfl
  · exact reportsOf_addDisk hplugged htype
  · exact reportsOf_addInterface hplugged htype
  · exact reportsOf_addPeripheral hplugged hdisk hinterface

end

/-- The notices are one for each skipped device, in the order of the list. -/
theorem notices_ofDevices (ix : DiskIndices) (devices : List Device) :
    List.Forall₂ Reports (devices.filter isSkipped) (ofDevices ix devices).notices := by
  have hfoldl (cs : DeviceClasses) : ∃ ns, (devices.foldl add cs).notices = cs.notices ++ ns ∧
      List.Forall₂ Reports (devices.filter isSkipped) ns := by
    induction devices generalizing cs with
    | nil => exact ⟨[], (List.append_nil _).symm, .nil⟩
    | cons d rest ih =>
      obtain ⟨ns, hadd, hreports⟩ := reportsOf_add cs d
      obtain ⟨ns', hrest, hreports'⟩ := ih (cs.add d)
      refine ⟨ns ++ ns', ?_, ?_⟩
      · rw [List.foldl_cons, hrest, hadd, List.append_assoc]
      · rw [← List.singleton_append, List.filter_append]
        exact List.rel_append hreports hreports'
  obtain ⟨ns, hns, hreports⟩ := hfoldl (initial ix)
  rw [ofDevices, hns]
  exact hreports

/-! ### What becomes of a device -/

/-- It can be seen what has become of the device: it is in a class, it is a floppy and one is
chosen, or there is a notice about it. -/
inductive Accounted (cs : DeviceClasses) (d : Device) : Prop where
  | peripheral {p : Peripheral} (hp : p ∈ cs.peripherals) (h : IsReadAs d p)
  | interface {i : InterfaceDevice} (hi : i ∈ cs.interfaces) (h : i.device = d)
  | disk (h : d ∈ cs.disks)
  | cdrom (h : d ∈ cs.cdroms)
  | floppy {chosen : Device} (hchosen : chosen ∈ cs.floppy)
      (h : isDiskOf Device.floppySubtype d)
  | notice {n : Notice} (hn : n ∈ cs.notices) (h : Reports d n)

section

variable {ix : DiskIndices} {devices : List Device} {d : Device}

/-- What is read off a device that passes a test is related to it. -/
lemma exists_related {α : Type} {R : Device → α → Prop} {test : Device → Bool} {as : List α}
    (h : List.Forall₂ R (devices.filter test) as) (hd : d ∈ devices) (htest : test d) :
    ∃ a ∈ as, R d a :=
  exists_mem_of_forall₂ (R := flip R) h.flip (List.mem_filter.mpr ⟨hd, htest⟩)

/-- A device that passes a test is accounted for. -/
lemma accounted_of_test (hd : d ∈ devices) {test : Device → Bool}
    (htest : test ∈ isSkipped :: tests) (h : test d) : Accounted (ofDevices ix devices) d := by
  have hmem : d ∈ devices.filter test := List.mem_filter.mpr ⟨hd, h⟩
  simp only [tests, List.mem_cons, List.not_mem_nil, or_false] at htest
  rcases htest with rfl | rfl | rfl | rfl | rfl | rfl
  · obtain ⟨n, hn, hreports⟩ := exists_related (notices_ofDevices ix devices) hd h
    exact .notice hn hreports
  · obtain ⟨p, hp, hread⟩ := exists_related (readInOrder_ofDevices ix devices).read hd h
    exact .peripheral hp hread
  · rw [← devices_interfaces ix] at hmem
    obtain ⟨i, hi, hdevice⟩ := List.mem_map.mp hmem
    exact .interface hi hdevice
  · exact .disk (disks_ofDevices ix devices ▸ hmem)
  · exact .cdrom (cdroms_ofDevices ix devices ▸ hmem)
  · have hsome : (chosenFloppy (devices.filter (isDiskOf Device.floppySubtype))).isSome := by
      rw [chosenFloppy, Option.isSome_or]
      simpa using Or.inr ⟨d, hd, h⟩
    obtain ⟨chosen, hchosen⟩ := Option.isSome_iff_exists.mp hsome
    exact .floppy ((floppy_ofDevices ix devices).trans hchosen) h

/-- A device that is accounted for is of a type that is described. -/
lemma type_of_accounted (h : Accounted (ofDevices ix devices) d) : d.type ∉ undescribedTypes := by
  have hdisk (htype : d.type = .disk) : d.type ∉ undescribedTypes := htype ▸ by decide
  have hinterface (htype : d.type = .interface) : d.type ∉ undescribedTypes := htype ▸ by decide
  have hperipheral (htype : Peripheral.isType d.type) : d.type ∉ undescribedTypes := fun h =>
    Bool.false_ne_true ((isType_eq_false h).symm.trans htype)
  cases h with
  | peripheral hp hread =>
    obtain ⟨-, ix', ix'', hkind⟩ := hread
    exact hperipheral (Peripheral.exists_kind?_iff.mp ⟨_, hkind⟩).type
  | interface hi hdevice =>
    rw [interfaces_ofDevices] at hi
    obtain ⟨d', -, hd'⟩ := List.mem_filterMap.mp hi
    obtain rfl := (device_of_interfaceDevice? hd').symm.trans hdevice
    exact hinterface (type_of_interfaceDevice? (by rw [hd']; rfl))
  | disk hmem => exact hdisk (mem_disks_ofDevices hmem).2.1
  | cdrom hmem => exact hdisk (mem_cdroms_ofDevices hmem).2.1
  | floppy hchosen hfloppy => exact hdisk (of_isDiskOf hfloppy).1
  | notice hn hreports =>
    obtain ⟨-, ⟨htype, -⟩ | ⟨htype, -⟩ | ⟨htype, -⟩⟩ := isSkipped_iff.mp hreports.skipped
    · exact hdisk htype
    · exact hinterface htype
    · exact hperipheral htype

/-- A plugged device of the list is accounted for just when its type is described. -/
theorem accounted_iff (hd : d ∈ devices) (hplugged : d.plugged) :
    Accounted (ofDevices ix devices) d ↔ d.type ∉ undescribedTypes := by
  refine ⟨type_of_accounted, fun htype => ?_⟩
  have hundescribed : isUndescribed d = false := by simp [isUndescribed, htype]
  have hcount : (isSkipped :: tests).countP (· d) = 1 := by
    have hother : otherTests.countP (· d) = if isSkipped d then 1 else 0 := by
      simp [otherTests, hundescribed, List.countP_cons]
    rw [List.countP_cons, ← hother, countP_tests_add, if_pos hplugged]
  obtain ⟨test, htest, h⟩ := List.countP_pos_iff.mp (hcount ▸ Nat.one_pos)
  exact accounted_of_test hd htest h

end

lemma sum_countP_cons (ts : List (Device → Bool)) (d : Device) (rest : List Device) :
    (ts.map ((d :: rest).countP ·)).sum = (ts.map (rest.countP ·)).sum + ts.countP (· d) := by
  induction ts with
  | nil => rfl
  | cons t ts ih =>
    rw [List.map_cons, List.map_cons, List.sum_cons, List.sum_cons, ih, List.countP_cons,
      List.countP_cons]
    omega

/-- The plugged devices are counted by the tests that they pass. -/
lemma countP_plugged (devices : List Device) :
    devices.countP (·.plugged) =
      (tests.map (devices.countP ·)).sum + (otherTests.map (devices.countP ·)).sum := by
  induction devices with
  | nil => rfl
  | cons d rest ih =>
    have hadd := countP_tests_add d
    rw [sum_countP_cons, sum_countP_cons, List.countP_cons, ih]
    omega

lemma add_of_isUndescribed {d : Device} (h : isUndescribed d) (cs : DeviceClasses) :
    cs.add d = cs := by
  have htype : d.type ∈ undescribedTypes := by
    simp only [isUndescribed, Bool.and_eq_true, decide_eq_true_iff] at h
    exact h.2
  have hkind : Peripheral.kind? d cs.indices = .ok none :=
    Peripheral.kind?_eq_none_iff.mpr (isType_eq_false htype)
  rcases cs.add_cases d with ⟨-, hadd⟩ | ⟨-, hdisk, -⟩ | ⟨-, hinterface, -⟩ | ⟨-, -, -, hadd⟩
  · exact hadd
  · exact absurd htype (hdisk ▸ by decide)
  · exact absurd htype (hinterface ▸ by decide)
  · rw [hadd, addPeripheral, hkind]

/-- The classes and the notices account for the devices of a list. -/
structure AccountsFor (ix : DiskIndices) (devices : List Device) (cs : DeviceClasses) : Prop where
  /-- There is one notice for each skipped device, in the order of the list. -/
  notices : List.Forall₂ Reports (devices.filter isSkipped) cs.notices
  /-- Every plugged device is counted once. -/
  balance : devices.countP (·.plugged) =
    cs.peripherals.length + cs.interfaces.length + cs.disks.length + cs.cdroms.length +
      devices.countP (isDiskOf Device.floppySubtype) + cs.notices.length +
      devices.countP isUndescribed
  accounted : ∀ d ∈ devices, d.plugged → (Accounted cs d ↔ d.type ∉ undescribedTypes)
  /-- Devices of the other types might as well not be there. -/
  silent : ofDevices ix (devices.filter (!isUndescribed ·)) = cs

/-- No device disappears silently: each plugged one can be seen to be taken or left out, unless it
is of a type that is known and not described, and the notices are as many as the devices of an
unknown kind or type or with unusable parameters. -/
structure NoneSilent (devices : List Device) (cs : DeviceClasses) : Prop where
  accounted : ∀ d ∈ devices, d.plugged →
    Accounted cs d ∨ d.type ∈ [.memory, .channel, .redirdev]
  notices : cs.notices.length =
    devices.countP fun d => isSkipped d || d.plugged && d.type = .unknown

lemma accountsFor_ofDevices (ix : DiskIndices) (devices : List Device) :
    AccountsFor ix devices (ofDevices ix devices) where
  notices := notices_ofDevices ix devices
  balance := by
    have hperipherals := (readInOrder_ofDevices ix devices).read.length_eq
    have hinterfaces := congrArg List.length (devices_interfaces ix devices)
    have hnotices := (notices_ofDevices ix devices).length_eq
    rw [List.length_map] at hinterfaces
    rw [countP_plugged, ← hperipherals, hinterfaces, disks_ofDevices, cdroms_ofDevices, ← hnotices]
    simp only [tests, otherTests, List.map_cons, List.map_nil, List.sum_cons, List.sum_nil,
      List.countP_eq_length_filter]
    omega
  accounted _ := accounted_iff
  silent := ofDevices_filter ix devices fun cs d h => add_of_isUndescribed (by simpa using h) cs

/-- Devices of unknown type are those that disappear silently. -/
lemma noneSilent_ofDevices_iff (ix : DiskIndices) (devices : List Device) :
    NoneSilent devices (ofDevices ix devices) ↔ ∀ d ∈ devices, d.plugged → d.type ≠ .unknown := by
  have hunknown (type : DeviceType) :
      (type ∉ undescribedTypes ∨ type ∈ [.memory, .channel, .redirdev]) ↔ type ≠ .unknown := by
    cases type <;> decide
  constructor
  · intro h d hd hplugged
    have haccounted : Accounted (ofDevices ix devices) d ↔ d.type ∉ undescribedTypes :=
      accounted_iff hd hplugged
    rw [← hunknown, ← haccounted]
    exact h.accounted d hd hplugged
  · intro h
    refine ⟨fun d hd hplugged => ?_, ?_⟩
    · rw [accounted_iff hd hplugged, hunknown]
      exact h d hd hplugged
    · rw [← (notices_ofDevices ix devices).length_eq, ← List.countP_eq_length_filter]
      refine List.countP_congr fun d hd => ?_
      have := h d hd
      cases hplugged : d.plugged <;> simp_all

end DeviceClasses

/-! ### Builds -/

open DeviceClasses

namespace Request

variable {fresh : FreshIds} {req : Request} {config : EngineConfig} {stores : Stores}

/-- A build that has looked up the devices of its machine reports the notices about them. -/
lemma notices_infix_build {stored : List Device}
    (hstored : stores [] (.devicesForVm req.vm.id) = .ok stored)
    (hmade : Lookup.devicesForVm req.vm.id ∈ (req.build fresh config stores).lookups) :
    (Descriptor.classified fresh req (.resolve config req.vm) stored).notices <:+:
      (req.build fresh config stores).notices := by
  simp only [build, run, sharing, descriptor_eq, ← bind_eq, Descriptor.domain, bind_assoc]
    at hmade ⊢
  obtain ⟨sizing, hmade, hsizing⟩ :=
    exists_of_mem_lookups_bind (fun _ => Descriptor.not_mayAsk_sizing) hmade
  obtain ⟨cpu, hmade, hcpu⟩ := exists_of_mem_lookups_bind (fun _ => Descriptor.not_mayAsk_cpu) hmade
  refine List.IsInfix.trans ?_ (hcpu.trans hsizing).isInfix
  rw [notices_runFrom_lookup_bind rfl hstored]
  simp only [Descriptor.deviceNodes, bind_assoc]
  exact (prefix_notices _ _).isInfix

end Request

/-- **Devices that disappear**: of every list of devices the plugged ones are in a class or
reported, but for memory, channels, redirected devices and devices of unknown type; so none
disappears silently just when none is of unknown type. A build that is started with the devices
reports the notices about them. -/
theorem DeviceClasses.accountsFor_and_noneSilent_iff (ix : DiskIndices) (devices : List Device) :
    AccountsFor ix devices (ofDevices ix devices) ∧
      (NoneSilent devices (ofDevices ix devices) ↔
        ∀ d ∈ devices, d.plugged → d.type ≠ .unknown) ∧
      ∀ (fresh : FreshIds) (req : Request) (config : EngineConfig) (stores : Stores)
        (stored : List Device), stores [] (.devicesForVm req.vm.id) = .ok stored →
          Lookup.devicesForVm req.vm.id ∈ (req.build fresh config stores).lookups →
            Descriptor.classified fresh req (.resolve config req.vm) stored =
              ofDevices ix devices →
                (ofDevices ix devices).notices <:+: (req.build fresh config stores).notices := by
  refine ⟨accountsFor_ofDevices ix devices, noneSilent_ofDevices_iff ix devices, ?_⟩
  intro fresh req config stores stored hstored hmade hclassified
  rw [← hclassified]
  exact Request.notices_infix_build hstored hmade

namespace Fixture

/-- A device of unknown type. -/
def unknownDevice : Device :=
  .plain ⟨⟨1⟩, default⟩ .unknown "tpm"

/-- A machine with a device of unknown type and a disk of unknown kind. -/
def withUnknownDevice : Fixture :=
  plain (plainMachine none [] []) [unknownDevice, .plain ⟨⟨2⟩, default⟩ .disk "tape"]

/-- The disk is reported, and the device of unknown type is neither described nor reported. -/
theorem build_unknownDevice_unreported :
    let devices := withUnknownDevice.startDevices (.constant default)
    let cs := DeviceClasses.ofDevices (.initial .x86_64 .ide) devices
    unknownDevice ∈ devices ∧ ¬ Accounted cs unknownDevice ∧ ¬ NoneSilent devices cs ∧
      cs.notices = [.unknownDisk "tape"] ∧
      cs.notices <:+: (withUnknownDevice.build (.constant default) .empty).notices ∧
      (withUnknownDevice.build (.constant default) .empty).notices = [.unknownDisk "tape"] := by
  have hmem : unknownDevice ∈ withUnknownDevice.startDevices (.constant default) :=
    List.mem_cons_self
  obtain ⟨haccounts, hsilent, hreports⟩ := DeviceClasses.accountsFor_and_noneSilent_iff
    (.initial .x86_64 .ide) (withUnknownDevice.startDevices (.constant default))
  refine ⟨hmem, ?_, ?_, rfl, ?_, by decide +kernel⟩
  · rw [haccounts.accounted unknownDevice hmem rfl]
    decide
  · rw [hsilent]
    exact fun h => h unknownDevice hmem rfl rfl
  · exact hreports (.constant default) withUnknownDevice.request .empty _ _ rfl
      (by decide +kernel) rfl

end Fixture

end VmDescriptor
