import Mathlib.Data.List.Forall2
import VmDescriptor.Proofs.DeviceClasses.Controllers

/-!
How a list of devices is distributed.

What puts a device into a class is a test on the device alone, and no device passes two of the
tests. So each class is the list without the devices that fail its test, in the order of the list.
Of the floppies one is chosen, and of the peripherals the virtio-scsi controllers are numbered.
-/

namespace VmDescriptor.DeviceClasses

/-! ### Tests for the classes -/

/-- The device is a plugged interface of a known kind. -/
def isInterface (d : Device) : Bool :=
  d.plugged && d.type = .interface && d.subtype ∈ InterfaceKind.all.map (·.name)

/-- The device is a plugged virtio-scsi controller that can be used. -/
def isVirtioScsi (d : Device) : Bool :=
  isPeripheral d && d.type = .controller && d.subtype = Controller.virtioScsi

/-- The tests for the classes. -/
def tests : List (Device → Bool) :=
  [isPeripheral, isInterface, isDiskOf "disk", isDiskOf "cdrom", isDiskOf Device.floppySubtype]

/-- The types that no device is described of. -/
def undescribedTypes : List DeviceType :=
  [.memory, .channel, .redirdev, .unknown]

/-- The device is a plugged one of a type that is never described. -/
def isUndescribed (d : Device) : Bool :=
  d.plugged && d.type ∈ undescribedTypes

/-- The device is a plugged one of an unknown kind or with unusable parameters. -/
def isSkipped (d : Device) : Bool :=
  d.plugged &&
    (d.type = .disk && d.subtype ∉ ["disk", "cdrom", Device.floppySubtype] ||
      d.type = .interface && d.subtype ∉ InterfaceKind.all.map (·.name) ||
      Peripheral.isType d.type && ¬ Peripheral.Usable d)

/-- The tests for the devices that are in no class. -/
def otherTests : List (Device → Bool) :=
  [isSkipped, isUndescribed]

lemma isSkipped_iff {d : Device} :
    isSkipped d ↔ d.plugged ∧
      (d.type = .disk ∧ d.subtype ∉ ["disk", "cdrom", Device.floppySubtype] ∨
        d.type = .interface ∧ d.subtype ∉ InterfaceKind.all.map (·.name) ∨
        Peripheral.isType d.type ∧ ¬ Peripheral.Usable d) := by
  simp [isSkipped, or_assoc, -List.mem_map]

/-- No type that is never described is one of peripherals. -/
lemma isType_eq_false {type : DeviceType} (h : type ∈ undescribedTypes) :
    Peripheral.isType type = false := by
  revert h
  cases type <;> decide

lemma isPeripheral_eq_false {d : Device} (h : Peripheral.isType d.type = false) :
    isPeripheral d = false := by
  rw [Bool.eq_false_iff]
  intro hperipheral
  exact Bool.false_ne_true (h.symm.trans (isPeripheral_iff.mp hperipheral).2.type)

/-- A plugged device passes one of the tests and no device passes two of them. -/
lemma countP_tests_add (d : Device) :
    tests.countP (· d) + otherTests.countP (· d) = if d.plugged then 1 else 0 := by
  cases hplugged : d.plugged with
  | false =>
    simp [tests, otherTests, isPeripheral, isInterface, isDiskOf, isSkipped, isUndescribed,
      hplugged]
  | true =>
    cases htype : d.type with
    | disk =>
      have hperipheral := isPeripheral_eq_false (d := d) (by rw [htype]; rfl)
      have hsubtype : d.subtype = "disk" ∨ d.subtype = "cdrom" ∨
          d.subtype = Device.floppySubtype ∨
            d.subtype ∉ ["disk", "cdrom", Device.floppySubtype] := by
        simp only [List.mem_cons, List.not_mem_nil]
        tauto
      rcases hsubtype with h | h | h | h <;>
        simp_all [tests, otherTests, isInterface, isDiskOf, isSkipped, isUndescribed,
          undescribedTypes, Peripheral.isType, Device.floppySubtype]
    | interface =>
      have hperipheral := isPeripheral_eq_false (d := d) (by rw [htype]; rfl)
      by_cases hsubtype : d.subtype ∈ InterfaceKind.all.map (·.name) <;>
        simp [tests, otherTests, isInterface, isDiskOf, isSkipped, isUndescribed,
          undescribedTypes, Peripheral.isType, hplugged, htype, hperipheral, hsubtype,
          -List.mem_map]
    | _ =>
      by_cases husable : Peripheral.Usable d
      · have := husable.type
        simp_all [tests, otherTests, isPeripheral, isInterface, isDiskOf, isSkipped, isUndescribed,
          undescribedTypes, Peripheral.isType]
      · simp [tests, otherTests, isPeripheral, isInterface, isDiskOf, isSkipped, isUndescribed,
          undescribedTypes, hplugged, htype, husable, Peripheral.isType]

lemma isInterface_eq (d : Device) : isInterface d = (interfaceDevice? d).isSome := by
  have hkind : decide (d.subtype ∈ InterfaceKind.all.map (·.name)) =
      (InterfaceKind.all.find? (·.name == d.subtype)).isSome := by
    rw [Bool.eq_iff_iff, decide_eq_true_iff]
    simp
  rw [interfaceDevice?_eq, isInterface]
  rw [hkind]
  cases d.plugged && d.type = .interface <;> simp

/-- The interfaces are the devices of the list that are one. -/
lemma devices_interfaces (ix : DiskIndices) (devices : List Device) :
    (ofDevices ix devices).interfaces.map (·.device) = devices.filter isInterface := by
  rw [map_device_interfaces]
  exact List.filter_congr fun d _ => (isInterface_eq d).symm

lemma name_of_interfaceDevice? {d : Device} {i : InterfaceDevice}
    (h : interfaceDevice? d = some i) : i.kind.name = i.device.subtype := by
  rw [interfaceDevice?_eq] at h
  split at h
  · obtain ⟨kind, hkind, rfl⟩ := Option.map_eq_some_iff.mp h
    have hname := List.find?_some hkind
    exact eq_of_beq hname
  · cases h

/-! ### The floppy -/

/-- Of some floppies the first with a payload, or else the last. -/
def chosenFloppy (floppies : List Device) : Option Device :=
  (floppies.find? (·.isPayload)).or floppies.getLast?

lemma floppy_add (cs : DeviceClasses) (d : Device) :
    (cs.add d).floppy =
      if isDiskOf Device.floppySubtype d then chooseFloppy cs.floppy d else cs.floppy := by
  have hother (htype : d.type ≠ .disk) : isDiskOf Device.floppySubtype d = false :=
    Bool.eq_false_iff.mpr fun h => htype (of_isDiskOf h).1
  rcases cs.add_cases d with ⟨hplugged, hadd⟩ | ⟨hplugged, htype, hadd⟩ | ⟨-, htype, hadd⟩ |
    ⟨-, htype, -, hadd⟩ <;> rw [hadd]
  · simp [isDiskOf, hplugged]
  · unfold addDisk isDiskOf
    split_ifs <;> simp_all [Device.floppySubtype, withNotice]
  · rw [hother (htype ▸ by decide)]
    unfold addInterface
    split <;> rfl
  · rw [hother htype]
    unfold addPeripheral
    split <;> rfl

/-- A floppy with a payload stays; until there is one, each floppy replaces the one before. -/
lemma foldl_chooseFloppy (before : Option Device) (floppies : List Device) :
    floppies.foldl chooseFloppy before =
      if before.any Device.isPayload then before else (chosenFloppy floppies).or before := by
  induction floppies generalizing before with
  | nil => simp [chosenFloppy]
  | cons d rest ih =>
    rw [List.foldl_cons, ih, chooseFloppy]
    by_cases hbefore : before.any Device.isPayload
    · rw [if_pos hbefore, if_pos hbefore, if_pos hbefore]
    · rw [if_neg hbefore, if_neg hbefore, Option.any_some, chosenFloppy, chosenFloppy,
        List.find?_cons, List.getLast?_cons]
      cases hpayload : d.isPayload with
      | true => simp
      | false => cases rest.find? (·.isPayload) <;> cases rest.getLast? <;> simp

theorem floppy_ofDevices (ix : DiskIndices) (devices : List Device) :
    (ofDevices ix devices).floppy =
      chosenFloppy (devices.filter (isDiskOf Device.floppySubtype)) := by
  have hfoldl (cs : DeviceClasses) : (devices.foldl add cs).floppy =
      (devices.filter (isDiskOf Device.floppySubtype)).foldl chooseFloppy cs.floppy := by
    induction devices generalizing cs with
    | nil => rfl
    | cons d rest ih =>
      rw [List.foldl_cons, ih, floppy_add, List.filter_cons]
      split <;> rfl
  rw [ofDevices, hfoldl, foldl_chooseFloppy]
  exact Option.or_none

/-! ### Peripherals in order -/

/-- The peripheral is what the device is read as, whatever indices were given out before. -/
def IsReadAs (d : Device) (p : Peripheral) : Prop :=
  p.address = d.address ∧ ∃ ix ix', Peripheral.kind? d ix = .ok (some (p.kind, ix'))

/-- The index of a virtio-scsi controller and of no other device. -/
def scsiIndex? (d : Device) (p : Peripheral) : Option Nat :=
  if isVirtioScsi d then (controllerOf? p).bind (·.index) else none

/-- Some peripherals are what the devices of a list are read as, in the order of the list, where
the indices from a number on are given to the virtio-scsi controllers. -/
structure ReadInOrder (next : Nat) (devices : List Device) (ps : List Peripheral) : Prop where
  read : List.Forall₂ IsReadAs (devices.filter isPeripheral) ps
  scsi : ((devices.filter isPeripheral).zip ps).filterMap (fun r => scsiIndex? r.1 r.2) =
    List.range' next (devices.countP isVirtioScsi)

lemma ReadInOrder.append {next : Nat} {before after : List Device} {ps ps' : List Peripheral}
    (h : ReadInOrder next before ps)
    (h' : ReadInOrder (next + before.countP isVirtioScsi) after ps') :
    ReadInOrder next (before ++ after) (ps ++ ps') where
  read := by
    rw [List.filter_append]
    exact List.rel_append h.read h'.read
  scsi := by
    rw [List.filter_append, List.zip_append h.read.length_eq, List.filterMap_append, h.scsi,
      h'.scsi, List.countP_append, List.range'_append_1]

section

variable {d : Device}

lemma isVirtioScsi_iff (h : isPeripheral d) :
    isVirtioScsi d ↔ d.type = .controller ∧ d.subtype = Controller.virtioScsi := by
  simp [isVirtioScsi, h]

/-- A virtio-scsi controller takes the next index, and no other peripheral takes one. -/
lemma indices_of_kind? {ix ix' : DiskIndices} {kind : PeripheralKind} (h : isPeripheral d)
    (hkind : Peripheral.kind? d ix = .ok (some (kind, ix'))) :
    (isVirtioScsi d ∧ ix' = ix.takeController.2 ∧
      (controllerOf? ⟨kind, d.address⟩).bind (·.index) = some ix.nextController) ∨
    (¬ isVirtioScsi d ∧ ix' = ix) := by
  rw [isVirtioScsi_iff h]
  by_cases htype : d.type = .controller
  · rw [Peripheral.kind?_of_controller htype] at hkind
    obtain ⟨c, hread, hc⟩ := map_eq_ok_iff.mp hkind
    cases hc
    rw [← type_of_controller hread]
    rcases c.complete_cases ix with ⟨hserial, hcomplete⟩ | ⟨hscsi, hcomplete⟩ | ⟨hkept, hcomplete⟩
    · have hne : c.type ≠ Controller.virtioScsi := hserial ▸ by decide
      exact .inr ⟨fun h => hne h.2, by rw [hcomplete]⟩
    · rw [hcomplete]
      exact .inl ⟨⟨htype, hscsi⟩, rfl, rfl⟩
    · exact .inr ⟨fun h => (of_decide_eq_true hkept).2 h.2, by rw [hcomplete]⟩
  · exact .inr ⟨fun h => htype h.1, Peripheral.indices_of_kind?_of_ne htype hkind⟩

/-- What one device adds to the peripherals is read after what is there. -/
lemma readInOrder_add (cs : DeviceClasses) (d : Device) :
    ∃ ps, (cs.add d).peripherals = cs.peripherals ++ ps ∧
      ReadInOrder cs.indices.nextController [d] ps ∧
      (cs.add d).indices.nextController =
        cs.indices.nextController + [d].countP isVirtioScsi := by
  by_cases hperipheral : isPeripheral d
  · obtain ⟨kind, ix, hkind, hadd⟩ := cs.add_of_isPeripheral hperipheral
    have hone : [d].filter isPeripheral = [d] := by simp [hperipheral]
    have hscsi := indices_of_kind? hperipheral hkind
    rw [hadd]
    refine ⟨[⟨kind, d.address⟩], rfl, ⟨?_, ?_⟩, ?_⟩
    · rw [hone]
      exact .cons ⟨rfl, _, _, hkind⟩ .nil
    · rcases hscsi with ⟨hscsi, -, hindex⟩ | ⟨hscsi, -⟩
      · simp [hone, scsiIndex?, hscsi, hindex]
      · simp [hone, scsiIndex?, hscsi]
    · rcases hscsi with ⟨hscsi, rfl, -⟩ | ⟨hscsi, rfl⟩
      · simp [hscsi, DiskIndices.takeController]
      · simp [hscsi]
  · obtain ⟨hsame, hindices⟩ := cs.add_of_not_isPeripheral hperipheral
    have hnone : [d].filter isPeripheral = [] := by simp [hperipheral]
    have hscsi : [d].countP isVirtioScsi = 0 := by simp [isVirtioScsi, hperipheral]
    refine ⟨[], ?_, ⟨?_, ?_⟩, ?_⟩
    · rw [hsame, List.append_nil]
    · rw [hnone]
      exact .nil
    · rw [hnone, hscsi]
      rfl
    · rw [hindices, hscsi, Nat.add_zero]

end

lemma exists_readInOrder_foldl (cs : DeviceClasses) (devices : List Device) :
    ∃ ps, (devices.foldl add cs).peripherals = cs.peripherals ++ ps ∧
      ReadInOrder cs.indices.nextController devices ps ∧
      (devices.foldl add cs).indices.nextController =
        cs.indices.nextController + devices.countP isVirtioScsi := by
  induction devices generalizing cs with
  | nil => exact ⟨[], (List.append_nil _).symm, ⟨.nil, rfl⟩, rfl⟩
  | cons d rest ih =>
    obtain ⟨ps, hadd, hread, hindices⟩ := cs.readInOrder_add d
    obtain ⟨ps', hrest, hread', hindices'⟩ := ih (cs.add d)
    rw [hindices] at hread' hindices'
    refine ⟨ps ++ ps', ?_, hread.append hread', ?_⟩
    · rw [List.foldl_cons, hrest, hadd, List.append_assoc]
    · rw [List.foldl_cons, hindices', Nat.add_assoc, ← List.countP_append, List.singleton_append]

theorem readInOrder_ofDevices (ix : DiskIndices) (devices : List Device) :
    ReadInOrder ix.nextController devices (ofDevices ix devices).peripherals := by
  obtain ⟨ps, hps, hread, -⟩ := exists_readInOrder_foldl (initial ix) devices
  rw [ofDevices, hps]
  exact hread

/-- A memory balloon is described just when a device of the list is one. -/
theorem hasBalloon_ofDevices_iff (ix : DiskIndices) (devices : List Device) :
    (ofDevices ix devices).hasBalloon ↔ ∃ d ∈ devices.filter isPeripheral, d.type = .balloon := by
  have htypeOf : (ofDevices ix devices).hasBalloon ↔
      .balloon ∈ (ofDevices ix devices).peripherals.map typeOf := by
    rw [hasBalloon, List.any_eq_true, List.mem_map]
    refine exists_congr fun p => and_congr_right fun _ => ?_
    unfold typeOf
    cases p.kind <;> simp
  rw [htypeOf, typeOf_ofDevices, List.mem_filterMap]
  simp only [peripheralType?_eq_some_iff, isRead_iff, List.mem_filter, isPeripheral_iff]
  exact exists_congr fun d => by tauto

lemma name_of_display {d : Device} {g : Display} (h : Peripheral.display d = .ok g) :
    g.type.name = d.subtype := by
  unfold Peripheral.display at h
  split at h
  next type htype =>
    obtain ⟨ip, -, hg⟩ := bind_eq_ok_iff.mp h
    cases hg
    exact name_of_recognize htype
  next => cases h

lemma display?_eq_some_iff {d : Device} {g : Display} :
    display? d = some g ↔ d.plugged ∧ d.type = .graphics ∧ Peripheral.display d = .ok g :=
  read?_eq_some_iff

/-- A device describes a display just when it is a peripheral of their type. -/
lemma exists_display?_iff {d : Device} :
    (∃ g, display? d = some g) ↔ isPeripheral d ∧ d.type = .graphics := by
  have hread (htype : d.type = .graphics) :
      (∃ g, Peripheral.display d = .ok g) ↔ Peripheral.Usable d := by
    rw [Peripheral.exists_display_iff, Peripheral.usable_iff]
    simp [htype, Peripheral.isType]
  simp only [display?_eq_some_iff, exists_and_left, isPeripheral_iff]
  constructor
  · rintro ⟨hplugged, htype, h⟩
    exact ⟨⟨hplugged, (hread htype).mp h⟩, htype⟩
  · rintro ⟨⟨hplugged, h⟩, htype⟩
    exact ⟨hplugged, htype, (hread htype).mpr h⟩

/-- A SPICE display is described just when a device of the list is one. -/
theorem hasSpice_ofDevices_iff (ix : DiskIndices) (devices : List Device) :
    (ofDevices ix devices).hasSpice ↔ ∃ d ∈ devices.filter isPeripheral,
      d.type = .graphics ∧ d.subtype = GraphicsType.spice.name := by
  have hname {type : GraphicsType} : type.name = GraphicsType.spice.name ↔ type = .spice := by
    cases type <;> decide
  rw [hasSpice_eq, displays_ofDevices, List.any_eq_true]
  simp only [List.mem_filterMap, List.mem_filter, decide_eq_true_iff]
  constructor
  · rintro ⟨g, ⟨d, hd, hdisplay⟩, hspice⟩
    obtain ⟨hperipheral, htype⟩ := exists_display?_iff.mp ⟨g, hdisplay⟩
    have hsubtype := name_of_display (display?_eq_some_iff.mp hdisplay).2.2
    exact ⟨d, ⟨hd, hperipheral⟩, htype, hspice ▸ hsubtype.symm⟩
  · rintro ⟨d, ⟨hd, hperipheral⟩, htype, hsubtype⟩
    obtain ⟨g, hdisplay⟩ := exists_display?_iff.mpr ⟨hperipheral, htype⟩
    have hg := name_of_display (display?_eq_some_iff.mp hdisplay).2.2
    exact ⟨g, ⟨d, hd, hdisplay⟩, hname.mp (hg.trans hsubtype)⟩

/-! ### The distribution -/

/-- Some classes are a list of devices distributed: no device is of two classes, each class has the
devices of the list that pass its test, in the order of the list, and virtio-scsi controllers have
the indices from the base of the architecture on. -/
structure Distributes (arch : Architecture) (devices : List Device) (cs : DeviceClasses) :
    Prop where
  apart : ∀ d : Device, tests.countP (· d) ≤ 1
  disks : cs.disks = devices.filter (isDiskOf "disk")
  cdroms : cs.cdroms = devices.filter (isDiskOf "cdrom")
  interfaces : cs.interfaces.map (·.device) = devices.filter isInterface
  interfaceKinds : ∀ i ∈ cs.interfaces, i.kind.name = i.device.subtype
  floppy : cs.floppy = chosenFloppy (devices.filter (isDiskOf Device.floppySubtype))
  peripherals : ReadInOrder (scsiBase arch) devices cs.peripherals
  balloon : cs.hasBalloon ↔ ∃ d ∈ devices.filter isPeripheral, d.type = .balloon
  spice : cs.hasSpice ↔ ∃ d ∈ devices.filter isPeripheral,
    d.type = .graphics ∧ d.subtype = GraphicsType.spice.name

/-- **Distribution**: the classes of every list of devices are the list distributed. -/
theorem distributes_ofDevices (arch : Architecture) (cd : CdInterface) (devices : List Device) :
    Distributes arch devices (ofDevices (.initial arch cd) devices) where
  apart d := by
    have := countP_tests_add d
    split at this <;> omega
  disks := disks_ofDevices _ _
  cdroms := cdroms_ofDevices _ _
  interfaces := devices_interfaces _ _
  interfaceKinds := by
    rw [interfaces_ofDevices]
    intro i hi
    obtain ⟨d, -, hd⟩ := List.mem_filterMap.mp hi
    exact name_of_interfaceDevice? hd
  floppy := floppy_ofDevices _ _
  peripherals := nextController_initial arch cd ▸ readInOrder_ofDevices _ _
  balloon := hasBalloon_ofDevices_iff _ _
  spice := hasSpice_ofDevices_iff _ _

end VmDescriptor.DeviceClasses
