import Mathlib.Data.List.Induction
import Mathlib.Order.Bounds.Basic
import VmDescriptor.Proofs.Descriptor.Overflow
import VmDescriptor.Proofs.Descriptor.TargetNames

/-!
The disk elements of a descriptor.

The CD-ROMs and the floppy come first, then the disks of the machine in their order. A disk takes
the least index after that of the disk before it in its family, unless the index is that of a
CD-ROM on its bus. Unmanaged disks take an index and have no element.
-/

namespace VmDescriptor.Descriptor

open Program Xml

/-! ### Disks with their indices -/

/-- The device that a disk is plugged with: the last plugged one of a disk with its identity. -/
def deviceOf? (vm : Uuid) (devices : List Device) (disk : Disk) : Option Device :=
  (devices.filter (DeviceClasses.isDiskOf "disk")).reverse.find? (·.id = ⟨disk.id, vm⟩)

/-- A disk of the machine with its place in the list, the device that it is plugged with, and the
index that it takes. -/
structure DiskEntry where
  disk : Disk
  place : Nat
  device : Device
  index : Nat

namespace DiskEntry

/-- The disk with its place. -/
def listed (e : DiskEntry) : Disk × Nat := (e.disk, e.place)

/-- The family that counts the disk. -/
def family (e : DiskEntry) : BusFamily := e.disk.attachment.interface.family

/-- The target of the disk, which is empty on sPAPR. -/
def target (e : DiskEntry) : Node :=
  match TargetBus.ofDisk? e.disk.attachment.interface with
  | some bus => Descriptor.target bus e.index
  | none => .leaf "target" []

end DiskEntry

/-- The index of the last disk of a family among some. -/
def lastIndex? (family : BusFamily) (entries : List DiskEntry) : Option Nat :=
  (entries.reverse.find? (·.family = family)).map (·.index)

/-- Each disk takes the least index after that of the disk before it in its family, except those
that its interface skips. -/
def TakesLeast (skipped : DiskInterface → List Nat) (entries : List DiskEntry) : Prop :=
  ∀ before e after, entries = before ++ e :: after →
    IsLeast {n | (∀ i ∈ lastIndex? e.family before, i < n) ∧
      n ∉ skipped e.disk.attachment.interface} e.index

/-- The disks of a machine that have a device, in the order of their elements. -/
structure DiskEntries (vm : VirtualMachine) (devices : List Device)
    (skipped : DiskInterface → List Nat) (entries : List DiskEntry) : Prop where
  plugged : (entries.map (·.listed)).Perm
    (vm.disks.zipIdx.filter fun x => (deviceOf? vm.id devices x.1).isSome)
  device : ∀ e ∈ entries, deviceOf? vm.id devices e.disk = some e.device
  ordered : (entries.map (·.listed)).Pairwise ComesBefore
  index : TakesLeast skipped entries

section

variable {vm : Uuid} {devices : List Device}

/-- The disks that have a device, with the indices that they take one after the other. -/
def entriesFrom (vm : Uuid) (devices : List Device) :
    DiskIndices → List (Disk × Nat) → List DiskEntry
  | _, [] => []
  | ix, (disk, place) :: rest =>
    match deviceOf? vm devices disk with
    | none => entriesFrom vm devices ix rest
    | some device =>
      let (index, ix) := ix.take disk.attachment.interface
      ⟨disk, place, device, index⟩ :: entriesFrom vm devices ix rest

section

variable {x : Disk × Nat} {rest : List (Disk × Nat)} {ix : DiskIndices}

lemma entriesFrom_cons_of_none (h : deviceOf? vm devices x.1 = none) :
    entriesFrom vm devices ix (x :: rest) = entriesFrom vm devices ix rest := by
  rw [entriesFrom, h]

lemma entriesFrom_cons_of_some {device : Device} (h : deviceOf? vm devices x.1 = some device) :
    entriesFrom vm devices ix (x :: rest) =
      ⟨x.1, x.2, device, (ix.take x.1.attachment.interface).1⟩ ::
        entriesFrom vm devices (ix.take x.1.attachment.interface).2 rest := by
  rw [entriesFrom, h]

end

lemma map_entriesFrom (listed : List (Disk × Nat)) (ix : DiskIndices) :
    (entriesFrom vm devices ix listed).map (fun e => (e.disk, e.device, e.index)) =
      indexedDisks vm (devices.filter (DeviceClasses.isDiskOf "disk")) (listed.map Prod.fst)
        ix := by
  induction listed generalizing ix with
  | nil => rfl
  | cons x rest ih =>
    rw [List.map_cons, indexedDisks]
    change _ = match deviceOf? vm devices x.1 with
      | none => _
      | some device => _
    cases h : deviceOf? vm devices x.1 with
    | none => rw [entriesFrom_cons_of_none h, ih]
    | some device => rw [entriesFrom_cons_of_some h, List.map_cons, ih]

lemma listed_entriesFrom (listed : List (Disk × Nat)) (ix : DiskIndices) :
    (entriesFrom vm devices ix listed).map (·.listed) =
      listed.filter fun x => (deviceOf? vm devices x.1).isSome := by
  induction listed generalizing ix with
  | nil => rfl
  | cons x rest ih =>
    cases h : deviceOf? vm devices x.1 with
    | none => rw [entriesFrom_cons_of_none h, List.filter_cons_of_neg (by simp [h]), ih]
    | some device =>
      rw [entriesFrom_cons_of_some h, List.filter_cons_of_pos (by simp [h]), List.map_cons, ih]
      rfl

lemma device_of_mem_entriesFrom {e : DiskEntry} {listed : List (Disk × Nat)} {ix : DiskIndices}
    (he : e ∈ entriesFrom vm devices ix listed) :
    deviceOf? vm devices e.disk = some e.device := by
  induction listed generalizing ix with
  | nil => cases he
  | cons x rest ih =>
    cases h : deviceOf? vm devices x.1 with
    | none =>
      rw [entriesFrom_cons_of_none h] at he
      exact ih he
    | some device =>
      rw [entriesFrom_cons_of_some h] at he
      rcases List.mem_cons.mp he with rfl | he
      · exact h
      · exact ih he

lemma lastIndex?_cons (family : BusFamily) (e : DiskEntry) (entries : List DiskEntry) :
    lastIndex? family (e :: entries) =
      (lastIndex? family entries).or (if e.family = family then some e.index else none) := by
  rw [lastIndex?, List.reverse_cons, List.find?_append, Option.map_or, List.find?_singleton]
  congr 1
  by_cases h : e.family = family <;> simp [h]

/-- A disk that has taken its index is the last one of its family until another one follows. -/
lemma lastIndex?_or_last (family : BusFamily) (disk : Disk) (place : Nat) (device : Device)
    (ix : DiskIndices) (entries : List DiskEntry) :
    (lastIndex? family
        (⟨disk, place, device, (ix.take disk.attachment.interface).1⟩ :: entries)).or
          (ix.last family) =
      (lastIndex? family entries).or ((ix.take disk.attachment.interface).2.last family) := by
  rw [lastIndex?_cons, Option.or_assoc, DiskIndices.last_take]
  congr 1
  by_cases h : family = disk.attachment.interface.family
  · simp [DiskEntry.family, h]
  · simp [DiskEntry.family, h, Ne.symm h]

/-- The disks of a family go on from the last index that has been given out. -/
lemma isLeast_entriesFrom {before after : List DiskEntry} {e : DiskEntry}
    {listed : List (Disk × Nat)} {ix : DiskIndices}
    (hsplit : entriesFrom vm devices ix listed = before ++ e :: after) :
    IsLeast {n | (∀ i ∈ (lastIndex? e.family before).or (ix.last e.family), i < n) ∧
      n ∉ ix.reserved e.disk.attachment.interface} e.index := by
  induction listed generalizing ix before with
  | nil => simp [entriesFrom] at hsplit
  | cons x rest ih =>
    cases h : deviceOf? vm devices x.1 with
    | none =>
      rw [entriesFrom_cons_of_none h] at hsplit
      exact ih hsplit
    | some device =>
      rw [entriesFrom_cons_of_some h] at hsplit
      cases before with
      | nil =>
        obtain ⟨rfl, -⟩ := List.cons.inj hsplit
        exact ix.isLeast_take _
      | cons first before =>
        obtain ⟨rfl, hrest⟩ := List.cons.inj hsplit
        rw [lastIndex?_or_last]
        exact ih hrest

end

section

variable {vm : VirtualMachine} {devices : List Device} {skipped : DiskInterface → List Nat}

/-- What is skipped counts as a set. -/
lemma TakesLeast.congr {skipped' : DiskInterface → List Nat} {entries : List DiskEntry}
    (h : TakesLeast skipped entries) (heq : ∀ interface n, n ∈ skipped' interface ↔
      n ∈ skipped interface) : TakesLeast skipped' entries := by
  intro before e after hsplit
  simp only [heq]
  exact h before e after hsplit

lemma TakesLeast.of_append {entries after : List DiskEntry}
    (h : TakesLeast skipped (entries ++ after)) : TakesLeast skipped entries := by
  rintro before e rest rfl
  exact h before e (rest ++ after) (by simp)

/-- The indices are determined by the disks with their devices in order. -/
lemma TakesLeast.eq_of_listed_eq {entries entries' : List DiskEntry}
    (h : TakesLeast skipped entries) (h' : TakesLeast skipped entries')
    (hdevice : ∀ e ∈ entries, deviceOf? vm.id devices e.disk = some e.device)
    (hdevice' : ∀ e ∈ entries', deviceOf? vm.id devices e.disk = some e.device)
    (hlisted : entries.map (·.listed) = entries'.map (·.listed)) : entries = entries' := by
  induction entries using List.reverseRecOn generalizing entries' with
  | nil => exact (List.map_eq_nil_iff.mp hlisted.symm).symm
  | append_singleton entries e ih =>
    rw [List.map_append] at hlisted
    obtain ⟨front, back, rfl, hfront, hback⟩ := List.map_eq_append_iff.mp hlisted.symm
    obtain ⟨e', rfl, he⟩ := List.map_eq_singleton_iff.mp hback
    obtain ⟨hfronts, hlast⟩ := List.forall_mem_append.mp hdevice
    obtain ⟨hfronts', hlast'⟩ := List.forall_mem_append.mp hdevice'
    obtain rfl := ih h.of_append h'.of_append hfronts hfronts' hfront.symm
    obtain ⟨disk, place, device, index⟩ := e
    obtain ⟨disk', place', device', index'⟩ := e'
    obtain ⟨rfl, rfl⟩ : disk' = disk ∧ place' = place := Prod.mk.inj he
    obtain rfl : device = device' := Option.some.inj <|
      (hlast _ (List.mem_singleton_self _)).symm.trans (hlast' _ (List.mem_singleton_self _))
    obtain rfl : index = index' := (h _ _ [] rfl).unique (h' _ _ [] rfl)
    rfl

/-- **One numbering**: the disks of a machine take their indices in one way. -/
theorem DiskEntries.unique {entries entries' : List DiskEntry}
    (h : DiskEntries vm devices skipped entries) (h' : DiskEntries vm devices skipped entries') :
    entries = entries' :=
  h.index.eq_of_listed_eq h'.index h.device h'.device <|
    List.Perm.eq_of_pairwise (fun _ _ _ _ hxy hyx => absurd hyx hxy.asymm) h.ordered h'.ordered
      (h.plugged.trans h'.plugged.symm)

/-- The disks that take their indices one after the other do so as they should. -/
theorem exists_diskEntries (vm : VirtualMachine) (devices : List Device) {ix : DiskIndices}
    (hix : ∀ family, ix.last family = none) :
    ∃ entries, DiskEntries vm devices ix.reserved entries ∧
      entries.map (fun e => (e.disk, e.device, e.index)) =
        indexedDisks vm.id (devices.filter (DeviceClasses.isDiskOf "disk"))
          (sortedDisks vm.disks) ix := by
  obtain ⟨listed, hperm, hsorted, hordered⟩ := exists_pairwise_comesBefore vm.disks
  refine ⟨entriesFrom vm.id devices ix listed, ⟨?_, ?_, ?_, ?_⟩, ?_⟩
  · rw [listed_entriesFrom]
    exact hperm.filter _
  · exact fun e he => device_of_mem_entriesFrom he
  · rw [listed_entriesFrom]
    exact hordered.filter _
  · intro before e after hsplit
    have hleast := isLeast_entriesFrom hsplit
    rwa [hix, Option.or_none] at hleast
  · rw [map_entriesFrom, hsorted]

end

/-! ### Elements -/

/-- The indices that the disks of an interface skip: those of the described CD-ROMs, if they are on
its bus. -/
def skippedIndices (cd : CdInterface) (vm : VirtualMachine) (cdroms : List Device)
    (interface : DiskInterface) : List Nat :=
  if cd.diskInterface? = some interface then cdromNumbers cd vm cdroms else []

/-- The plugged CD-ROMs among some devices. -/
def cdromsOf (devices : List Device) : List Device :=
  devices.filter (DeviceClasses.isDiskOf "cdrom")

/-- The devices of a start by class. -/
def classesOf (vm : VirtualMachine) (config : BuildConfig) (devices : List Device) :
    DeviceClasses :=
  .ofDevices (.initial vm.arch config.cdInterface) devices

/-- The disk elements of a machine that is started with some devices: the payload CD-ROMs, the
user's CD-ROM, the floppy, and the disks that have a managed device. -/
structure DiskElements (given : Answers) (vm : VirtualMachine) (config : BuildConfig)
    (devices : List Device) (elements : List Node) (entries : List DiskEntry)
    (nodes : List Node) : Prop where
  elements : elements =
    (payloads (cdromsOf devices)).map
        (fun _ => payloadCdrom config.cdInterface config.cdInterface.payloadIndex) ++
      (if hasUserCdrom vm (cdromsOf devices) then
        [userCdrom vm config.cdInterface config.cdInterface.cdromIndex
          (userDevice? (cdromsOf devices)) (bootOrder vm (classesOf vm config devices))]
      else []) ++
      (classesOf vm config devices).floppy.toList.map (floppy vm) ++ nodes
  numbered : DiskEntries vm devices
    (skippedIndices config.cdInterface vm (cdromsOf devices)) entries
  described : List.Forall₂
    (fun (e : DiskEntry) n => Describes given config
      (bootOrder vm (classesOf vm config devices)) (e.disk, e.device, e.index) n ∧
        targets n = [e.target])
    (entries.filter (·.device.managed)) nodes

section

variable {vm : VirtualMachine} {config : BuildConfig} {devices : List Device}

lemma cdroms_classesOf : (classesOf vm config devices).cdroms = cdromsOf devices :=
  DeviceClasses.cdroms_ofDevices _ _

lemma onlyControllers_classesOf :
    DeviceClasses.OnlyControllers (.initial vm.arch config.cdInterface)
      (classesOf vm config devices).indices :=
  DeviceClasses.onlyControllers_ofDevices _ _

lemma cd_classesOf : (classesOf vm config devices).indices.cd = config.cdInterface := by
  rw [onlyControllers_classesOf]
  rfl

variable (vm config devices) in
/-- No disk has taken an index when those of the CD-ROMs are reserved. -/
lemma last_cdIndices (family : BusFamily) :
    (cdIndices vm (classesOf vm config devices)).last family = none := by
  rw [cdIndices_eq, onlyControllers_classesOf]
  rfl

/-- The disks that are described, with the indices that they should have. -/
lemma exists_describedDisks (vm : VirtualMachine) (config : BuildConfig) (devices : List Device) :
    ∃ entries, DiskEntries vm devices
        (skippedIndices config.cdInterface vm (cdromsOf devices)) entries ∧
      describedDisks vm (classesOf vm config devices) =
        (entries.filter (·.device.managed)).map fun e => (e.disk, e.device, e.index) := by
  obtain ⟨entries, hentries, hindexed⟩ :=
    exists_diskEntries vm devices (last_cdIndices vm config devices)
  have hskipped (interface : DiskInterface) (n : Nat) :
      n ∈ skippedIndices config.cdInterface vm (cdromsOf devices) interface ↔
        n ∈ (cdIndices vm (classesOf vm config devices)).reserved interface := by
    rw [mem_reserved_cdIndices_iff onlyControllers_classesOf, cd_classesOf, cdroms_classesOf,
      skippedIndices, List.mem_ite_nil_right]
  refine ⟨entries, { hentries with index := hentries.index.congr hskipped }, ?_⟩
  have hdisks : (classesOf vm config devices).disks =
      devices.filter (DeviceClasses.isDiskOf "disk") := DeviceClasses.disks_ofDevices _ _
  rw [describedDisks, hdisks, ← indexedDisks_eq, ← hindexed, List.filter_map]
  rfl

end

/-- The disk elements of a descriptor are those of its devices. -/
theorem exists_diskElements {given : Answers} {req : Request} {config : BuildConfig}
    {devices : List Device} {ns : List Node}
    (h : (deviceNodes req config (classesOf req.vm config devices)).MayReturn given ns) :
    ∃ entries nodes, DiskElements given req.vm config devices (elementsNamed "disk" ns) entries
      nodes := by
  obtain ⟨nodes, hdescribes, helements⟩ := exists_diskNodes_of_mayReturn h
  obtain ⟨entries, hentries, hdescribed⟩ := exists_describedDisks req.vm config devices
  refine ⟨entries, nodes, ?_, hentries, ?_⟩
  · rw [helements, removableNodes_eq, cd_classesOf, cdroms_classesOf, List.map_const']
  · rw [hdescribed, List.forall₂_map_left_iff] at hdescribes
    refine hdescribes.imp fun e n hn => ⟨hn, ?_⟩
    obtain ⟨block, qos, hn⟩ := hn
    exact targets_disk hn

end VmDescriptor.Descriptor

namespace VmDescriptor

open Descriptor Program Xml

/-- **The disk elements of a descriptor** are the payload CD-ROMs, the user's CD-ROM, the floppy
and the disks with a managed device, these in their order and each with the least index that is
free after that of the disk before it in its family. -/
theorem Request.build_diskElements {fresh : FreshIds} {req : Request} {config : EngineConfig}
    {stores : Stores} {text : String} (h : (req.build fresh config stores).result = .ok text) :
    ∃ root stored entries nodes, req.root fresh config stores = .ok root ∧
      root.document = .ok text ∧ stores [] (.devicesForVm req.vm.id) = .ok stored ∧
      DiskElements (givenBy stores) req.vm (.resolve config req.vm)
        (RunOnce.devices fresh req.vm req.payload stored) (elementsNamed "disk" [root]) entries
        nodes := by
  obtain ⟨root, hroot, hdocument⟩ := build_ok_iff.mp h
  obtain ⟨stored, hstored, sizingNodes, hsizing, cpuNode, hcpu, devices, hdevices, rfl⟩ :=
    exists_stored hroot
  obtain ⟨entries, nodes, helements⟩ := exists_diskElements hdevices
  refine ⟨_, stored, entries, nodes, hroot, hdocument, hstored, ?_⟩
  rwa [elementsNamed_sections isDeviceName_disk hsizing hcpu]

namespace Fixture

/-- A machine with both kinds of CD-ROMs and four IDE disks, of which one has an unmanaged device
and one has none. -/
def withMixedDisks : Fixture :=
  plain (plainMachine none
      [plainDisk ⟨1⟩ .ide, plainDisk ⟨2⟩ .ide, plainDisk ⟨3⟩ .ide, plainDisk ⟨4⟩ .ide] [])
    [.plain ⟨⟨1⟩, default⟩ .disk "disk",
      { Device.plain ⟨⟨2⟩, default⟩ .disk "disk" with managed := false },
      .plain ⟨⟨4⟩, default⟩ .disk "disk", .plain ⟨⟨5⟩, default⟩ .disk "cdrom",
      { Device.plain ⟨⟨6⟩, default⟩ .disk "cdrom" with
        parameters := SortedMap.empty.insert Device.payloadKey .null }]

/-- The CD-ROMs are described first. The first disk comes before them on the bus; the unmanaged
one takes the index after them. -/
theorem build_diskElements_mixed :
    ∃ text root stored entries nodes,
      (withMixedDisks.build (.constant default) .empty).result = .ok text ∧
      withMixedDisks.root (.constant default) .empty = .ok root ∧ root.document = .ok text ∧
      DiskElements (givenBy (.ofInventory withMixedDisks.inventory)) withMixedDisks.vm
        (.resolve .empty withMixedDisks.vm)
        (RunOnce.devices (.constant default) withMixedDisks.vm withMixedDisks.payload stored)
        (elementsNamed "disk" [root]) entries nodes ∧
      targetNames root = ["hdb", "hdc", "hda", "hde"] := by
  have hsorted : sortedDisks withMixedDisks.vm.disks = withMixedDisks.vm.disks :=
    sortedDisks_eq_self (by decide +kernel)
  have hok : ∃ text, (withMixedDisks.build (.constant default) .empty).result = .ok text :=
    exists_ok_iff.mpr ⟨by decide +kernel, by decide +kernel, by decide +kernel⟩
  obtain ⟨text, h⟩ := hok
  obtain ⟨root, stored, entries, nodes, hroot, hdocument, -, helements⟩ :=
    Request.build_diskElements h
  refine ⟨text, root, stored, entries, nodes, h, hroot, hdocument, helements, ?_⟩
  rw [targetNames_eq hroot, diskSlots, describedDisks, hsorted]
  decide +kernel

end Fixture

end VmDescriptor
