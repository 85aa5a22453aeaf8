import VmDescriptor.Proofs.Descriptor.Disks
import VmDescriptor.Proofs.TargetBus

/-!
The names under which the guest sees its disks.

Every CD-ROM, floppy and disk has a slot, a bus with an index on it, from which it is named.
Two slots with one name have buses with one stem. The indices keep the disks of a family apart,
and those on the bus of the CD-ROMs clear of the CD-ROMs. But payload CD-ROMs share one index,
and SATA shares its stem with virtio-scsi and no index with it.
-/

namespace VmDescriptor.Descriptor

open Program Xml

/-! ### Slots -/

/-- A bus and an index on it. -/
abbrev Slot := TargetBus × Nat

/-- The name of the disk in a slot. -/
def Slot.name (s : Slot) : String :=
  s.1.diskName s.2

/-- The disks in two slots have different names. -/
def Slot.Apart (s t : Slot) : Prop :=
  s.1.stem = t.1.stem → s.2 ≠ t.2

lemma Slot.name_ne_iff {s t : Slot} : s.name ≠ t.name ↔ s.Apart t := by
  simp only [name, ne_eq, TargetBus.diskName_inj, not_and, Apart]

/-- The slots of the CD-ROMs. -/
def cdromSlots (vm : VirtualMachine) (cs : DeviceClasses) : List Slot :=
  (cdromNumbers cs.indices.cd vm cs.cdroms).map fun index => (.ofCd cs.indices.cd, index)

/-- The slot of the floppy. -/
def floppySlots (cs : DeviceClasses) : List Slot :=
  cs.floppy.toList.map fun _ => (.fdc, 0)

/-- The slot of a disk; a disk on sPAPR has none. -/
def diskSlot? (x : Disk × Device × Nat) : Option Slot :=
  (TargetBus.ofDisk? x.1.attachment.interface).map fun bus => (bus, x.2.2)

/-- The slots of the described disks. -/
def diskSlots (vm : VirtualMachine) (cs : DeviceClasses) : List Slot :=
  (describedDisks vm cs).filterMap diskSlot?

/-! ### The names in a document -/

/-- The names of the targets in a disk element. -/
def devNames (disk : Node) : List String :=
  (targets disk).filterMap (·.attribute? "dev")

/-- The names of all targets in the disk elements of a tree. -/
def targetNames (root : Node) : List String :=
  (elementsNamed "disk" [root]).flatMap devNames

lemma devNames_of_describes {given : Answers} {config : BuildConfig} {order : BootOrder}
    {x : Disk × Device × Nat} {n : Node} (h : Describes given config order x n) :
    devNames n = (diskSlot? x).toList.map Slot.name := by
  obtain ⟨block, qos, h⟩ := h
  rw [devNames, targets_disk h]
  unfold diskTarget diskSlot?
  cases TargetBus.ofDisk? x.1.attachment.interface <;> rfl

lemma flatMap_devNames_removableNodes (vm : VirtualMachine) (cs : DeviceClasses) :
    (removableNodes vm cs).flatMap devNames =
      (cdromSlots vm cs ++ floppySlots cs).map Slot.name := by
  have hpayload (cd : CdInterface) (index : Nat) :
      devNames (payloadCdrom cd index) = [Slot.name (.ofCd cd, index)] := by
    rw [devNames, targets_payloadCdrom]
    rfl
  have huser (cd : CdInterface) (index : Nat) (device : Option Device) (order : BootOrder) :
      devNames (userCdrom vm cd index device order) = [Slot.name (.ofCd cd, index)] := by
    rw [devNames, targets_userCdrom]
    rfl
  have hfloppy (d : Device) : devNames (floppy vm d) = [Slot.name (.fdc, 0)] := by
    rw [devNames, targets_floppy]
    rfl
  have hpayloads (length index : Nat) :
      (List.replicate length (payloadCdrom cs.indices.cd index)).flatMap devNames =
        (List.replicate length index).map fun index => Slot.name (.ofCd cs.indices.cd, index) := by
    induction length with
    | zero => rfl
    | succ length ih =>
      rw [List.replicate_succ, List.flatMap_cons, ih, hpayload, List.replicate_succ, List.map_cons]
      rfl
  rw [removableNodes_eq, List.flatMap_append, List.flatMap_append, hpayloads, cdromSlots,
    cdromNumbers, floppySlots, List.map_append, List.map_append, List.map_append, List.map_map]
  cases hasUserCdrom vm cs.cdroms <;> cases cs.floppy <;> simp [huser, hfloppy]

/-! ### Slots that are apart -/

lemma nodup_names_iff {slots : List Slot} :
    (slots.map Slot.name).Nodup ↔ slots.Pairwise Slot.Apart := by
  rw [List.Nodup, List.pairwise_map]
  simp only [Slot.name_ne_iff]

/-- The user's CD-ROM is apart from the payload CD-ROMs, but these are all in one slot. -/
lemma pairwise_cdromSlots (vm : VirtualMachine) (cs : DeviceClasses) :
    (cdromSlots vm cs).Pairwise Slot.Apart ↔ (payloads cs.cdroms).length ≤ 1 := by
  have hne : cs.indices.cd.payloadIndex ≠ cs.indices.cd.cdromIndex := by
    cases cs.indices.cd <;> decide
  rw [cdromSlots, List.pairwise_map, cdromNumbers, List.pairwise_append]
  have hreplicate : (List.replicate (payloads cs.cdroms).length
      cs.indices.cd.payloadIndex).Pairwise (fun i j =>
        Slot.Apart (.ofCd cs.indices.cd, i) (.ofCd cs.indices.cd, j)) ↔
      (payloads cs.cdroms).length ≤ 1 := by
    rw [← List.nodup_replicate (a := cs.indices.cd.payloadIndex)]
    simp only [Slot.Apart, forall_const, List.Nodup]
  rw [hreplicate]
  refine and_iff_left ⟨?_, fun i hi j hj _ => ?_⟩
  · split <;> simp
  · split at hj
    · rw [List.eq_of_mem_replicate hi, List.mem_singleton.mp hj]
      exact hne
    · cases hj

/-- A named disk is on the bus of its interface, which is told by the stem. -/
lemma diskSlot?_eq_some {x : Disk × Device × Nat} {s : Slot} :
    diskSlot? x = some s ↔
      TargetBus.ofDisk? x.1.attachment.interface = some s.1 ∧ x.2.2 = s.2 := by
  unfold diskSlot?
  cases TargetBus.ofDisk? x.1.attachment.interface <;> simp [Prod.ext_iff]

lemma interface_eq_of_stem {i j : DiskInterface} {a b : TargetBus}
    (hi : TargetBus.ofDisk? i = some a) (hj : TargetBus.ofDisk? j = some b)
    (hstem : a.stem = b.stem) : i = j := by
  cases i <;> cases hi <;> cases j <;> cases hj <;> first | rfl | exact absurd hstem (by decide)

lemma pairwise_diskSlots (vm : VirtualMachine) (cs : DeviceClasses) :
    (diskSlots vm cs).Pairwise Slot.Apart := by
  refine List.Pairwise.filterMap _ ?_ ((pairwise_numbered _).filter _)
  intro x y hxy s hs t ht hstem
  obtain ⟨hx, hs⟩ := diskSlot?_eq_some.mp hs
  obtain ⟨hy, ht⟩ := diskSlot?_eq_some.mp ht
  have := hxy (by rw [interface_eq_of_stem hx hy hstem])
  omega

/-- The disks that count together with those of virtio-scsi, in the order of their indices. -/
def scsiDisks (vm : VirtualMachine) (cs : DeviceClasses) : List PluggedDisk :=
  (pluggedDisks vm.id cs.disks (sortedDisks vm.disks)).filter (·.family = .scsi)

section

variable {arch : Architecture} {cd : CdInterface} {vm : VirtualMachine} {cs : DeviceClasses}

/-- A disk on the bus of the CD-ROMs is apart from them. -/
lemma apart_of_shared (hcs : DeviceClasses.OnlyControllers (.initial arch cd) cs.indices)
    (interface : DiskInterface)
    (hshared : cs.indices.cd.diskInterface? = some interface)
    (hbus : TargetBus.ofDisk? interface = some (.ofCd cs.indices.cd))
    {s t : Slot} (hs : s ∈ cdromSlots vm cs) (ht : t ∈ diskSlots vm cs) : s.Apart t := by
  obtain ⟨i, hi, rfl⟩ := List.mem_map.mp hs
  obtain ⟨x, hx, ht⟩ := List.mem_filterMap.mp ht
  obtain ⟨hinterface, hindex⟩ := diskSlot?_eq_some.mp ht
  intro hstem heq
  obtain rfl := interface_eq_of_stem hbus hinterface hstem
  have hreserved := (mem_reserved_cdIndices_iff hcs).mpr ⟨hshared, hi⟩
  have hfree := notMem_reserved_of_mem_numbered (List.mem_of_mem_filter hx)
  rw [hindex, ← heq] at hfree
  exact hfree hreserved

/-- On SATA nothing is reserved, so virtio-scsi disks are counted from zero without gaps. -/
lemma mem_numbered_of_sata (hcs : DeviceClasses.OnlyControllers (.initial arch cd) cs.indices)
    (hsata : cs.indices.cd = .sata) (x : Disk × Device × Nat)
    (hx : x.1.attachment.interface.family = .scsi) :
    x ∈ numbered (cdIndices vm cs) (pluggedDisks vm.id cs.disks (sortedDisks vm.disks)) ↔
      (scsiDisks vm cs)[x.2.2]? = some (x.1, x.2.1) := by
  have hfree (interface : DiskInterface) : (cdIndices vm cs).reserved interface = [] := by
    simp [cdIndices_eq, DiskIndices.reserved, hsata, CdInterface.diskInterface?]
  have hstart : (cdIndices vm cs).start .scsi = 0 := by
    rw [cdIndices_eq, hcs]
    rfl
  have hcount := filter_numbered (pluggedDisks vm.id cs.disks (sortedDisks vm.disks)) .scsi
    fun interface _ => hfree interface
  have hfamily : x ∈ numbered (cdIndices vm cs)
      (pluggedDisks vm.id cs.disks (sortedDisks vm.disks)) ↔ x ∈ (numbered (cdIndices vm cs)
      (pluggedDisks vm.id cs.disks (sortedDisks vm.disks))).filter
        (·.1.attachment.interface.family = .scsi) := by
    rw [List.mem_filter, decide_eq_true hx, and_iff_left rfl]
  rw [hfamily, hcount, List.mem_mapIdx, hstart, List.getElem?_eq_some_iff]
  obtain ⟨disk, device, index⟩ := x
  constructor
  · rintro ⟨i, hi, h⟩
    simp only [Nat.zero_add, Prod.mk.injEq] at h
    obtain ⟨hdisk, hdevice, rfl⟩ := h
    exact ⟨hi, Prod.ext hdisk hdevice⟩
  · rintro ⟨hi, h⟩
    exact ⟨index, hi, by rw [Nat.zero_add]; exact congrArg (fun y => (y.1, y.2, index)) h⟩

/-- So there a disk has the name of a CD-ROM if it takes the index of one. -/
lemma apart_of_sata (hcs : DeviceClasses.OnlyControllers (.initial arch cd) cs.indices)
    (hsata : cs.indices.cd = .sata) :
    (∀ s ∈ cdromSlots vm cs, ∀ t ∈ diskSlots vm cs, s.Apart t) ↔
      ∀ i ∈ cdromNumbers .sata vm cs.cdroms, ∀ disk device,
        (scsiDisks vm cs)[i]? = some (disk, device) →
          ¬ (device.managed ∧ disk.attachment.interface = .virtioScsi) := by
  constructor
  · rintro h i hi disk device hget ⟨hmanaged, hvirtio⟩
    have hs : (TargetBus.ofCd cs.indices.cd, i) ∈ cdromSlots vm cs :=
      List.mem_map.mpr ⟨i, hsata ▸ hi, rfl⟩
    have hx : (disk, device, i) ∈ describedDisks vm cs :=
      List.mem_filter.mpr ⟨(mem_numbered_of_sata hcs hsata (disk, device, i)
        (by rw [hvirtio]; rfl)).mpr hget, hmanaged⟩
    have ht : ((TargetBus.scsi, i) : Slot) ∈ diskSlots vm cs :=
      List.mem_filterMap.mpr ⟨_, hx, diskSlot?_eq_some.mpr ⟨by rw [hvirtio]; rfl, rfl⟩⟩
    exact h _ hs _ ht (by rw [hsata]; rfl) rfl
  · intro h s hs t ht hstem heq
    obtain ⟨i, hi, rfl⟩ := List.mem_map.mp hs
    obtain ⟨x, hx, ht⟩ := List.mem_filterMap.mp ht
    obtain ⟨hmem, hmanaged⟩ := List.mem_filter.mp hx
    obtain ⟨hinterface, hindex⟩ := diskSlot?_eq_some.mp ht
    have hbus : TargetBus.ofDisk? .virtioScsi = some .scsi := rfl
    have hvirtio : x.1.attachment.interface = .virtioScsi :=
      (interface_eq_of_stem hbus hinterface (by rw [← hstem, hsata]; rfl)).symm
    have hget := (mem_numbered_of_sata hcs hsata x (by rw [hvirtio]; rfl)).mp hmem
    rw [hindex, ← heq] at hget
    exact h i (hsata ▸ hi) _ _ hget ⟨hmanaged, hvirtio⟩

/-- CD-ROMs are apart from disks, except on SATA. -/
lemma apart_cdrom_disk_iff
    (hcs : DeviceClasses.OnlyControllers (.initial arch cd) cs.indices) :
    (∀ s ∈ cdromSlots vm cs, ∀ t ∈ diskSlots vm cs, s.Apart t) ↔
      (cs.indices.cd = .sata → ∀ i ∈ cdromNumbers .sata vm cs.cdroms, ∀ disk device,
        (scsiDisks vm cs)[i]? = some (disk, device) →
          ¬ (device.managed ∧ disk.attachment.interface = .virtioScsi)) := by
  cases hcd : cs.indices.cd with
  | ide =>
    simp only [reduceCtorEq, false_implies, iff_true]
    exact fun s hs t ht => apart_of_shared hcs .ide (by rw [hcd]; rfl) (by rw [hcd]; rfl) hs ht
  | scsi =>
    simp only [reduceCtorEq, false_implies, iff_true]
    exact fun s hs t ht =>
      apart_of_shared hcs .virtioScsi (by rw [hcd]; rfl) (by rw [hcd]; rfl) hs ht
  | sata =>
    simp only [true_implies]
    exact apart_of_sata hcs hcd

/-- The stem of a floppy's name is its own. -/
lemma apart_floppy {s t : Slot} (hs : s ∈ cdromSlots vm cs ∨ s ∈ diskSlots vm cs)
    (ht : t ∈ floppySlots cs) : s.1.stem ≠ t.1.stem := by
  obtain ⟨_, -, rfl⟩ := List.mem_map.mp ht
  rcases hs with hs | hs
  · obtain ⟨_, -, rfl⟩ := List.mem_map.mp hs
    change (TargetBus.ofCd cs.indices.cd).stem ≠ TargetBus.fdc.stem
    cases cs.indices.cd <;> decide
  · obtain ⟨x, -, hx⟩ := List.mem_filterMap.mp hs
    have hbus := (diskSlot?_eq_some.mp hx).1
    cases hinterface : x.1.attachment.interface <;> rw [hinterface] at hbus <;>
      first | cases hbus | (rw [← Option.some.inj hbus]; decide)

/-- **Slots are apart** unless payload CD-ROMs share theirs or, on SATA, a virtio-scsi disk
takes the index of a CD-ROM. -/
theorem pairwise_slots_iff (hcs : DeviceClasses.OnlyControllers (.initial arch cd) cs.indices) :
    (cdromSlots vm cs ++ floppySlots cs ++ diskSlots vm cs).Pairwise Slot.Apart ↔
      (payloads cs.cdroms).length ≤ 1 ∧
        (cs.indices.cd = .sata → ∀ i ∈ cdromNumbers .sata vm cs.cdroms, ∀ disk device,
          (scsiDisks vm cs)[i]? = some (disk, device) →
            ¬ (device.managed ∧ disk.attachment.interface = .virtioScsi)) := by
  have hfloppies : (floppySlots cs).Pairwise Slot.Apart := by
    unfold floppySlots
    cases cs.floppy <;> simp
  rw [← apart_cdrom_disk_iff hcs, ← pairwise_cdromSlots vm cs]
  simp only [List.pairwise_append, List.mem_append]
  constructor
  · rintro ⟨⟨hcdroms, -, -⟩, -, hdisks⟩
    exact ⟨hcdroms, fun s hs => hdisks s (.inl hs)⟩
  · rintro ⟨hcdroms, hdisks⟩
    refine ⟨⟨hcdroms, hfloppies, fun s hs t ht hstem => ?_⟩, pairwise_diskSlots vm cs, ?_⟩
    · exact absurd hstem (apart_floppy (.inl hs) ht)
    · rintro s (hs | hs) t ht
      · exact hdisks s hs t ht
      · exact fun hstem => absurd hstem.symm (apart_floppy (.inr ht) hs)

end

end VmDescriptor.Descriptor

namespace VmDescriptor.Fixture

open Descriptor Xml

/-- The names in a descriptor are those of the slots. -/
lemma targetNames_eq {f : Fixture} {fresh : FreshIds} {config : EngineConfig} {root : Node}
    (h : f.root fresh config = .ok root) :
    targetNames root =
      (cdromSlots f.vm (f.classes fresh config) ++ floppySlots (f.classes fresh config) ++
        diskSlots f.vm (f.classes fresh config)).map Slot.name := by
  obtain ⟨diskNodes, hdescribes, hdisk⟩ := exists_diskNodes h
  have hdisks := flatMap_eq_of_forall₂ hdescribes fun _ _ => devNames_of_describes
  rw [targetNames, hdisk, List.flatMap_append, flatMap_devNames_removableNodes, hdisks,
    diskSlots, List.filterMap_eq_flatMap_toList]
  simp only [List.map_append, List.map_flatMap]

/-- Names are distinct unless payload CD-ROMs share theirs or, on SATA, a virtio-scsi disk takes the
index of a CD-ROM. -/
lemma nodup_targetNames_iff {f : Fixture} {fresh : FreshIds} {config : EngineConfig} {root : Node}
    (h : f.root fresh config = .ok root) :
    (targetNames root).Nodup ↔
      (payloads (f.classes fresh config).cdroms).length ≤ 1 ∧
        ((BuildConfig.resolve config f.vm).cdInterface = .sata →
          ∀ i ∈ cdromNumbers .sata f.vm (f.classes fresh config).cdroms, ∀ disk device,
            (scsiDisks f.vm (f.classes fresh config))[i]? = some (disk, device) →
              ¬ (device.managed ∧ disk.attachment.interface = .virtioScsi)) := by
  rw [targetNames_eq h, nodup_names_iff,
    pairwise_slots_iff (onlyControllers_classes f fresh config), cd_classes]

/-- **Disk names are distinct** in a descriptor just when at most one payload CD-ROM is
described and, if the CD-ROMs are on SATA, no virtio-scsi disk takes the index of one. -/
theorem targetNames_nodup_iff {f : Fixture} {fresh : FreshIds} {config : EngineConfig}
    {text : String} (h : (f.build fresh config).result = .ok text) :
    ∃ root, f.root fresh config = .ok root ∧ root.document = .ok text ∧
      ((targetNames root).Nodup ↔
        (payloads (f.classes fresh config).cdroms).length ≤ 1 ∧
          ((BuildConfig.resolve config f.vm).cdInterface = .sata →
            ∀ i ∈ cdromNumbers .sata f.vm (f.classes fresh config).cdroms, ∀ disk device,
              (scsiDisks f.vm (f.classes fresh config))[i]? = some (disk, device) →
                ¬ (device.managed ∧ disk.attachment.interface = .virtioScsi))) := by
  obtain ⟨root, hroot, hdocument⟩ := Request.build_ok_iff.mp h
  exact ⟨root, hroot, hdocument, nodup_targetNames_iff hroot⟩

/-- A machine of a given type with a disk on a bus, a payload CD-ROM and the user's CD-ROM. -/
def withCdroms (type : Option String) (interface : DiskInterface) : Fixture :=
  plain (plainMachine type [plainDisk ⟨1⟩ interface] [])
    [.plain ⟨⟨1⟩, default⟩ .disk "disk", .plain ⟨⟨2⟩, default⟩ .disk "cdrom",
      { Device.plain ⟨⟨3⟩, default⟩ .disk "cdrom" with
        parameters := SortedMap.empty.insert Device.payloadKey .null }]

/-- With IDE all names are distinct. -/
theorem targetNames_nodup_ide :
    ∃ text root, ((withCdroms none .ide).build (.constant default) .empty).result = .ok text ∧
      (withCdroms none .ide).root (.constant default) .empty = .ok root ∧
      root.document = .ok text ∧ (targetNames root).Nodup := by
  obtain ⟨text, h⟩ := Program.exists_ok
    (r := ((withCdroms none .ide).build (.constant default) .empty).result) (by decide +kernel)
  obtain ⟨root, hroot, hdocument, hnodup⟩ := targetNames_nodup_iff h
  have hide : (BuildConfig.resolve .empty (withCdroms none .ide).vm).cdInterface ≠ .sata := by
    decide +kernel
  exact ⟨text, root, h, hroot, hdocument,
    hnodup.mpr ⟨by decide +kernel, fun hsata => absurd hsata hide⟩⟩

/-- With SATA the user's CD-ROM and the first virtio-scsi disk are both called `sda`. -/
theorem targetNames_sata_not_nodup :
    ∃ text root, ((withCdroms (some "pc-q35") .virtioScsi).build (.constant default)
        .empty).result = .ok text ∧
      (withCdroms (some "pc-q35") .virtioScsi).root (.constant default) .empty = .ok root ∧
      root.document = .ok text ∧ ¬ (targetNames root).Nodup := by
  have hnames : ((withCdroms (some "pc-q35") .virtioScsi).root (.constant default)
      .empty).toOption.map targetNames = some ["sdb", "sda", "sda"] := by decide +kernel
  obtain ⟨text, h⟩ := Program.exists_ok (r := ((withCdroms (some "pc-q35") .virtioScsi).build
    (.constant default) .empty).result) (by decide +kernel)
  obtain ⟨root, hroot, hdocument⟩ := Request.build_ok_iff.mp h
  have hroot : (withCdroms (some "pc-q35") .virtioScsi).root (.constant default) .empty =
    .ok root := hroot
  rw [hroot] at hnames
  refine ⟨text, root, h, hroot, hdocument, ?_⟩
  rw [Option.some.inj hnames]
  decide

end VmDescriptor.Fixture
